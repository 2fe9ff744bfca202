import Storyboard.Json.Document
import Storyboard.Text.Quoted

/-!
# Faults of reading

Why a document cannot be read as a value of some type. A fault is either one of the text itself or
one of its meaning; `Fault.message` is the only place where the wording stands. A `ReadError` adds
the way from the outermost value to the place of the fault, so that a message may name the place.
-/

namespace Storyboard.Json

/-- Why a document cannot be read as a value of some type. -/
inductive Fault
  /-- The text is no JSON. -/
  | malformed (reason : Malformed)
  /-- A value of another kind is wanted. -/
  | wrongKind (found : Found) (wanted : String)
  /-- The kind is right and the value is not. -/
  | wrongValue (found : Found) (wanted : String)
  /-- A list has the wrong number of items. -/
  | wrongLength (length : Nat) (wanted : String)
  /-- A word is none of those that are known. -/
  | unknownWord (word : String) (known : List String)
  /-- A member is not there. -/
  | missingField (name : String)
  /-- A member is there twice. -/
  | duplicateField (name : String)
  /-- The value is not accepted for a reason of its own type. -/
  | refused (reason : String)

/-- The three kinds of fault: the text ends too early, it is no JSON, or it means nothing. -/
inductive FaultClass
  /-- The text ends too early. -/
  | ending
  /-- The text is no JSON. -/
  | syntactic
  /-- The text is JSON and means nothing here. -/
  | semantic
deriving DecidableEq, Repr

/-- The wording for what stands where something else is wanted. -/
def Found.message : Found → String
  | .null => "null"
  | .boolean b => s!"boolean `{b}`"
  | .number (.integer i) => s!"integer `{i}`"
  | .number (.double d) => s!"floating point `{String.ofList (Layout.wire.double d)}`"
  | .text s => "string " ++ Text.quoted s
  | .list => "sequence"
  | .object => "map"

namespace Fault

/-- The kind of a fault. -/
def kind : Fault → FaultClass
  | .malformed reason => if reason.isEnd then .ending else .syntactic
  | _ => .semantic

/-- A list of words for a message. -/
def wordList (words : List String) : String :=
  String.intercalate ", " (words.map fun w => s!"`{w}`")

/-- The wording of what is known instead of a word. -/
def known : List String → String
  | [a, b] => s!"`{a}` or `{b}`"
  | [a] => s!"`{a}`"
  | words => "one of " ++ wordList words

/-- The wording of a fault. -/
def message : Fault → String
  | .malformed reason => reason.message
  | .wrongKind found wanted => s!"invalid type: {found.message}, expected {wanted}"
  | .wrongValue found wanted => s!"invalid value: {found.message}, expected {wanted}"
  | .wrongLength length wanted => s!"invalid length {length}, expected {wanted}"
  | .unknownWord word words => s!"unknown variant `{word}`, expected {known words}"
  | .missingField name => s!"missing field `{name}`"
  | .duplicateField name => s!"duplicate field `{name}`"
  | .refused reason => reason

end Fault

/-- One step from a value to a part of it. -/
inductive PathStep
  /-- To the member of the given name, or into the word that an object holds. -/
  | member (name : String)
  /-- To the item at the given position. -/
  | item (index : Nat)
  /-- To a key that could not be read. -/
  | unknown
deriving DecidableEq, Repr

/-- A fault and the way to its place. -/
structure ReadError where
  /-- What is wrong. -/
  fault : Fault
  /-- The way from the outermost value to the place. -/
  path : List PathStep

namespace ReadError

/-- A fault at the outermost value. -/
def here (fault : Fault) : ReadError := ⟨fault, []⟩

/-- A fault of the text at the outermost value. -/
def ofMalformed (m : Malformed) : ReadError := .here (.malformed m)

/-- The same fault seen from outside. -/
def inside (step : PathStep) (e : ReadError) : ReadError := { e with path := step :: e.path }

/-- The wording of a path. -/
def pathText : List PathStep → (first : Bool) → String
  | [], _ => ""
  | .item i :: rest, _ => s!"[{i}]" ++ pathText rest false
  | .member name :: rest, first => (if first then name else "." ++ name) ++ pathText rest false
  | .unknown :: rest, first => (if first then "?" else ".?") ++ pathText rest false

/-- The wording of a fault that names its place, unless the place is the outermost value or not
known. -/
def located (e : ReadError) : String :=
  if e.path.all (· = .unknown) then e.fault.message
  else s!"{pathText e.path true}: {e.fault.message}"

end ReadError

/-! ## The faults of a text in reading order -/

namespace ListStop

/-- The fault that a reader meets behind the last item. -/
def fault? : ListStop → Option Malformed
  | .closed => none
  | .atEnd => some .endInList
  | .atEndAfterComma => some .endInValue
  | .trailingComma => some .trailingComma
  | .noPause => some .listPauseExpected

/-- The fault that is met behind the last item when the list is skipped. -/
def skipFault? : ListStop → Option Malformed
  | .trailingComma => some .valueExpected
  | stop => stop.fault?

/-- The fault that is met by a reader who knows that no item follows. -/
def endFault? : ListStop → Option Malformed
  | .closed => none
  | .atEnd => some .endInList
  | .trailingComma => some .trailingComma
  | .atEndAfterComma | .noPause => some .trailingCharacters

end ListStop

namespace ObjectStop

/-- The fault that a reader meets behind the last member. -/
def fault? : ObjectStop → Option Malformed
  | .closed => none
  | .atEnd => some .endInObject
  | .atEndAfterComma => some .endInValue
  | .trailingComma => some .trailingComma
  | .noPause => some .objectPauseExpected
  | .noKey _ => some .keyExpected
  | .badKey reason => some reason.read

/-- The fault that is met behind the last member when the object is skipped. -/
def skipFault? : ObjectStop → Option Malformed
  | .atEndAfterComma => some .endInObject
  | .trailingComma => some .keyExpected
  | .badKey reason => some reason.skip
  | stop => stop.fault?

/-- The same fault with its place: what follows a member is looked for as a key. -/
def readError? (stop : ObjectStop) : Option ReadError :=
  stop.fault?.map fun m => ⟨.malformed m, [.unknown]⟩

end ObjectStop

/-- The fault of something that may have failed. -/
def fault? {α : Type} : Except Malformed α → Option Malformed
  | .ok _ => none
  | .error m => some m

namespace Doc

mutual

/-- The first fault of a document for a reader that reads all of it, where lists and objects may be
nested as deep as `room` says. -/
def readError? (room : Nat) : Doc → Option ReadError
  | .null | .boolean _ => none
  | .number n => (fault? n).map .ofMalformed
  | .text s => (fault? s).map .ofMalformed
  | .list items stop =>
    if room = 0 then some (.ofMalformed .tooDeep)
    else (itemError? (room - 1) 0 items).or (stop.fault?.map .ofMalformed)
  | .object members stop =>
    if room = 0 then some (.ofMalformed .tooDeep)
    else (memberError? (room - 1) members).or stop.readError?
  | .missing reason => some (.ofMalformed reason.read)
  | .noColon reason => some (.ofMalformed reason)

/-- The first fault of the items of a list, from the given position on. -/
def itemError? (room index : Nat) : List Doc → Option ReadError
  | [] => none
  | d :: rest =>
    ((readError? room d).map (.inside (.item index))).or (itemError? room (index + 1) rest)

/-- The first fault of the members of an object. A missing colon is a fault of the object. -/
def memberError? (room : Nat) : List (Key × Doc) → Option ReadError
  | [] => none
  | (.error m, _) :: _ => some ⟨.malformed m, [.unknown]⟩
  | (.ok _, .noColon m) :: _ => some (.ofMalformed m)
  | (.ok name, d) :: rest =>
    ((readError? room d).map (.inside (.member name))).or (memberError? room rest)

end

mutual

/-- The first fault of a document for a reader that skips it. -/
def skipFault? : Doc → Option Malformed
  | .null | .boolean _ | .number _ | .text _ => none
  | .list items stop => (itemSkipFault? items).or stop.skipFault?
  | .object members stop => (memberSkipFault? members).or stop.skipFault?
  | .missing reason => some reason.skip
  | .noColon reason => some reason

/-- The first fault of the items of a skipped list. -/
def itemSkipFault? : List Doc → Option Malformed
  | [] => none
  | d :: rest => (skipFault? d).or (itemSkipFault? rest)

/-- The first fault of the members of a skipped object. -/
def memberSkipFault? : List (Key × Doc) → Option Malformed
  | [] => none
  | (_, d) :: rest => (skipFault? d).or (memberSkipFault? rest)

end

/-- What a document is, for a message. -/
def found : Doc → Except Malformed Found
  | .null => .ok .null
  | .boolean b => .ok (.boolean b)
  | .number n => n.map .number
  | .text s => s.map .text
  | .list .. => .ok .list
  | .object .. => .ok .object
  | .missing reason => .error reason.read
  | .noColon reason => .error reason

end Doc

/-! ## The value of a document -/

/-- Puts a member into a list that is sorted by name, replacing one of the same name. -/
def insertMember {α : Type} (name : String) (value : α) : List (String × α) → List (String × α)
  | [] => [(name, value)]
  | (n, v) :: rest =>
    if name < n then (name, value) :: (n, v) :: rest
    else if name = n then (name, value) :: rest
    else (n, v) :: insertMember name value rest

namespace Doc

mutual

/-- The value of a document, its members sorted by name; of two members of one name the later one
stays. Faults are passed over: the value means something only if there are none. -/
def value : Doc → Json
  | .null | .missing _ | .noColon _ => .null
  | .boolean b => .boolean b
  | .number n => match n with | .ok n => .number n | .error _ => .null
  | .text s => match s with | .ok s => .text s | .error _ => .null
  | .list items _ => .list (itemValues items)
  | .object members _ => .object (memberValues members [])

/-- The values of the items of a list. -/
def itemValues : List Doc → List Json
  | [] => []
  | d :: rest => value d :: itemValues rest

/-- The values of the members of an object, put into a sorted list. -/
def memberValues : List (Key × Doc) → List (String × Json) → List (String × Json)
  | [], done => done
  | (.ok k, d) :: rest, done => memberValues rest (insertMember k (value d) done)
  | (.error _, _) :: rest, done => memberValues rest done

end

end Doc

/-- How deep lists and objects of a text may be nested. -/
def deepest : Nat := 127

/-- Reads a text as a value, with nothing behind it. -/
def ofChars (cs : List Char) : Except ReadError Json :=
  let (doc, followed) := Doc.ofChars cs
  match doc.readError? deepest with
  | some e => .error e
  | none => if followed then .error (.ofMalformed .trailingCharacters) else .ok doc.value

end Storyboard.Json
