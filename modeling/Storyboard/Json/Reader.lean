import Storyboard.Json.Fault

/-!
# Readers

A reader reads a document as a value of some type. The same reader serves three forms of a document,
which differ in little but in what they say about faults:

* a text, whose own faults come up in the order of the text and whose nesting is limited;
* a value, where each object has its members sorted and each name once;
* a part that was set aside, whole and free of faults, until it was known how to read it.

The combinators of this module read single values and lists; those for objects with known members,
for fixed words and for tagged alternatives are in modules of their own.
-/

namespace Storyboard.Json

/-- The form of a document. -/
inductive Form
  /-- A text, and how deep lists and objects may still be nested. -/
  | text (room : Nat)
  /-- A value. -/
  | value
  /-- A part of a text or value that was set aside. -/
  | setAside
deriving DecidableEq, Repr

/-- Whether the document is a text, whose faults are still to come up. -/
def Form.isText : Form → Bool
  | .text _ => true
  | _ => false

/-- Goes into a list or an object. -/
def Form.enter : Form → Except ReadError Form
  | .text 0 => .error (.here (.malformed .tooDeep))
  | .text (room + 1) => .ok (.text room)
  | form => .ok form

/-- A way of reading a document as a value of a type. -/
structure Reader (α : Type) where
  /-- Reads a document of the given form. -/
  read : Form → Doc → Except ReadError α

/-- Fails with an error, if there is one. -/
def demandNo : Option ReadError → Except ReadError Unit
  | none => .ok ()
  | some e => .error e

/-- Fails with a fault of the text, if there is one. -/
def demand (fault : Option Malformed) : Except ReadError Unit := demandNo (fault.map .ofMalformed)

/-- Fails because something else is wanted than what is there. -/
def wrongKind {α : Type} (wanted : String) (d : Doc) : Except ReadError α :=
  match d.found with
  | .ok found => .error (.here (.wrongKind found wanted))
  | .error m => .error (.here (.malformed m))

/-- The outcome of reading a part, with the step to the part in front of the path of a fault. -/
def within {α : Type} (step : PathStep) : Except ReadError α → Except ReadError α
  | .ok a => .ok a
  | .error e => .error (e.inside step)

/-- Reads the value of a member. A missing colon is a fault of the object, not of the member. -/
def Reader.member {α : Type} (r : Reader α) (form : Form) (name : String) :
    Doc → Except ReadError α
  | .noColon m => .error (.here (.malformed m))
  | d => within (.member name) (r.read form d)

namespace Reader

variable {α β : Type}

/-- Reads a string as a value of some type, or refuses it; `wanted` names what the string should
be. -/
def stringAs (wanted : String) (parse : String → Except String α) : Reader α where
  read _
    | .text (.ok s) =>
      match parse s with
      | .ok a => .ok a
      | .error reason => .error (.here (.refused reason))
    | d => wrongKind wanted d

/-- Reads a string. -/
def string : Reader String := stringAs "a string" .ok

/-- Reads a number as a double. -/
def double : Reader Double where
  read _
    | .number (.ok n) => .ok n.toDouble
    | d => wrongKind "f64" d

/-- Reads a truth value. -/
def boolean : Reader Bool where
  read _
    | .boolean b => .ok b
    | d => wrongKind "a boolean" d

/-- Reads a natural number of 32 bits. -/
def word : Reader UInt32 where
  read _
    | .number (.ok (.integer i)) =>
      if 0 ≤ i ∧ i < 4294967296 then .ok (.ofNat i.toNat)
      else .error (.here (.wrongValue (.number (.integer i)) "u32"))
    | d => wrongKind "u32" d

/-- Reads any value. -/
def any : Reader Json where
  read form d :=
    match form with
    | .text room => (demandNo (d.readError? room)).map fun _ => d.value
    | _ => .ok d.value

/-- Reads a value that may be `null`. -/
def optional (r : Reader α) : Reader (Option α) where
  read form
    | .null => .ok none
    | .missing reason =>
      if reason.lead = .nullWord then .error (.here (.malformed reason.read))
      else (r.read form (.missing reason)).map some
    | d => (r.read form d).map some

/-- Reads a value and refuses some of them. -/
def mapExcept (r : Reader α) (f : α → Except String β) : Reader β where
  read form d := do
    match f (← r.read form d) with
    | .ok b => .ok b
    | .error reason => .error (.here (.refused reason))

/-- Reads a value and turns it into another. -/
def map (f : α → β) (r : Reader α) : Reader β where
  read form d := (r.read form d).map f

/-- Reads the items of a list from the given position on. -/
def items (r : Reader α) (form : Form) : List Doc → Nat → Except ReadError (List α)
  | [], _ => .ok []
  | d :: rest, i => do
    let a ← within (.item i) (r.read form d)
    let as ← items r form rest (i + 1)
    .ok (a :: as)

/-- Reads a list. -/
def list (r : Reader α) : Reader (List α) where
  read form
    | .list ds stop => do
      let form ← form.enter
      let as ← items r form ds 0
      demand stop.fault?
      .ok as
    | d => wrongKind "a sequence" d

/-- Reads the document of a text, with nothing behind the value unless `more` allows it. -/
def ofDoc (r : Reader α) (more : Bool) (text : Doc × Bool) : Except ReadError α := do
  let (doc, followed) := text
  let a ← r.read (.text deepest) doc
  if followed && !more then .error (.here (.malformed .trailingCharacters)) else .ok a

/-- Reads a text. -/
def ofChars (r : Reader α) (more : Bool) (cs : List Char) : Except ReadError α :=
  r.ofDoc more (Doc.ofChars cs)

/-- Reads a text that comes as bytes. -/
def ofBytes (r : Reader α) (more : Bool) (bs : List Nat) : Except ReadError α :=
  r.ofDoc more (Doc.ofBytes bs)

/-- Reads a value. -/
def ofJson (r : Reader α) (v : Json) : Except ReadError α := r.read .value (Doc.ofJson v)

end Reader

end Storyboard.Json
