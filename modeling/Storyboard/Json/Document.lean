import Storyboard.Json.Token

/-!
# Documents

A document is a JSON text as far as it goes: the tree of its values, with the faults of the text as
leaves of the tree where they stand. Reading a document as a value of some type walks the tree in
the order of the text, so the first fault that the walk meets is the first one that matters to that
type: a fault behind a member that nobody asks for may differ from a fault behind one that is
wanted.

The tree is built by an automaton with a stack of unfinished lists and objects. One token at a time
is put into the tree; there is no recursion on the nesting and no text is too deep for it.
-/

namespace Storyboard.Json

/-- What stands where something else is wanted. -/
inductive Found
  /-- The value `null`. -/
  | null
  /-- A truth value. -/
  | boolean (value : Bool)
  /-- A number. -/
  | number (value : Number)
  /-- A string. -/
  | text (value : String)
  /-- A list. -/
  | list
  /-- An object. -/
  | object
deriving Repr, Inhabited

/-- How a list ends. -/
inductive ListStop
  /-- By its closing bracket. -/
  | closed
  /-- With the text, right after the opening bracket or after an item. -/
  | atEnd
  /-- With the text, after a comma. -/
  | atEndAfterComma
  /-- By its closing bracket right after a comma. -/
  | trailingComma
  /-- By something that is neither a comma nor the closing bracket. -/
  | noPause
deriving DecidableEq, Repr, Inhabited

/-- How an object ends. -/
inductive ObjectStop
  /-- By its closing brace. -/
  | closed
  /-- With the text, right after the opening brace or after a member. -/
  | atEnd
  /-- With the text, after a comma. -/
  | atEndAfterComma
  /-- By its closing brace right after a comma. -/
  | trailingComma
  /-- By something that is neither a comma nor the closing brace. -/
  | noPause
  /-- By something that is not a string where a key should stand; what it is, or why it is no
  value at all. -/
  | noKey (there : Except Malformed Found)
  /-- By a key that is no complete string. -/
  | badKey (reason : Gap)

/-- The key of a member, or why it makes no characters. -/
abbrev Key := Except Malformed String

/-- A JSON text as far as it goes. -/
inductive Doc
  /-- The value `null`. -/
  | null
  /-- A truth value. -/
  | boolean (value : Bool)
  /-- A number, or why it has no value. -/
  | number (value : Except Malformed Number)
  /-- A string, or why it makes no characters. -/
  | text (value : Except Malformed String)
  /-- A list. -/
  | list (items : List Doc) (stop : ListStop)
  /-- An object. -/
  | object (members : List (Key × Doc)) (stop : ObjectStop)
  /-- No value stands here. -/
  | missing (reason : Gap)
  /-- The key is not followed by a colon. -/
  | noColon (fault : Malformed)
deriving Inhabited

namespace Doc

/-! ## Building -/

/-- A list or object that is not finished yet. Finished parts are kept newest first. -/
inductive Frame
  /-- A list with its items. -/
  | list (items : List Doc)
  /-- An object with its members. -/
  | object (members : List (Key × Doc))
  /-- An object with its members and the key of the next one. -/
  | member (members : List (Key × Doc)) (key : Key)

/-- What comes next. -/
inductive Awaited
  /-- A value. -/
  | value
  /-- The first item of a list, or its end. -/
  | firstItem
  /-- An item behind a comma. -/
  | item
  /-- A comma or the end of the list. -/
  | listPause
  /-- The first key of an object, or its end. -/
  | firstKey
  /-- A key behind a comma. -/
  | key
  /-- A colon behind a key. -/
  | colon
  /-- A comma or the end of the object. -/
  | objectPause

/-- The state of the builder. -/
inductive Builder
  /-- Inside the value: the unfinished lists and objects, innermost first. -/
  | inside (stack : List Frame) (awaited : Awaited)
  /-- The value is complete, and something may follow it. -/
  | complete (doc : Doc) (followed : Bool)
  /-- The text stops before the value is complete. -/
  | stopped (doc : Doc)

namespace Builder

/-- A document that ends the text becomes the last part of everything around it. -/
def stop (doc : Doc) : List Frame → Doc
  | [] => doc
  | .list items :: rest => stop (.list (items.reverse ++ [doc]) .atEnd) rest
  | .object members :: rest => stop (.object members.reverse .atEnd) rest
  | .member members key :: rest =>
    stop (.object (members.reverse ++ [(key, doc)]) .atEnd) rest

/-- Puts a finished value in its place. -/
def place (doc : Doc) : List Frame → Builder
  | [] => .complete doc false
  | .list items :: rest => .inside (.list (doc :: items) :: rest) .listPause
  | .member members key :: rest => .inside (.object ((key, doc) :: members) :: rest) .objectPause
  | .object members :: rest => .stopped (stop doc (.object members :: rest))

/-- Ends the innermost list. -/
def endList (how : ListStop) : List Frame → Builder
  | .list items :: rest =>
    let doc := Doc.list items.reverse how
    if how = .closed then place doc rest else .stopped (stop doc rest)
  | stack => .stopped (stop (.missing (.plain .valueExpected)) stack)

/-- Ends the innermost object before its closing brace. -/
def breakObject (how : ObjectStop) : List Frame → Builder
  | .object members :: rest => .stopped (stop (.object members.reverse how) rest)
  | stack => .stopped (stop (.missing (.plain .valueExpected)) stack)

/-- Ends the innermost object by its closing brace. -/
def closeObject : List Frame → Builder
  | .object members :: rest => place (.object members.reverse .closed) rest
  | stack => .stopped (stop (.missing (.plain .valueExpected)) stack)

/-- A token where a value is awaited. -/
def startValue (stack : List Frame) : Token → Builder
  | .null => place .null stack
  | .boolean b => place (.boolean b) stack
  | .number n => place (.number n) stack
  | .text s => place (.text s) stack
  | .openList => .inside (.list [] :: stack) .firstItem
  | .openObject => .inside (.object [] :: stack) .firstKey
  | .gap reason => .stopped (stop (.missing reason) stack)
  | .closeList | .closeObject | .comma | .colon =>
    .stopped (stop (.missing (.plain .valueExpected)) stack)

/-- What stands where a key should. -/
def foundAt : Token → Except Malformed Found
  | .null => .ok .null
  | .boolean b => .ok (.boolean b)
  | .number n => n.map .number
  | .text s => s.map .text
  | .openList => .ok .list
  | .openObject => .ok .object
  | .gap reason => .error reason.read
  | .closeList | .closeObject | .comma | .colon => .error .valueExpected

/-- A token where a key is awaited. -/
def startKey (stack : List Frame) (t : Token) : Builder :=
  match stack, t with
  | .object members :: rest, .text s => .inside (.member members s :: rest) .colon
  | stack, .gap reason =>
    if reason.lead = .quote then breakObject (.badKey reason) stack
    else breakObject (.noKey (.error reason.read)) stack
  | stack, t => breakObject (.noKey (foundAt t)) stack

/-- Puts one token into the tree. -/
def step : Builder → Token → Builder
  | .inside stack .value, t => startValue stack t
  | .inside stack .firstItem, .closeList => endList .closed stack
  | .inside stack .firstItem, t => startValue stack t
  | .inside stack .item, .closeList => endList .trailingComma stack
  | .inside stack .item, t => startValue stack t
  | .inside stack .listPause, .comma => .inside stack .item
  | .inside stack .listPause, .closeList => endList .closed stack
  | .inside stack .listPause, _ => endList .noPause stack
  | .inside stack .firstKey, .closeObject => closeObject stack
  | .inside stack .firstKey, t => startKey stack t
  | .inside stack .key, .closeObject => breakObject .trailingComma stack
  | .inside stack .key, t => startKey stack t
  | .inside stack .colon, .colon => .inside stack .value
  | .inside stack .colon, _ => .stopped (stop (.noColon .colonExpected) stack)
  | .inside stack .objectPause, .comma => .inside stack .key
  | .inside stack .objectPause, .closeObject => closeObject stack
  | .inside stack .objectPause, _ => breakObject .noPause stack
  | .complete doc _, _ => .complete doc true
  | .stopped doc, _ => .stopped doc

/-- The end of the text. -/
def finish : Builder → Builder
  | .inside stack .value => .stopped (stop (.missing .atEnd) stack)
  | .inside stack .firstItem | .inside stack .listPause => endList .atEnd stack
  | .inside stack .item => endList .atEndAfterComma stack
  | .inside stack .firstKey | .inside stack .objectPause => breakObject .atEnd stack
  | .inside stack .key => breakObject .atEndAfterComma stack
  | .inside stack .colon => .stopped (stop (.noColon .endInObject) stack)
  | b => b

end Builder

/-- The document that tokens write, and whether something follows its value. -/
def ofTokens (ts : List Token) : Doc × Bool :=
  match (ts.foldl Builder.step (.inside [] .value)).finish with
  | .complete doc followed => (doc, followed)
  | .stopped doc => (doc, false)
  | .inside stack _ => (Builder.stop (.missing .atEnd) stack, false)

/-- The document that a text writes. -/
def ofChars (cs : List Char) : Doc × Bool := ofTokens (Token.ofChars cs)

/-- The document that a text writes that comes as bytes. -/
def ofBytes (bs : List Nat) : Doc × Bool := ofTokens (Token.ofBytes bs)

/-! ## From a value -/

mutual

/-- The document of a value. -/
def ofJson : Json → Doc
  | .null => .null
  | .boolean b => .boolean b
  | .number n => .number (.ok n)
  | .text s => .text (.ok s)
  | .list items => .list (ofItems items) .closed
  | .object members => .object (ofMembers members) .closed

/-- The documents of the items of a list. -/
def ofItems : List Json → List Doc
  | [] => []
  | v :: rest => ofJson v :: ofItems rest

/-- The documents of the members of an object. -/
def ofMembers : List (String × Json) → List (Key × Doc)
  | [] => []
  | (k, v) :: rest => (.ok k, ofJson v) :: ofMembers rest

end

end Doc

end Storyboard.Json
