import Storyboard.Number.Shortest

/-!
# JSON values and their text

A JSON value keeps the members of an object as a list, in the order in which they are written. A
number is either an integer or a double: the two are told apart by whether the text has a point or
an exponent, and are written back so that the difference is kept.

`Json.text` writes a value compactly. Of a string it escapes the quote, the backslash and the
characters below the space, and nothing else.
-/

namespace Storyboard

namespace Json

/-- A number of a JSON text. -/
inductive Number
  /-- A number written without point and exponent. -/
  | integer (value : Int)
  /-- Any other number. -/
  | double (value : Double)
deriving DecidableEq, Repr, Inhabited

/-- The number as a double. -/
def Number.toDouble : Number → Double
  | .integer i => .ofInt i
  | .double d => d

/-- The text of a number. -/
def Number.text : Number → List Char
  | .integer i => (if i < 0 then ['-'] else []) ++ Nat.toDigits 10 i.natAbs
  | .double d => Layout.wire.double d

end Json

/-- A JSON value. -/
inductive Json
  /-- The value that stands for absence. -/
  | null
  /-- A truth value. -/
  | boolean (value : Bool)
  /-- A number. -/
  | number (value : Json.Number)
  /-- A string. -/
  | text (value : String)
  /-- A sequence of values. -/
  | list (items : List Json)
  /-- Named members in the order in which they are written. -/
  | object (members : List (String × Json))
deriving Repr, Inhabited

namespace Json

/-- A natural number as a value. -/
def nat (n : Nat) : Json := .number (.integer n)

/-- A double as a value. -/
def double (d : Double) : Json := .number (.double d)

/-- An optional value, with `null` for absence. -/
def ofOption {α : Type} (f : α → Json) : Option α → Json
  | none => .null
  | some a => f a

/-! ## Access -/

/-- The member of the given name. -/
def field? (name : String) : Json → Option Json
  | .object members => (members.find? (fun m => m.1 = name)).map (·.2)
  | _ => none

/-- The string that a value is. -/
def text? : Json → Option String
  | .text s => some s
  | _ => none

/-! ## Writing -/

/-- One character inside a string. -/
def escapeChar (c : Char) : List Char :=
  if c.toNat = 0x22 then ['\\', '\x22']
  else if c = '\\' then ['\\', '\\']
  else if c = '\n' then ['\\', 'n']
  else if c = '\r' then ['\\', 'r']
  else if c = '\t' then ['\\', 't']
  else if c.toNat = 8 then ['\\', 'b']
  else if c.toNat = 12 then ['\\', 'f']
  else if c.toNat < 0x20 then
    ['\\', 'u', '0', '0', Nat.digitChar (c.toNat / 16), Nat.digitChar (c.toNat % 16)]
  else [c]

/-- A string between quotes. -/
def quote (s : String) : List Char := '\x22' :: s.toList.flatMap escapeChar ++ ['\x22']

mutual

/-- The characters of a value's text. -/
def chars : Json → List Char
  | .null => ['n', 'u', 'l', 'l']
  | .boolean true => ['t', 'r', 'u', 'e']
  | .boolean false => ['f', 'a', 'l', 's', 'e']
  | .number n => n.text
  | .text s => quote s
  | .list items => '[' :: itemChars items ++ [']']
  | .object members => '{' :: memberChars members ++ ['}']

/-- The items of a list with commas between them. -/
def itemChars : List Json → List Char
  | [] => []
  | [v] => chars v
  | v :: w :: rest => chars v ++ ',' :: itemChars (w :: rest)

/-- The members of an object with commas between them. -/
def memberChars : List (String × Json) → List Char
  | [] => []
  | [(k, v)] => quote k ++ ':' :: chars v
  | (k, v) :: m :: rest => quote k ++ ':' :: chars v ++ ',' :: memberChars (m :: rest)

end

/-- The compact text of a value. -/
def toText (v : Json) : String := String.ofList (chars v)

end Json

end Storyboard
