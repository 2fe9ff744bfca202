import Storyboard.Text.Utf8

/-!
# Header fields

A message carries named fields beside its body. Names do not distinguish letter case; a name may
stand more than once.
-/

namespace Storyboard.Net

/-- The header fields of a message, in order. -/
abbrev Headers := List (String × String)

/-- Whether a text can be the value of a field: no control characters but the tabulator. -/
def isHeaderValue (s : String) : Bool :=
  s.toList.all fun c => c = '\t' || (0x20 ≤ c.toNat && c.toNat ≠ 0x7F)

/-- Whether a text has only printable characters of ASCII, blanks and tabulators. -/
def isPlainValue (s : String) : Bool :=
  s.toList.all fun c => c = '\t' || (0x20 ≤ c.toNat && c.toNat < 0x7F)

/-- The name of a field as it is compared. -/
def fieldName (name : String) : String := String.ofList (name.toList.map Char.toLower)

namespace Headers

/-- The first value of a field; the name is given in small letters. -/
def first? (hs : Headers) (name : String) : Option String :=
  (hs.find? fun h => fieldName h.1 = name).map (·.2)

/-- All values of a field; the name is given in small letters. -/
def values (hs : Headers) (name : String) : List String :=
  (hs.filter fun h => fieldName h.1 = name).map (·.2)

/-- The first value of a field, if it is plain. -/
def plain? (hs : Headers) (name : String) : Option String := (hs.first? name).filter isPlainValue

/-- The fields with one value for a name in place of all others. -/
def set (hs : Headers) (name value : String) : Headers :=
  (hs.filter fun h => fieldName h.1 ≠ name) ++ [(name, value)]

end Headers

end Storyboard.Net
