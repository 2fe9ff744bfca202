/-!
# Blanks, control characters and letter case

What callers type is cleaned before it is used: surrounding blanks go, control characters go, and
fixed words are recognised whatever their letter case. A blank is any character of the Unicode
property `White_Space`; a control character is any of the general category `Cc`.

All of these are functions on lists of characters, with a version on strings beside the ones that
the rest of the library calls.
-/

namespace Storyboard.Text

/-- Whether a character counts as white space. -/
def isBlank (c : Char) : Bool :=
  let n := c.toNat
  (9 ≤ n && n ≤ 13) || n == 0x20 || n == 0x85 || n == 0xA0 || n == 0x1680 ||
    (0x2000 ≤ n && n ≤ 0x200A) || n == 0x2028 || n == 0x2029 || n == 0x202F || n == 0x205F ||
    n == 0x3000

/-- Whether a character is a control character. -/
def isControl (c : Char) : Bool :=
  let n := c.toNat
  n < 0x20 || (0x7F ≤ n && n ≤ 0x9F)

/-- The characters without the blanks at their front. -/
def trimFront (cs : List Char) : List Char := cs.dropWhile isBlank

/-- The characters without the blanks at their end. -/
def trimBack (cs : List Char) : List Char := (cs.reverse.dropWhile isBlank).reverse

/-- The characters without the blanks around them. -/
def trimChars (cs : List Char) : List Char := trimBack (trimFront cs)

/-- The text without the blanks around it. -/
def trim (s : String) : String := String.ofList (trimChars s.toList)

/-- Whether a text has nothing in it but blanks. -/
def isBlankText (s : String) : Bool := s.toList.all isBlank

/-- The small form of a character, as far as it matters for words in ASCII letters: the capitals of
ASCII and the sign for degrees Kelvin, whose small form is the letter `k`. -/
def lowerChar (c : Char) : Char := if c.toNat = 0x212A then 'k' else c.toLower

/-- A word as it is compared with the words that a setting knows: without surrounding blanks and in
small letters. -/
def keyword (s : String) : String := String.ofList ((trimChars s.toList).map lowerChar)

/-! ## Splitting and joining -/

/-- The pieces between the separators; there is always one more piece than separators. -/
def splitOn (sep : Char) : List Char → List (List Char)
  | [] => [[]]
  | c :: cs =>
    if c = sep then [] :: splitOn sep cs
    else
      match splitOn sep cs with
      | [] => [[c]]
      | piece :: pieces => (c :: piece) :: pieces

/-- The pieces with the separator between them. -/
def joinWith (sep : Char) : List (List Char) → List Char
  | [] => []
  | [piece] => piece
  | piece :: pieces => piece ++ sep :: joinWith sep pieces

/-! ## Digits -/

/-- Whether a character is a digit of ASCII. -/
def isDigit (c : Char) : Bool := 48 ≤ c.toNat && c.toNat ≤ 57

/-- The value of a decimal digit. -/
def digitValue (c : Char) : Nat := c.toNat - 48

/-- The value of a hexadecimal digit in either letter case. -/
def hexValue (c : Char) : Option Nat :=
  let n := c.toNat
  if 48 ≤ n ∧ n ≤ 57 then some (n - 48)
  else if 65 ≤ n ∧ n ≤ 70 then some (n - 55)
  else if 97 ≤ n ∧ n ≤ 102 then some (n - 87)
  else none

/-- Whether a character is a hexadecimal digit. -/
def isHexDigit (c : Char) : Bool := (hexValue c).isSome

/-- The number that a run of decimal digits writes. -/
def decimalValue (digits : List Char) : Nat :=
  digits.foldl (fun n c => 10 * n + digitValue c) 0

/-- Reads a natural number below `bound`: an optional plus sign and at least one decimal digit, with
nothing around them. -/
def unsigned (bound : Nat) (cs : List Char) : Option Nat :=
  let digits := match cs with
    | '+' :: rest => rest
    | _ => cs
  if digits ≠ [] ∧ digits.all isDigit = true ∧ decimalValue digits < bound
  then some (decimalValue digits) else none

/-- The hexadecimal digit with the given value, in capitals. -/
def upperHexDigit (n : Nat) : Char := Char.ofNat (if n < 10 then 48 + n else 55 + n)

end Storyboard.Text
