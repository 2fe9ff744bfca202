import Storyboard.Text.Utf8

/-!
# Percent encoding

In an address a byte may be written as a percent sign and two hexadecimal digits. Which characters
must be written so depends on the part of the address; characters beyond ASCII always are.
-/

namespace Storyboard.Url

/-- Undoes the percent encoding of a list of bytes. A percent sign without two digits stays. -/
def percentDecode : List Nat → List Nat
  | 37 :: a :: b :: rest =>
    match Text.hexValue (Char.ofNat a), Text.hexValue (Char.ofNat b) with
    | some x, some y => (16 * x + y) :: percentDecode rest
    | _, _ => 37 :: percentDecode (a :: b :: rest)
  | b :: rest => b :: percentDecode rest
  | [] => []

/-- A byte as a percent sign and two digits. -/
def percentByte (b : Nat) : List Char :=
  ['%', Text.upperHexDigit (b / 16), Text.upperHexDigit (b % 16)]

/-- Percent-encodes the characters of a set, and those that are always encoded: controls and all
beyond ASCII. -/
def percentEncode (set : List Char) (cs : List Char) : List Char :=
  cs.flatMap fun c =>
    if c.toNat < 0x20 || 0x7F ≤ c.toNat || set.contains c then
      (Text.charBytes c).flatMap percentByte
    else [c]

/-- The characters that are encoded in a fragment. -/
def fragmentSet : List Char := [' ', '\x22', '<', '>', '\x60']

/-- The characters that are encoded in a path. -/
def pathSet : List Char := fragmentSet ++ ['#', '?', '\x7b', '\x7d']

/-- The characters that are encoded in a name or a password. -/
def userSet : List Char := pathSet ++ ['/', ':', ';', '=', '@', '[', '\\', ']', '^', '|']

/-- The characters that are encoded in a query. -/
def querySet : List Char := [' ', '\x22', '#', '<', '>']

/-- The characters that are encoded in a query of a web address. -/
def webQuerySet : List Char := querySet ++ ['\x27']

end Storyboard.Url
