import Storyboard.Text.Blank

/-!
# Tables of characters

What the Unicode standard says about single characters is kept as text: words with blanks between
them, each about one character or a range of them. Characters are given by their code points in
hexadecimal digits, and a range by its first and its last one with a hyphen between them.
-/

namespace Storyboard.Text

/-- The number that hexadecimal digits stand for. -/
def hexNumber (cs : List Char) : Nat := cs.foldl (fun n c => 16 * n + (hexValue c).getD 0) 0

/-- The words of a text. -/
def words (s : String) : List (List Char) :=
  (splitOn ' ' (s.toList.map fun c => if c = '\n' then ' ' else c)).filter (· ≠ [])

/-- Reads one character or a range. -/
def range (word : List Char) : Nat × Nat :=
  match splitOn '-' word with
  | [first, last] => (hexNumber first, hexNumber last)
  | _ => (hexNumber word, hexNumber word)

/-- Ranges of code points, both ends included. -/
abbrev Ranges := List (Nat × Nat)

namespace Ranges

/-- Reads a table. -/
def ofText (s : String) : Ranges := (words s).map range

/-- Whether a character is in one of the ranges. -/
def has (rs : Ranges) (c : Char) : Bool := rs.any fun r => r.1 ≤ c.toNat && c.toNat ≤ r.2

end Ranges

end Storyboard.Text
