import Storyboard.Text.Blank

/-!
# Punycode

A label of any script is written in ASCII (RFC 3492): its ASCII characters come first, and then, in
the order of their code points, where each of the others has to be put in. Every insertion is a
number that counts how many possible insertions to pass over, written with 36 digits of which those
below a threshold end a number. The threshold is adapted to the size of the numbers before.

Neither direction needs a bound on its steps: reading follows the digits, and writing a number makes
it smaller with every digit.
-/

namespace Storyboard.Url.Punycode

/-- The character of a digit: letters, then decimal digits. -/
def digitChar (d : Nat) : Char := Char.ofNat (if d < 26 then 97 + d else 22 + d)

/-- The value of a digit. -/
def digitValue? (c : Char) : Option Nat :=
  if c.isLower then some (c.toNat - 97)
  else if c.isUpper then some (c.toNat - 65)
  else if Text.isDigit c then some (c.toNat - 22)
  else none

/-- The threshold of the digit with the given weight number, which is a multiple of 36. -/
def threshold (k bias : Nat) : Nat := max 1 (min 26 (k - bias))

/-- Makes a number small enough, and counts by how much. -/
def shrink (n k : Nat) : Nat × Nat :=
  if 455 < n then shrink (n / 35) (k + 36) else (n, k)
termination_by n
decreasing_by omega

/-- The bias after a number, of which `count` characters have now been put in. -/
def adapt (n count : Nat) (isFirst : Bool) : Nat :=
  let n := if isFirst then n / 700 else n / 2
  let (n, k) := shrink (n + n / count) 0
  k + 36 * n / (n + 38)

/-- The bias at the start. -/
def firstBias : Nat := 72

/-! ## Reading -/

/-- What has been read. -/
structure Reading where
  /-- The characters put in so far. -/
  label : List Nat
  /-- The last character that was put in. -/
  last : Nat := 0x80
  /-- Where the next insertion would be, and what is added to it by the digits of a number. -/
  place : Nat := 0
  /-- Where that was before the number. -/
  start : Nat := 0
  /-- The weight of the next digit. -/
  weight : Nat := 1
  /-- The number of that weight. -/
  k : Nat := 36
  /-- The bias. -/
  bias : Nat := firstBias
deriving DecidableEq, Repr

namespace Reading

/-- Puts a character in at the place that has been reached. -/
def putIn (r : Reading) : Option Reading :=
  let count := r.label.length + 1
  let c := r.last + r.place / count
  let at_ := r.place % count
  if c.isValidChar then
    some
      { label := r.label.take at_ ++ c :: r.label.drop at_, last := c, place := at_ + 1,
        start := at_ + 1, bias := adapt (r.place - r.start) count (r.start = 0) }
  else none

/-- Reads a digit. -/
def step (r : Reading) (c : Char) : Option Reading := do
  let d ← digitValue? c
  let t := threshold r.k r.bias
  let r := { r with place := r.place + d * r.weight }
  if 4294967296 ≤ r.place then none
  else if d < t then r.putIn
  else if 4294967296 ≤ r.weight * (36 - t) then none
  else some { r with weight := r.weight * (36 - t), k := r.k + 36 }

/-- Whether no number has been begun. -/
def isBetween (r : Reading) : Bool := r.k = 36

end Reading

/-- Reads a label. -/
def decode? (cs : List Char) : Option (List Char) := do
  let back := cs.reverse.takeWhile (· ≠ '-')
  let basic := cs.take (cs.length - back.length - 1)
  let r ← back.reverse.foldlM Reading.step { label := basic.map Char.toNat }
  if r.isBetween then some (r.label.map Char.ofNat) else none

/-! ## Writing -/

/-- The digits of a number. -/
def numberDigits (bias k n : Nat) : List Char :=
  let t := threshold k bias
  if n < t then [digitChar n]
  else digitChar (t + (n - t) % (36 - t)) :: numberDigits bias (k + 36) ((n - t) / (36 - t))
termination_by n
decreasing_by
  have : 1 ≤ threshold k bias := Nat.le_max_left ..
  exact Nat.lt_of_le_of_lt (Nat.div_le_self ..) (by omega)

/-- What has been written. -/
structure Writing where
  /-- The digits, newest first. -/
  digits : List Char := []
  /-- How many possible insertions have been passed over. -/
  passed : Nat := 0
  /-- How many characters have been put in, those of ASCII included. -/
  count : Nat
  /-- Whether none has been put in that is not of ASCII. -/
  isFirst : Bool := true
  /-- The bias. -/
  bias : Nat := firstBias
deriving DecidableEq, Repr

namespace Writing

/-- Passes one character of the label when the character `c` is put in everywhere. -/
def pass (c : Nat) (w : Writing) (d : Nat) : Writing :=
  if d < c then { w with passed := w.passed + 1 }
  else if d = c then
    { digits := (numberDigits w.bias 36 w.passed).reverse ++ w.digits, passed := 0
      count := w.count + 1, isFirst := false, bias := adapt w.passed (w.count + 1) w.isFirst }
  else w

/-- Puts in all characters of a label that are not of ASCII, given in order and without repetition;
`last` is where the count of characters has come to. -/
def putIn (label : List Nat) : (others : List Nat) → (last : Nat) → Writing → Writing
  | [], _, w => w
  | c :: others, last, w =>
    let w := { w with passed := w.passed + (c - last) * (w.count + 1) }
    let w := label.foldl (pass c) w
    putIn label others (c + 1) { w with passed := w.passed + 1 }

end Writing

/-- Writes a label. -/
def encode (cs : List Char) : List Char :=
  let basic := cs.filter (·.toNat < 0x80)
  let label := cs.map Char.toNat
  let others := (label.filter (0x80 ≤ ·)).eraseDups.mergeSort
  let w := Writing.putIn label others 0x80 { count := basic.length }
  basic ++ (if basic = [] then [] else ['-']) ++ w.digits.reverse

end Storyboard.Url.Punycode
