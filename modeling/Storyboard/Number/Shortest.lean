import Storyboard.Number.Double

/-!
# Shortest decimals

The decimal text of a double is the shortest one that reads back as the same double, and of the
shortest ones the nearest. A decimal reads back as the double exactly if it lies in the interval of
numbers that round to it; the ends belong to the interval when the mantissa is even.

For one, two, up to seventeen digits the two neighbours of the value on the grid of that many digits
are tested against the interval. If any point of a grid lies in the interval, one of the two
neighbours does, so the first grid with a hit has the fewest digits. All comparisons are between
natural numbers.

A `Layout` says how the digits are then set out. The two layouts in use are `Layout.wire`, for the
numbers of a JSON text, and `Layout.plain`, for numbers inside a message.
-/

namespace Storyboard

/-- A positive decimal number `digits * 10 ^ exponent`. -/
structure Decimal where
  /-- The significant digits read as one natural number. -/
  digits : Nat
  /-- The power of ten that the digits are multiplied by. -/
  exponent : Int
deriving DecidableEq, Repr, Inhabited

namespace Decimal

/-- Moves trailing zeros of the digits into the exponent; `fuel` bounds their number. -/
def stripZeros : Nat → Decimal → Decimal
  | 0, d => d
  | fuel + 1, d =>
    if d.digits ≠ 0 ∧ d.digits % 10 = 0 then stripZeros fuel ⟨d.digits / 10, d.exponent + 1⟩ else d

end Decimal

/-- The number of decimal digits of a natural number. -/
def decimalLength (n : Nat) : Nat := (Nat.toDigits 10 n).length

/-- The greatest `k` with `10 ^ k ≤ num / den`, for a positive quotient. -/
def decimalExponent (num den : Nat) : Int :=
  if den ≤ num then (decimalLength (num / den) : Int) - 1
  else
    let length := decimalLength (den / num)
    if num * Nat.pow 10 (length - 1) = den then -((length : Int) - 1) else -(length : Int)

namespace Double

/-- The interval of numbers that round to a finite magnitude, in quarters of its last place: the
lower end, the value and the upper end. Below a power of two the next double is half as far away. -/
def roundingInterval (mantissa scale : Nat) : Nat × Nat × Nat :=
  let low := if mantissa = 4503599627370496 ∧ 0 < scale then 4 * mantissa - 1 else 4 * mantissa - 2
  (low, 4 * mantissa, 4 * mantissa + 2)

/-- The decimal with at most `count` digits that lies in the rounding interval and is nearest to the
value, if there is one. -/
def neighbour (mantissa scale count : Nat) : Option Decimal :=
  let (low, value, high) := roundingInterval mantissa scale
  let unit := Nat.pow 2 scale
  let one := 4 * unitsPerOne
  let exponent := decimalExponent (value * unit) one - (count - 1 : Nat)
  let up := unit * Nat.pow 10 (-exponent).toNat
  let grid := one * Nat.pow 10 exponent.toNat
  let below := value * up / grid
  let inside (c : Nat) : Bool :=
    if mantissa % 2 = 0 then low * up ≤ c * grid ∧ c * grid ≤ high * up
    else low * up < c * grid ∧ c * grid < high * up
  let belowGap := value * up - below * grid
  let aboveGap := (below + 1) * grid - value * up
  let pick (c : Nat) : Decimal := Decimal.stripZeros (count + 1) ⟨c, exponent⟩
  match inside below, inside (below + 1) with
  | true, true => some (pick (if aboveGap < belowGap ∨ (aboveGap = belowGap ∧ below % 2 = 1)
      then below + 1 else below))
  | true, false => some (pick below)
  | false, true => some (pick (below + 1))
  | false, false => none

/-- The first hit among grids of `count`, `count + 1`, ... digits; `fuel` bounds the search. -/
def shortestFrom (mantissa scale : Nat) : (fuel count : Nat) → Decimal
  | 0, _ => ⟨0, 0⟩
  | fuel + 1, count =>
    match neighbour mantissa scale count with
    | some d => d
    | none => shortestFrom mantissa scale fuel (count + 1)

/-- The shortest decimal that reads back as the given positive finite magnitude. Seventeen digits
always suffice. -/
def shortest (mantissa scale : Nat) : Decimal := shortestFrom mantissa scale 17 1

end Double

/-- How the digits of a decimal are set out. -/
structure Layout where
  /-- The most places before the point that are written out; `none` if all are. -/
  maxWhole : Option Nat
  /-- The most zeros after the point that are written out; `none` if all are. -/
  maxZeros : Option Nat
  /-- Whether a whole number ends in a point and a zero. -/
  wholePoint : Bool

namespace Layout

/-- Numbers of a JSON text: up to sixteen places before the point, up to four zeros after it, an
exponent beyond that, and always a sign that the number is no integer. -/
def wire : Layout := ⟨some 16, some 4, true⟩

/-- Numbers inside a message: all places are written out, and a whole number has no point. -/
def plain : Layout := ⟨none, none, false⟩

/-- A run of zeros. -/
def zeros (n : Nat) : List Char := List.replicate n '0'

/-- Whether a count is within a limit, where no limit admits all. -/
def within (n : Nat) : Option Nat → Bool
  | none => true
  | some limit => n ≤ limit

/-- The text of a positive decimal. -/
def decimal (l : Layout) (d : Decimal) : List Char :=
  let digits := Nat.toDigits 10 d.digits
  let point : Int := digits.length + d.exponent
  if 0 < point ∧ within point.toNat l.maxWhole then
    if 0 ≤ d.exponent then
      digits ++ zeros d.exponent.toNat ++ (if l.wholePoint then ['.', '0'] else [])
    else digits.take point.toNat ++ ['.'] ++ digits.drop point.toNat
  else if point ≤ 0 ∧ within (-point).toNat l.maxZeros then
    ['0', '.'] ++ zeros (-point).toNat ++ digits
  else
    let tail := if digits.length = 1 then [] else '.' :: digits.drop 1
    let power := point - 1
    digits.take 1 ++ tail ++ ['e'] ++ (if power < 0 then ['-'] else []) ++
      Nat.toDigits 10 power.natAbs

/-- The text of a double. -/
def double (l : Layout) : Double → List Char
  | .nan => ['N', 'a', 'N']
  | .infinite s => (if s then ['-'] else []) ++ ['i', 'n', 'f']
  | .finite s m e =>
    (if s then ['-'] else []) ++
      (if m = 0 then '0' :: (if l.wholePoint then ['.', '0'] else [])
       else l.decimal (Double.shortest m e))

end Layout

end Storyboard
