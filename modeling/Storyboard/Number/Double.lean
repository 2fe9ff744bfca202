/-!
# Double-precision numbers

Seconds, volumes and scales travel as IEEE 754 double-precision numbers. Here such a number is a
value of an ordinary inductive type, so that every operation on it is exact arithmetic on natural
numbers followed by one rounding, and can be evaluated and reasoned about like any other function.

The smallest positive double is `2 ^ -1074`, and every finite double is a multiple of it. A finite
number is therefore written `mantissa * 2 ^ scale` in units of `2 ^ -1074`; the scale is a natural
number and no negative exponents occur. `Double.ofUnits` is the only place where rounding happens:
it takes the exact magnitude as a quotient of natural numbers, counted in those units, and rounds to
nearest with ties to the even mantissa.
-/

namespace Storyboard

/-- The quotient `num / den` rounded to the nearest natural number, a tie going to the even one. -/
def nearestEven (num den : Nat) : Nat :=
  let q := num / den
  let r := num % den
  if 2 * r < den then q else if den < 2 * r then q + 1 else q + q % 2

/-- The quotient `num / den` rounded to the nearest natural number, a tie going up. -/
def nearestUp (num den : Nat) : Nat :=
  (2 * num + den) / (2 * den)

/-- A double-precision number. -/
inductive Double
  /-- No number. -/
  | nan
  /-- Infinity, negative or positive. -/
  | infinite (negative : Bool)
  /-- The number `± mantissa * 2 ^ scale / 2 ^ 1074`. -/
  | finite (negative : Bool) (mantissa scale : Nat)
deriving DecidableEq, Repr, Inhabited

namespace Double

/-- How many of the units in which a finite magnitude is counted make one. -/
def unitsPerOne : Nat := Nat.pow 2 1074

/-- The magnitude of a finite number in units of `2 ^ -1074`. -/
def units (mantissa scale : Nat) : Nat := mantissa * Nat.pow 2 scale

/-- The double nearest to `± num / den` units. The scale is the least one at which the mantissa
fits in 53 bits; a mantissa rounded up to `2 ^ 53` moves to the next scale. -/
def ofUnits (negative : Bool) (num den : Nat) : Double :=
  let scale := Nat.log2 (num / den) - 52
  let mantissa := nearestEven num (den * Nat.pow 2 scale)
  let (mantissa, scale) :=
    if mantissa = 9007199254740992 then (4503599627370496, scale + 1) else (mantissa, scale)
  if scale ≤ 2045 then .finite negative mantissa scale else .infinite negative

/-- Positive zero. -/
def zero : Double := .finite false 0 0

/-- The double nearest to a natural number. -/
def ofNat (n : Nat) : Double := ofUnits false (n * unitsPerOne) 1

/-- The double nearest to an integer. -/
def ofInt (n : Int) : Double := ofUnits (decide (n < 0)) (n.natAbs * unitsPerOne) 1

/-- The double nearest to the quotient of two natural numbers. -/
def ofQuotient (num den : Nat) : Double := ofUnits false (num * unitsPerOne) den

/-- The number with its sign turned. -/
def neg : Double → Double
  | .nan => .nan
  | .infinite s => .infinite (!s)
  | .finite s m e => .finite (!s) m e

/-- The exact product, rounded once. -/
def mul : Double → Double → Double
  | .finite s m e, .finite t n f => ofUnits (s != t) (units m e * units n f) unitsPerOne
  | .nan, _ | _, .nan => .nan
  | .infinite s, .infinite t => .infinite (s != t)
  | .infinite s, .finite t n _ => if n = 0 then .nan else .infinite (s != t)
  | .finite s m _, .infinite t => if m = 0 then .nan else .infinite (s != t)

/-- The exact quotient, rounded once. -/
def div : Double → Double → Double
  | .finite s m e, .finite t n f =>
    if n = 0 then (if m = 0 then .nan else .infinite (s != t))
    else ofUnits (s != t) (units m e * unitsPerOne) (units n f)
  | .nan, _ | _, .nan => .nan
  | .infinite _, .infinite _ => .nan
  | .infinite s, .finite t _ _ => .infinite (s != t)
  | .finite s _ _, .infinite t => .finite (s != t) 0 0

instance : Mul Double := ⟨mul⟩
instance : Div Double := ⟨div⟩
instance : Neg Double := ⟨neg⟩

/-- Whether the number is neither infinite nor absent. -/
def isFinite : Double → Bool
  | .finite .. => true
  | _ => false

/-- Whether the number is zero, of either sign. -/
def isZero : Double → Bool
  | .finite _ m _ => m == 0
  | _ => false

/-- Whether the number is below zero. Negative zero is not. -/
def isNegative : Double → Bool
  | .nan => false
  | .infinite s => s
  | .finite s m _ => s && m != 0

/-- Whether the number lies between zero and one, both included. -/
def isUnitInterval : Double → Bool
  | .finite s m e => m == 0 || (!s && units m e ≤ unitsPerOne)
  | _ => false

/-- The magnitude of a finite number rounded to a natural number, a half going up. -/
def roundMagnitude : Double → Option Nat
  | .finite _ m e => some (nearestUp (units m e) unitsPerOne)
  | _ => none

end Double

end Storyboard
