import Storyboard.Json.Malformed
import Storyboard.Json.Value
import Storyboard.Text.Blank

/-!
# Numbers of a JSON text

A number without point and exponent is an integer as long as it fits in 64 bits, signed if it is
negative; `-0` and anything larger is a double. A double is read fast rather than exactly: as many
leading digits as fit in 64 bits make a whole number, and this is multiplied or divided once by a
power of ten. Digits beyond those are dropped, those before the point adding to the exponent.

Numbers up to fifteen digits with small exponents are read exactly this way; longer ones may come
out one unit off the nearest double, and everyone who reads the same text gets the same number.
-/

namespace Storyboard.Json

/-- The parts of a number as they stand in the text. -/
structure Numeral where
  /-- Whether a minus sign comes first. -/
  negative : Bool
  /-- The digits before the point. -/
  whole : List Char
  /-- The digits after the point, if there is one. -/
  fraction : Option (List Char)
  /-- The sign and the digits of the exponent, if there is one. -/
  power : Option (Bool × List Char)
deriving Repr, Inhabited

namespace Numeral

/-- Whether `10 * n + d` no longer fits in 64 bits. -/
def overflows (n d : Nat) : Bool := 18446744073709551616 ≤ 10 * n + d

/-- Takes digits before the point as long as the number fits; every later digit counts one power of
ten. Gives the number and that count. -/
def takeWhole : List Char → Nat → Nat × Nat
  | [], n => (n, 0)
  | c :: cs, n =>
    if overflows n (Text.digitValue c) then (n, cs.length + 1)
    else takeWhole cs (10 * n + Text.digitValue c)

/-- Takes digits after the point as long as the number fits. Gives the number and how many digits
were taken. -/
def takeFraction : List Char → Nat → Nat → Nat × Nat
  | [], n, taken => (n, taken)
  | c :: cs, n, taken =>
    if overflows n (Text.digitValue c) then (n, taken)
    else takeFraction cs (10 * n + Text.digitValue c) (taken + 1)

/-- The whole number `n` times the given power of ten, by one multiplication or division where the
power is at most 308, and by steps of 308 below that. -/
def scaled : (steps : Nat) → Double → Int → Except Malformed Double
  | 0, _, _ => .ok .zero
  | steps + 1, d, e =>
    if e.natAbs ≤ 308 then
      let power := Double.ofNat (Nat.pow 10 e.natAbs)
      if 0 ≤ e then
        let product := d * power
        if product.isFinite then .ok product else .error .numberOutOfRange
      else .ok (d / power)
    else if d.isZero then .ok d
    else if 0 ≤ e then .error .numberOutOfRange
    else scaled steps (d / Double.ofNat (Nat.pow 10 308)) (e + 308)

/-- The signed double made of leading digits and a power of ten. Two steps of `10 ^ 308` bring
every 64-bit number to zero. -/
def toDouble (negative : Bool) (n : Nat) (e : Int) : Except Malformed Double :=
  (scaled 4 (.ofNat n) e).map fun d => if negative then -d else d

/-- The number that the parts write. An exponent beyond `2 ^ 31` decides by its sign alone. -/
def value (p : Numeral) : Except Malformed Number :=
  match p.fraction, p.power with
  | none, none =>
    let n := Text.decimalValue p.whole
    if p.negative then
      if n = 0 then .ok (.double (-Double.zero))
      else if n ≤ 9223372036854775808 then .ok (.integer (-n))
      else if n < 18446744073709551616 then .ok (.double (-Double.ofNat n))
      else
        let (m, e) := takeWhole p.whole 0
        (toDouble true m e).map .double
    else if n < 18446744073709551616 then .ok (.integer n)
    else
      let (m, e) := takeWhole p.whole 0
      (toDouble false m e).map .double
  | fraction, power =>
    let (m, dropped) := takeWhole p.whole 0
    let (m, taken) := takeFraction (fraction.getD []) m 0
    let start : Int := (dropped : Int) - taken
    match power with
    | none => (toDouble p.negative m start).map .double
    | some (down, digits) =>
      let size := Text.decimalValue digits
      if 2147483648 ≤ size then
        if m ≠ 0 ∧ !down then .error .numberOutOfRange
        else .ok (.double (if p.negative then -Double.zero else Double.zero))
      else (toDouble p.negative m (start + (if down then -(size : Int) else size))).map .double

end Numeral

end Storyboard.Json
