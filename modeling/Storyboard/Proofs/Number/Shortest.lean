import Storyboard.Number.Shortest
import Storyboard.Proofs.Number.Rounding

/-!
# Decimals that round to a double

The search for the shortest decimal tests points of grids against the interval of numbers that round
to a double. `Double.Covers` says that a quotient lies in that interval. Rounding a quotient gives a
double that covers it, a grid has a hit exactly at points that are covered, and whatever the search
comes up with is such a point.
-/

namespace Storyboard

namespace Double

/-- A quotient of units lies in the rounding interval of a magnitude. -/
def Covers (m e num den : Nat) : Prop :=
  let (low, _, high) := roundingInterval m e
  if m % 2 = 0 then low * 2 ^ e * den ≤ 4 * num ∧ 4 * num ≤ high * 2 ^ e * den
  else low * 2 ^ e * den < 4 * num ∧ 4 * num < high * 2 ^ e * den

/-- What is covered is no more than half of the last place away. -/
theorem Covers.near {m e num den : Nat} (h : Covers m e num den) :
    4 * (m * (2 ^ e * den)) ≤ 4 * num + 2 * (2 ^ e * den) ∧
      4 * num ≤ 4 * (m * (2 ^ e * den)) + 2 * (2 ^ e * den) := by
  unfold Covers roundingInterval at h
  simp only [Nat.mul_assoc _ (2 ^ e) den] at h
  generalize 2 ^ e * den = place at h ⊢
  have hlow : 4 * (m * place) ≤
      (if m = 4503599627370496 ∧ 0 < e then 4 * m - 1 else 4 * m - 2) * place + 2 * place := by
    split
    · rw [Nat.sub_mul, Nat.mul_assoc]
      omega
    · rw [Nat.sub_mul, Nat.mul_assoc]
      omega
  rw [Nat.add_mul, Nat.mul_assoc 4 m] at h
  split at h <;> omega

theorem covers_mul_iff {m e num den k : Nat} (hk : 0 < k) :
    Covers m e (num * k) (den * k) ↔ Covers m e num den := by
  unfold Covers
  simp only [← Nat.mul_assoc, Nat.mul_le_mul_right_iff hk, Nat.mul_lt_mul_right hk]

/-- A quotient of usual size is covered by the double that it is rounded to. -/
theorem exists_ofUnits_covers (negative : Bool) {num den : Nat} (hden : 0 < den)
    (hlow : 2 ^ 52 * den ≤ num) (hhigh : num < 2 ^ 64 * unitsPerOne * den) :
    ∃ m e, ofUnits negative num den = .finite negative m e ∧ 2 ^ 52 ≤ m ∧
      2 ^ 51 * (2 ^ e * den) ≤ num ∧ Covers m e num den := by
  obtain ⟨scale, hscale, hbound, hplace, hplace'⟩ := exists_scale hden hlow hhigh
  have hpos : 0 < den * 2 ^ scale := by positivity
  obtain ⟨hup, hdown⟩ := @nearestEven_near num (den * 2 ^ scale) hpos
  have hodd := @nearestEven_near_of_odd num (den * 2 ^ scale) hpos
  have hle := le_nearestEven hpos hplace
  have hrounds := rounds_ofUnits negative hscale
  have hcomm : 2 ^ scale * den = den * 2 ^ scale := Nat.mul_comm _ _
  generalize nearestEven num (den * 2 ^ scale) = m at *
  generalize ofUnits negative num den = d at *
  cases hrounds with
  | tooLarge hlarge => exact absurd hlarge (by omega)
  | carried hcarry =>
    -- the mantissa goes over to the next scale, where the double below is half as far away
    have hnext : 2 ^ (scale + 1) * den = 2 * (den * 2 ^ scale) := by
      rw [Nat.pow_succ]
      ring
    refine ⟨4503599627370496, scale + 1, rfl, by decide, ?_, ?_⟩
    · rw [hnext]
      omega
    · unfold Covers roundingInterval
      simp only [Nat.mul_assoc _ (2 ^ (scale + 1)) den, hnext, true_and, Nat.succ_pos, if_true]
      rw [hcarry] at hup hdown
      generalize den * 2 ^ scale = place at *
      omega
  | plain =>
    refine ⟨m, scale, rfl, hle, ?_, ?_⟩
    · rw [hcomm]
      omega
    · unfold Covers roundingInterval
      simp only [Nat.mul_assoc _ (2 ^ scale) den, hcomm]
      generalize den * 2 ^ scale = place at *
      by_cases heven : m % 2 = 0
      · rw [if_pos heven, Nat.add_mul, Nat.mul_assoc 4 m]
        refine ⟨?_, by omega⟩
        split
        · rename_i hsmallest
          rw [hsmallest.1]
          omega
        · rw [Nat.sub_mul, Nat.mul_assoc]
          omega
      · obtain ⟨hup, hdown⟩ := hodd (by omega)
        rw [if_neg heven, if_neg (by omega), Nat.add_mul, Nat.sub_mul, Nat.mul_assoc 4 m]
        omega

/-! ## One grid -/

/-- Whether a point of a grid lies in the rounding interval. -/
def fits (m e : Nat) (exponent : Int) (c : Nat) : Bool :=
  let (low, _, high) := roundingInterval m e
  let up := Nat.pow 2 e * Nat.pow 10 (-exponent).toNat
  let grid := 4 * unitsPerOne * Nat.pow 10 exponent.toNat
  if m % 2 = 0 then low * up ≤ c * grid ∧ c * grid ≤ high * up
  else low * up < c * grid ∧ c * grid < high * up

theorem fits_iff_covers {m e c : Nat} {exponent : Int} :
    fits m e exponent c = true ↔
      Covers m e (c * 10 ^ exponent.toNat * unitsPerOne) (10 ^ (-exponent).toNat) := by
  have hpoint : c * (4 * unitsPerOne * 10 ^ exponent.toNat) =
      4 * (c * 10 ^ exponent.toNat * unitsPerOne) := by ring
  unfold fits Covers
  simp only [roundingInterval, Nat.pow_eq, hpoint, ← Nat.mul_assoc]
  split <;> simp

/-- The exponent of the grid of so many digits. -/
def gridExponent (m e count : Nat) : Int :=
  decimalExponent (4 * m * Nat.pow 2 e) (4 * unitsPerOne) - (count - 1 : Nat)

/-- The point of a grid next below a magnitude. -/
def pointBelow (m e : Nat) (exponent : Int) : Nat :=
  4 * m * (Nat.pow 2 e * Nat.pow 10 (-exponent).toNat) /
    (4 * unitsPerOne * Nat.pow 10 exponent.toNat)

/-- A grid comes up with one of the two points around the magnitude, if they lie in the interval. -/
theorem exists_neighbour_eq (m e count : Nat) :
    ∃ (nearer : Prop) (_ : Decidable nearer), neighbour m e count =
      match fits m e (gridExponent m e count) (pointBelow m e (gridExponent m e count)),
        fits m e (gridExponent m e count) (pointBelow m e (gridExponent m e count) + 1) with
      | true, true => some (Decimal.stripZeros (count + 1)
          ⟨if nearer then pointBelow m e (gridExponent m e count) + 1
            else pointBelow m e (gridExponent m e count), gridExponent m e count⟩)
      | true, false => some (Decimal.stripZeros (count + 1)
          ⟨pointBelow m e (gridExponent m e count), gridExponent m e count⟩)
      | false, true => some (Decimal.stripZeros (count + 1)
          ⟨pointBelow m e (gridExponent m e count) + 1, gridExponent m e count⟩)
      | false, false => none := ⟨_, _, rfl⟩

/-- What a grid comes up with lies in the interval. -/
theorem exists_fits_of_neighbour {m e count : Nat} {d : Decimal}
    (h : neighbour m e count = some d) :
    ∃ c, fits m e (gridExponent m e count) c = true ∧
      d = Decimal.stripZeros (count + 1) ⟨c, gridExponent m e count⟩ := by
  obtain ⟨nearer, _, heq⟩ := exists_neighbour_eq m e count
  rw [heq] at h
  split at h
  · rename_i hbelow habove
    obtain rfl := Option.some.inj h
    refine ⟨_, ?_, rfl⟩
    split
    · exact habove
    · exact hbelow
  · rename_i hbelow _
    exact ⟨_, hbelow, (Option.some.inj h).symm⟩
  · rename_i _ habove
    exact ⟨_, habove, (Option.some.inj h).symm⟩
  · exact absurd h (by simp)

/-- A grid comes up with something if a point next to the magnitude lies in the interval. -/
theorem neighbour_isSome {m e count c : Nat} (hfits : fits m e (gridExponent m e count) c = true)
    (hc : c = pointBelow m e (gridExponent m e count) ∨
      c = pointBelow m e (gridExponent m e count) + 1) : (neighbour m e count).isSome = true := by
  obtain ⟨nearer, _, heq⟩ := exists_neighbour_eq m e count
  rw [heq]
  rcases hc with rfl | rfl
  · rw [hfits]
    split <;> simp_all
  · rw [hfits]
    split <;> simp_all

theorem eq_div_or {x g c : Nat} (hup : x < c * g + g) (hdown : c * g < x + g) :
    c = x / g ∨ c = x / g + 1 := by
  have hpos : 0 < g := Nat.pos_of_ne_zero fun h => by simp [h] at hup
  have hlow : x / g < c + 1 := by
    rw [Nat.div_lt_iff_lt_mul hpos, Nat.add_mul, Nat.one_mul]
    exact hup
  have hhigh : c < x / g + 2 := by
    refine Nat.lt_of_mul_lt_mul_right (a := g) ?_
    have hdiv := Nat.div_add_mod' x g
    have hmod := Nat.mod_lt x hpos
    rw [Nat.add_mul]
    omega
  omega

/-- On a grid that is wide enough a point in the interval is next to the magnitude. -/
theorem eq_pointBelow_or {m e c : Nat} {exponent : Int} (hfits : fits m e exponent c = true)
    (hwide : 2 ^ e * 10 ^ (-exponent).toNat < 2 * (unitsPerOne * 10 ^ exponent.toNat)) :
    c = pointBelow m e exponent ∨ c = pointBelow m e exponent + 1 := by
  obtain ⟨hup, hdown⟩ := (fits_iff_covers.mp hfits).near
  have hpoint : c * (4 * unitsPerOne * 10 ^ exponent.toNat) =
      4 * (c * 10 ^ exponent.toNat * unitsPerOne) := by ring
  unfold pointBelow
  simp only [Nat.pow_eq]
  refine eq_div_or ?_ ?_
  · rw [hpoint, Nat.mul_assoc 4 m, Nat.mul_assoc 4 unitsPerOne]
    omega
  · rw [hpoint, Nat.mul_assoc 4 m, Nat.mul_assoc 4 unitsPerOne]
    omega

/-! ## All grids -/

/-- The search goes no further than a grid that is known to come up with something, and whatever the
grids up to that one come up with has a property that the outcome then has. -/
theorem shortestFrom_of_neighbours {m e last : Nat} {P : Decimal → Prop}
    (hlast : (neighbour m e last).isSome = true)
    (hall : ∀ count ≤ last, ∀ d, neighbour m e count = some d → P d) {fuel count : Nat}
    (hcount : count ≤ last) (hfuel : last < count + fuel) : P (shortestFrom m e fuel count) := by
  induction fuel generalizing count with
  | zero => omega
  | succ fuel ih =>
    unfold shortestFrom
    cases hd : neighbour m e count with
    | some d => exact hall count hcount d hd
    | none =>
      have hne : count ≠ last := by
        rintro rfl
        rw [hd] at hlast
        exact absurd hlast (by simp)
      exact ih (by omega) (by omega)

end Double

/-! ## The exponent of a number -/

theorem decimalLength_le {n k : Nat} (hk : 0 < k) (h : n < 10 ^ k) : decimalLength n ≤ k :=
  (Nat.length_toDigits_le_iff (by decide) hk).mpr h

/-- A number below a power of ten has a smaller exponent. -/
theorem decimalExponent_lt {num den k : Nat} (hden : 0 < den) (h : num < 10 ^ (k + 1) * den) :
    decimalExponent num den ≤ k := by
  unfold decimalExponent
  split
  · have hlength := @decimalLength_le (num / den) (k + 1) (by omega)
      ((Nat.div_lt_iff_lt_mul hden).mpr h)
    omega
  · have hpos : 0 < decimalLength (den / num) := Nat.length_toDigits_pos
    simp only
    split <;> omega

/-- A number above a negative power of ten has no smaller exponent. -/
theorem le_decimalExponent {num den k : Nat} (hnum : 0 < num) (hk : 0 < k)
    (h : den < 10 ^ k * num) : -(k : Int) ≤ decimalExponent num den := by
  unfold decimalExponent
  split
  · omega
  · have hlength := @decimalLength_le (den / num) k hk ((Nat.div_lt_iff_lt_mul hnum).mpr h)
    simp only
    split <;> omega

end Storyboard
