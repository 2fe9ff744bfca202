import Mathlib.Algebra.Order.Ring.Nat
import Mathlib.Tactic.Positivity
import Mathlib.Tactic.Ring
import Storyboard.Number.Double

/-!
# How far rounding goes

A result of arithmetic is the exact one, rounded once. `Double.exists_ofUnits` says what the
rounding may change: as long as the exact result is neither so small that the last place is a fixed
one nor too large to be finite, the double is that result up to one part in `2 ^ 53`. Where the last
place counts no more than one, `Double.exists_ofNat` says that nothing changes.

All magnitudes are counted in units, so both are statements about natural numbers.
-/

namespace Storyboard

/-! ## Rounding a quotient -/

/-- The nearest natural number is no more than a half away. -/
theorem nearestEven_near {num den : Nat} (h : 0 < den) :
    2 * (nearestEven num den * den) ≤ 2 * num + den ∧
      2 * num ≤ 2 * (nearestEven num den * den) + den := by
  have hdiv := Nat.div_add_mod' num den
  have hmod := Nat.mod_lt num h
  unfold nearestEven
  simp only
  split
  · omega
  · split
    · rw [Nat.add_mul]
      omega
    · -- a tie, which goes up or down
      rcases Nat.mod_two_eq_zero_or_one (num / den) with heven | hodd
      · rw [heven, Nat.add_zero]
        omega
      · rw [hodd, Nat.add_mul]
        omega

/-- Where an odd number is the nearest one there is no tie. -/
theorem nearestEven_near_of_odd {num den : Nat} (h : 0 < den) (hodd : nearestEven num den % 2 = 1) :
    2 * (nearestEven num den * den) < 2 * num + den ∧
      2 * num < 2 * (nearestEven num den * den) + den := by
  have hdiv := Nat.div_add_mod' num den
  have hmod := Nat.mod_lt num h
  unfold nearestEven at hodd ⊢
  simp only at hodd ⊢
  split at hodd
  · rename_i hless
    rw [if_pos hless]
    omega
  · rename_i hless
    split at hodd
    · rename_i hmore
      rw [if_neg hless, if_pos hmore, Nat.add_mul]
      omega
    · omega

theorem nearestEven_le {num den n : Nat} (h : 0 < den) (hle : num ≤ n * den) :
    nearestEven num den ≤ n := by
  obtain ⟨hup, -⟩ := @nearestEven_near num den h
  by_contra hmore
  have hmul : (n + 1) * den ≤ nearestEven num den * den := Nat.mul_le_mul_right _ (by omega)
  rw [Nat.add_mul] at hmul
  omega

theorem le_nearestEven {num den n : Nat} (h : 0 < den) (hle : n * den ≤ num) :
    n ≤ nearestEven num den := by
  obtain ⟨-, hdown⟩ := @nearestEven_near num den h
  by_contra hless
  have hmul : (nearestEven num den + 1) * den ≤ n * den := Nat.mul_le_mul_right _ (by omega)
  rw [Nat.add_mul] at hmul
  omega

theorem nearestEven_mul {q den : Nat} (h : 0 < den) : nearestEven (q * den) den = q := by
  unfold nearestEven
  rw [Nat.mul_div_cancel _ h, Nat.mul_mod_left]
  exact if_pos h

/-- A fraction need not be in lowest terms. -/
theorem nearestEven_mul_mul {num den k : Nat} (hk : 0 < k) :
    nearestEven (num * k) (den * k) = nearestEven num den := by
  unfold nearestEven
  simp only [Nat.mul_div_mul_right _ _ hk, Nat.mul_mod_mul_right, ← Nat.mul_assoc,
    Nat.mul_lt_mul_right hk]

/-- A quotient that is less than a half away from a number is rounded to it. -/
theorem nearestUp_eq {num den n : Nat} (hlow : 2 * (n * den) ≤ 2 * num + den)
    (hhigh : 2 * num + den < 2 * (n * den) + 2 * den) : nearestUp num den = n := by
  unfold nearestUp
  refine Nat.div_eq_of_lt_le ?_ ?_
  · rw [Nat.mul_left_comm]
    exact hlow
  · rw [Nat.mul_left_comm, Nat.add_mul]
    omega

namespace Double

/-- One number is another up to one part in `2 ^ 53`. -/
def IsNear (a b : Nat) : Prop :=
  a * 2 ^ 53 ≤ b * 2 ^ 53 + b ∧ b * 2 ^ 53 ≤ a * 2 ^ 53 + b

/-- The units have 1074 places below the point. The number stands apart from the power, which is not
to be evaluated. -/
theorem unitsPerOne_eq {places : Nat} (h : places = 1074) : unitsPerOne = 2 ^ places := by
  delta unitsPerOne
  rw [← h, Nat.pow_eq]

theorem unitsPerOne_pos : 0 < unitsPerOne := by decide +kernel

theorem ofUnits_mul_mul (negative : Bool) {num den k : Nat} (hk : 0 < k) :
    ofUnits negative (num * k) (den * k) = ofUnits negative num den := by
  unfold ofUnits
  simp only [Nat.mul_div_mul_right _ _ hk, Nat.mul_right_comm den k, nearestEven_mul_mul hk]

/-- The last place counts more than one part in `2 ^ 53`, and no more than one part in `2 ^ 52` if
it is not the least one. -/
theorem scale_bounds {num den scale : Nat} (hden : 0 < den)
    (hscale : Nat.log2 (num / den) - 52 = scale) :
    num < 2 ^ 53 * (den * 2 ^ scale) ∧ (scale = 0 ∨ 2 ^ 52 * (den * 2 ^ scale) ≤ num) := by
  have hcomm (bits : Nat) : 2 ^ bits * (den * 2 ^ scale) = 2 ^ (bits + scale) * den := by
    rw [Nat.pow_add]
    ring
  rw [hcomm, hcomm, ← Nat.div_lt_iff_lt_mul hden, ← Nat.le_div_iff_mul_le hden]
  constructor
  · refine Nat.lt_of_lt_of_le Nat.lt_log2_self (Nat.pow_le_pow_right (by decide) ?_)
    omega
  · rcases Nat.eq_zero_or_pos scale with hzero | hpos
    · exact .inl hzero
    · have hne : num / den ≠ 0 := by
        rintro hnone
        rw [hnone, Nat.log2_zero] at hscale
        omega
      refine .inr ((Nat.le_log2 hne).mp ?_)
      omega

/-- The mantissa has no more than 53 bits, or is the number behind them, and it has no less unless
the last place is the least one. -/
theorem mantissa_bounds {num den scale : Nat} (hden : 0 < den)
    (hscale : Nat.log2 (num / den) - 52 = scale) :
    nearestEven num (den * 2 ^ scale) ≤ 2 ^ 53 ∧
      (scale = 0 ∨ 2 ^ 52 ≤ nearestEven num (den * 2 ^ scale)) := by
  obtain ⟨hlt, hle⟩ := scale_bounds hden hscale
  have hpos : 0 < den * 2 ^ scale := by positivity
  exact ⟨nearestEven_le hpos hlt.le, hle.imp id (le_nearestEven hpos)⟩

/-- What a mantissa makes at a scale. -/
inductive Rounds (negative : Bool) (mantissa scale : Nat) : Double → Prop
  /-- The double with this mantissa and scale. -/
  | plain (bits : mantissa ≠ 2 ^ 53) (fits : scale ≤ 2045) :
      Rounds negative mantissa scale (.finite negative mantissa scale)
  /-- A mantissa that was rounded up to the number behind 53 bits moves to the next scale. -/
  | carried (bits : mantissa = 2 ^ 53) (fits : scale + 1 ≤ 2045) :
      Rounds negative mantissa scale (.finite negative (2 ^ 52) (scale + 1))
  /-- There is no such scale. -/
  | tooLarge (large : 2045 < scale ∨ mantissa = 2 ^ 53 ∧ scale = 2045) :
      Rounds negative mantissa scale (.infinite negative)

theorem rounds_ofUnits (negative : Bool) {num den scale : Nat}
    (hscale : Nat.log2 (num / den) - 52 = scale) :
    Rounds negative (nearestEven num (den * 2 ^ scale)) scale (ofUnits negative num den) := by
  unfold ofUnits
  simp only [Nat.pow_eq, hscale]
  generalize nearestEven num (den * 2 ^ scale) = mantissa
  by_cases hcarry : mantissa = 9007199254740992
  · simp only [hcarry, if_true]
    by_cases hfits : scale + 1 ≤ 2045
    · rw [if_pos hfits]
      exact .carried rfl hfits
    · rw [if_neg hfits]
      exact .tooLarge (by omega)
  · simp only [hcarry, if_false]
    by_cases hfits : scale ≤ 2045
    · rw [if_pos hfits]
      exact .plain hcarry hfits
    · rw [if_neg hfits]
      exact .tooLarge (by omega)

/-- The mantissa is rounded where the scale puts the last place, and rounding up to the next scale
does not change the number. -/
theorem ofUnits_eq_finite {negative : Bool} {num den scale : Nat}
    (hscale : Nat.log2 (num / den) - 52 = scale)
    (h : (ofUnits negative num den).isFinite = true) :
    ∃ m e, ofUnits negative num den = .finite negative m e ∧
      units m e = nearestEven num (den * 2 ^ scale) * 2 ^ scale := by
  have hrounds := rounds_ofUnits negative hscale
  generalize ofUnits negative num den = d at *
  cases hrounds with
  | plain => exact ⟨_, _, rfl, rfl⟩
  | carried hcarry =>
    refine ⟨_, _, rfl, ?_⟩
    rw [units, hcarry, Nat.pow_eq, Nat.pow_succ]
    omega
  | tooLarge => exact absurd h Bool.false_ne_true

/-- At the last scale the mantissa must not be rounded up to the next one. -/
theorem isFinite_ofUnits_of_scale {negative : Bool} {num den scale : Nat}
    (hscale : Nat.log2 (num / den) - 52 = scale) (hle : scale ≤ 2045)
    (hcarry : scale = 2045 → nearestEven num (den * 2 ^ scale) ≠ 2 ^ 53) :
    (ofUnits negative num den).isFinite = true := by
  have hrounds := rounds_ofUnits negative hscale
  generalize ofUnits negative num den = d at *
  cases hrounds with
  | plain => rfl
  | carried => rfl
  | tooLarge hlarge => exact absurd hlarge (by omega)

/-- The scale of a number of usual size. The last place counts no more than one part in `2 ^ 52`,
and more than one part in `2 ^ 53`. -/
theorem exists_scale {num den : Nat} (hden : 0 < den) (hlow : 2 ^ 52 * den ≤ num)
    (hhigh : num < 2 ^ 64 * unitsPerOne * den) :
    ∃ scale, Nat.log2 (num / den) - 52 = scale ∧ scale ≤ 2044 ∧
      2 ^ 52 * (den * 2 ^ scale) ≤ num ∧ num < 2 ^ 53 * (den * 2 ^ scale) := by
  obtain ⟨places, hplaces⟩ : ∃ places, places = 1074 := ⟨_, rfl⟩
  have hone := unitsPerOne_eq hplaces
  have hquotient : 2 ^ 52 ≤ num / den := (Nat.le_div_iff_mul_le hden).mpr hlow
  have hbelow : Nat.log2 (num / den) < 64 + places := by
    rw [hone] at hhigh
    rw [Nat.log2_lt (by omega), Nat.pow_add]
    exact (Nat.div_lt_iff_lt_mul hden).mpr hhigh
  obtain ⟨scale, hscale⟩ : ∃ scale, Nat.log2 (num / den) - 52 = scale := ⟨_, rfl⟩
  obtain ⟨hup, hdown⟩ := scale_bounds hden hscale
  refine ⟨scale, hscale, by omega, ?_, hup⟩
  rcases hdown with rfl | hdown
  · rwa [Nat.pow_zero, Nat.mul_one]
  · exact hdown

/-- Rounding changes a number that is not too small by no more than one part in `2 ^ 53`, if what it
gives is finite. -/
theorem exists_ofUnits_of_isFinite {negative : Bool} {num den : Nat} (hden : 0 < den)
    (hlow : 2 ^ 52 * den ≤ num) (h : (ofUnits negative num den).isFinite = true) :
    ∃ m e, ofUnits negative num den = .finite negative m e ∧ IsNear (units m e * den) num := by
  obtain ⟨scale, hscale⟩ : ∃ scale, Nat.log2 (num / den) - 52 = scale := ⟨_, rfl⟩
  obtain ⟨m, e, hfinite, hunits⟩ := ofUnits_eq_finite hscale h
  refine ⟨m, e, hfinite, ?_⟩
  have hplace : 2 ^ 52 * (den * 2 ^ scale) ≤ num := by
    rcases (scale_bounds hden hscale).2 with rfl | hplace
    · rwa [Nat.pow_zero, Nat.mul_one]
    · exact hplace
  obtain ⟨hup, hdown⟩ := @nearestEven_near num (den * 2 ^ scale) (by positivity)
  rw [hunits, Nat.mul_assoc, Nat.mul_comm (2 ^ scale) den]
  unfold IsNear
  generalize nearestEven num (den * 2 ^ scale) * (den * 2 ^ scale) = rounded at *
  generalize den * 2 ^ scale = place at *
  omega

/-- Rounding changes a number of usual size by no more than one part in `2 ^ 53`. -/
theorem exists_ofUnits (negative : Bool) {num den : Nat} (hden : 0 < den)
    (hlow : 2 ^ 52 * den ≤ num) (hhigh : num < 2 ^ 64 * unitsPerOne * den) :
    ∃ m e, ofUnits negative num den = .finite negative m e ∧ IsNear (units m e * den) num := by
  obtain ⟨scale, hscale, hbound, -, -⟩ := exists_scale hden hlow hhigh
  exact exists_ofUnits_of_isFinite hden hlow
    (isFinite_ofUnits_of_scale hscale (by omega) fun hlast => absurd hlast (by omega))

/-- A natural number of 53 bits is not rounded. -/
theorem exists_ofNat {n : Nat} (hpos : 0 < n) (h : n < 2 ^ 53) :
    ∃ m e, ofNat n = .finite false m e ∧ units m e = n * unitsPerOne := by
  obtain ⟨places, hplaces⟩ : ∃ places, places = 1074 := ⟨_, rfl⟩
  have hone := unitsPerOne_eq hplaces
  have hne : n * 2 ^ places / 1 ≠ 0 := by
    rw [Nat.div_one]
    positivity
  have hlog : Nat.log2 (n * 2 ^ places / 1) < 53 + places := by
    rw [Nat.log2_lt hne, Nat.div_one, Nat.pow_add]
    exact Nat.mul_lt_mul_of_pos_right h (by positivity)
  unfold ofNat
  rw [hone]
  obtain ⟨scale, hscale⟩ : ∃ scale, Nat.log2 (n * 2 ^ places / 1) - 52 = scale := ⟨_, rfl⟩
  have hfits : (ofUnits false (n * 2 ^ places) 1).isFinite = true :=
    isFinite_ofUnits_of_scale hscale (by omega) fun hlast => absurd hlast (by omega)
  obtain ⟨m, e, hfinite, hunits⟩ := ofUnits_eq_finite hscale hfits
  refine ⟨m, e, hfinite, ?_⟩
  rw [hunits, Nat.one_mul]
  -- the last place counts no more than one
  obtain ⟨more, hmore⟩ := Nat.exists_eq_add_of_le (by omega : scale ≤ places)
  have hsplit : n * 2 ^ places = n * 2 ^ more * 2 ^ scale := by
    rw [hmore, Nat.pow_add]
    ring
  rw [hsplit, nearestEven_mul (by positivity)]

/-! ## Products and quotients -/

theorem two_pow_le_unitsPerOne : 2 ^ 105 ≤ unitsPerOne := by decide +kernel

-- the number of units in one is not to be evaluated
attribute [local irreducible] unitsPerOne

theorem mul_finite (s t : Bool) (m e n f : Nat) :
    finite s m e * finite t n f = ofUnits (s != t) (units m e * units n f) unitsPerOne := by
  change mul (finite s m e) (finite t n f) = _
  rw [mul]

theorem div_finite (s t : Bool) (m e f : Nat) {n : Nat} (h : n ≠ 0) :
    finite s m e / finite t n f = ofUnits (s != t) (units m e * unitsPerOne) (units n f) := if_neg h

end Double

end Storyboard
