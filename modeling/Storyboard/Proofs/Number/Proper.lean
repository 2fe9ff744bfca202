import Mathlib.Tactic.Ring
import Storyboard.Proofs.Number.Rounding

/-!
# Proper doubles

The mantissa and the scale of a double are natural numbers here, and not every pair of them is one
that 64 bits can hold. `Double.IsProper` says which are. Rounding gives nothing else, and it gives a
finite number as long as the exact one is less than half of the last place above the largest one.
-/

namespace Storyboard.Double

/-- A finite number as 64 bits hold it: a mantissa of 53 bits, of which the first one is set unless
the last place is the least one. -/
def IsProper : Double → Prop
  | .finite _ m e => m < 2 ^ 53 ∧ e ≤ 2045 ∧ (e = 0 ∨ 2 ^ 52 ≤ m)
  | _ => False

instance : DecidablePred IsProper
  | .finite .. => inferInstanceAs (Decidable (_ ∧ _))
  | .nan | .infinite _ => isFalse id

theorem IsProper.isFinite {d : Double} (h : d.IsProper) : d.isFinite = true := by
  cases d with
  | finite => rfl
  | _ => exact absurd h id

theorem IsProper.neg {d : Double} (h : d.IsProper) : (-d).IsProper := by
  cases d with
  | finite => exact h
  | _ => exact absurd h id

/-! ## Rounding -/

/-- A finite number that rounding gives is a proper one. -/
theorem isProper_ofUnits {negative : Bool} {num den : Nat} (hden : 0 < den)
    (h : (ofUnits negative num den).isFinite = true) : (ofUnits negative num den).IsProper := by
  obtain ⟨scale, hscale⟩ : ∃ scale, Nat.log2 (num / den) - 52 = scale := ⟨_, rfl⟩
  obtain ⟨hup, hdown⟩ := mantissa_bounds hden hscale
  have hrounds := rounds_ofUnits negative hscale
  generalize ofUnits negative num den = d at *
  cases hrounds with
  | plain hbits hfits => exact ⟨by omega, hfits, hdown⟩
  | carried hbits hfits => exact ⟨by decide, hfits, .inr (by decide)⟩
  | tooLarge => exact absurd h Bool.false_ne_true

/-- Rounding gives a finite number of what is less than half of the last place above the largest
one. -/
theorem isFinite_ofUnits {negative : Bool} {num den top : Nat} (hden : 0 < den) (htop : top = 2045)
    (h : 2 * num < (2 ^ 54 - 1) * (den * 2 ^ top)) :
    (ofUnits negative num den).isFinite = true := by
  obtain ⟨scale, hscale⟩ : ∃ scale, Nat.log2 (num / den) - 52 = scale := ⟨_, rfl⟩
  have hle : scale ≤ top := by
    rcases (scale_bounds hden hscale).2 with hzero | hplace
    · omega
    · by_contra hmore
      have hpow : 2 ^ (top + 1) ≤ 2 ^ scale := Nat.pow_le_pow_right (by decide) (by omega)
      have hmul : den * 2 ^ (top + 1) ≤ den * 2 ^ scale := Nat.mul_le_mul_left _ hpow
      rw [Nat.pow_succ, ← Nat.mul_assoc] at hmul
      omega
  refine isFinite_ofUnits_of_scale hscale (by omega) fun hlast hcarry => ?_
  obtain rfl : scale = top := by omega
  obtain ⟨hup, -⟩ := @nearestEven_near num (den * 2 ^ scale) (by positivity)
  rw [hcarry] at hup
  omega

/-! ## Powers of ten -/

theorem IsNear.le {a b : Nat} (h : IsNear a b) : a * 2 ^ 53 ≤ b * (2 ^ 53 + 1) := by
  rw [Nat.mul_add_one]
  exact h.1

theorem isFinite_tenPower {k : Nat} (hk : k ≤ 308) : (ofNat (10 ^ k)).isFinite = true := by
  obtain ⟨top, htop⟩ : ∃ top, top = 2045 := ⟨_, rfl⟩
  obtain ⟨most, hmost⟩ : ∃ most, most = 308 := ⟨_, rfl⟩
  have hlargest : 2 * (10 ^ most * unitsPerOne) < (2 ^ 54 - 1) * (1 * 2 ^ top) := by
    rw [htop, hmost]
    decide +kernel
  have hle : 10 ^ k * unitsPerOne ≤ 10 ^ most * unitsPerOne :=
    Nat.mul_le_mul_right _ (Nat.pow_le_pow_right (by decide) (by omega))
  exact isFinite_ofUnits (by decide) htop (Nat.lt_of_le_of_lt (Nat.mul_le_mul_left 2 hle) hlargest)

attribute [local irreducible] unitsPerOne

theorem exists_tenPower {k : Nat} (hk : k ≤ 308) :
    ∃ s m e, ofNat (10 ^ k) = .finite s m e ∧ IsNear (units m e) (10 ^ k * unitsPerOne) := by
  have hmany := two_pow_le_unitsPerOne
  have hone : unitsPerOne ≤ 10 ^ k * unitsPerOne := Nat.le_mul_of_pos_left _ (by positivity)
  obtain ⟨m, e, hpower, hnear⟩ :=
    exists_ofUnits_of_isFinite (by decide) (by omega) (isFinite_tenPower hk)
  rw [Nat.mul_one] at hnear
  exact ⟨false, m, e, hpower, hnear⟩

theorem exists_ofNat_near {n : Nat} (hn : n < 2 ^ 64) :
    ∃ s m e, ofNat n = .finite s m e ∧ IsNear (units m e) (n * unitsPerOne) := by
  have hone := unitsPerOne_pos
  have hmany := two_pow_le_unitsPerOne
  rcases Nat.eq_zero_or_pos n with rfl | hpos
  · refine ⟨false, 0, 0, by decide +kernel, ?_⟩
    rw [units, Nat.zero_mul, Nat.zero_mul]
    exact ⟨le_rfl, le_rfl⟩
  · have hle : unitsPerOne ≤ n * unitsPerOne := Nat.le_mul_of_pos_left _ hpos
    have hlt : n * unitsPerOne < 2 ^ 64 * unitsPerOne := Nat.mul_lt_mul_of_pos_right hn hone
    obtain ⟨m, e, hfinite, hnear⟩ :=
      @exists_ofUnits false (n * unitsPerOne) 1 (by decide) (by omega) (by omega)
    rw [Nat.mul_one] at hnear
    exact ⟨false, m, e, hfinite, hnear⟩

theorem isProper_ofNat {n : Nat} (hn : n < 2 ^ 64) : (ofNat n).IsProper := by
  obtain ⟨s, m, e, hfinite, -⟩ := exists_ofNat_near hn
  refine isProper_ofUnits (by decide) ?_
  rw [show ofUnits false (n * unitsPerOne) 1 = ofNat n from rfl, hfinite]
  rfl

/-- A finite product is a proper one. -/
theorem isProper_mul {a b : Double} (h : (a * b).isFinite = true) : (a * b).IsProper := by
  cases a with
  | finite s m e =>
    cases b with
    | finite t n f =>
      rw [mul_finite] at h ⊢
      exact isProper_ofUnits unitsPerOne_pos h
    | nan => exact absurd h Bool.false_ne_true
    | infinite t =>
      change (if m = 0 then nan else infinite (s != t)).isFinite = true at h
      split at h <;> exact absurd h Bool.false_ne_true
  | nan => exact absurd h Bool.false_ne_true
  | infinite s =>
    cases b with
    | finite t n f =>
      change (if n = 0 then nan else infinite (s != t)).isFinite = true at h
      split at h <;> exact absurd h Bool.false_ne_true
    | _ => exact absurd h Bool.false_ne_true

theorem IsProper.units_le {s : Bool} {m e top : Nat} (h : (finite s m e).IsProper)
    (htop : top = 2045) : units m e ≤ (2 ^ 53 - 1) * 2 ^ top := by
  obtain ⟨hm, he, -⟩ := h
  exact Nat.mul_le_mul (by omega) (Nat.pow_le_pow_right (by decide) (by omega))

/-- A proper number stays one when it is divided by a power of ten. -/
theorem IsProper.div_tenPower {d : Double} (h : d.IsProper) {k : Nat} (hpos : 0 < k)
    (hk : k ≤ 308) : (d / ofNat (10 ^ k)).IsProper := by
  obtain ⟨top, htop⟩ : ∃ top, top = 2045 := ⟨_, rfl⟩
  obtain ⟨t, n, f, hten, -, hnear⟩ := exists_tenPower hk
  have hone := unitsPerOne_pos
  have hpower : 10 * unitsPerOne ≤ 10 ^ k * unitsPerOne :=
    Nat.mul_le_mul_right _ (Nat.le_self_pow (by omega) 10)
  have hlarge : unitsPerOne ≤ units n f := by omega
  have hn : n ≠ 0 := by
    rintro rfl
    rw [units, Nat.zero_mul] at hlarge
    omega
  cases d with
  | finite s m e =>
    have hunits := h.units_le htop
    rw [hten, div_finite _ _ _ _ _ hn]
    have hden : 0 < units n f := by omega
    refine isProper_ofUnits hden (isFinite_ofUnits hden htop ?_)
    have htwo : 0 < 2 ^ top := by positivity
    have hplace : 0 < units n f * 2 ^ top := Nat.mul_pos hden htwo
    calc 2 * (units m e * unitsPerOne)
        ≤ 2 * ((2 ^ 53 - 1) * 2 ^ top * units n f) := by gcongr
      _ = (2 ^ 54 - 2) * (units n f * 2 ^ top) := by ring
      _ < (2 ^ 54 - 1) * (units n f * 2 ^ top) := by omega
  | _ => exact absurd h id

/-- A whole number times a power of ten is finite if the exact product leaves some room to the
largest number. -/
theorem isFinite_mul_tenPower {n k top : Nat} (hn : n < 2 ^ 64) (hk : k ≤ 308) (htop : top = 2045)
    (h : 4 * (n * 10 ^ k * unitsPerOne) ≤ (2 ^ 55 - 14) * 2 ^ top) :
    (ofNat n * ofNat (10 ^ k)).isFinite = true := by
  obtain ⟨s, a, b, hfirst, hnear⟩ := exists_ofNat_near hn
  obtain ⟨t, c, f, hsecond, hnear'⟩ := exists_tenPower hk
  have hone := unitsPerOne_pos
  have htwo : 0 < 2 ^ top := by positivity
  rw [hfirst, hsecond, mul_finite]
  refine isFinite_ofUnits hone htop ?_
  have hroom := Nat.mul_le_mul_right unitsPerOne h
  have hplace : 0 < unitsPerOne * 2 ^ top := Nat.mul_pos hone htwo
  have hproduct : (units a b * 2 ^ 53) * (units c f * 2 ^ 53) ≤
      (n * unitsPerOne * (2 ^ 53 + 1)) * (10 ^ k * unitsPerOne * (2 ^ 53 + 1)) :=
    Nat.mul_le_mul hnear.le hnear'.le
  have hleft : (units a b * 2 ^ 53) * (units c f * 2 ^ 53) =
      2 ^ 106 * (units a b * units c f) := by ring
  have hright : (n * unitsPerOne * (2 ^ 53 + 1)) * (10 ^ k * unitsPerOne * (2 ^ 53 + 1)) =
      (2 ^ 53 + 1) ^ 2 * (n * 10 ^ k * unitsPerOne * unitsPerOne) := by ring
  rw [hleft, hright] at hproduct
  have hcomm : (2 ^ 55 - 14) * 2 ^ top * unitsPerOne =
      (2 ^ 55 - 14) * (unitsPerOne * 2 ^ top) := by ring
  rw [hcomm, Nat.mul_assoc 4] at hroom
  generalize n * 10 ^ k * unitsPerOne * unitsPerOne = exact at *
  generalize units a b * units c f = product at *
  generalize unitsPerOne * 2 ^ top = place at *
  omega

end Storyboard.Double
