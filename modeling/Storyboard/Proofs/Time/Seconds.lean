import Storyboard.Proofs.Number.Rounding
import Storyboard.Proofs.Time.Arithmetic

/-!
# Times in seconds

A time is divided by a thousand when it is sent and multiplied by a thousand when it is read back,
and both results are rounded. For a count below `2 ^ 51` the two errors together stay below half a
millisecond, so that the count is found again.
-/

namespace Storyboard

namespace Double

theorem IsNear.cancel {a b c : Nat} (h : IsNear (a * c) (b * c)) (hc : 0 < c) : IsNear a b := by
  obtain ⟨hup, hdown⟩ := h
  constructor
  · refine Nat.le_of_mul_le_mul_right ?_ hc
    rw [Nat.add_mul, Nat.mul_right_comm, Nat.mul_right_comm b]
    exact hup
  · refine Nat.le_of_mul_le_mul_right ?_ hc
    rw [Nat.add_mul, Nat.mul_right_comm, Nat.mul_right_comm a]
    exact hdown

-- the number of units in one is not to be evaluated
attribute [local irreducible] unitsPerOne

theorem ofNat_div_ofNat {n k : Nat} (hn : 0 < n) (hn' : n < 2 ^ 53) (hk : 0 < k)
    (hk' : k < 2 ^ 53) :
    ofNat n / ofNat k = ofUnits false (n * unitsPerOne * unitsPerOne) (k * unitsPerOne) := by
  obtain ⟨mn, en, hofNat, hunits⟩ := exists_ofNat hn hn'
  obtain ⟨mk, ek, hofNat', hunits'⟩ := exists_ofNat hk hk'
  have hmk : mk ≠ 0 := by
    rintro rfl
    rw [units, Nat.zero_mul] at hunits'
    exact absurd hunits' (Nat.mul_pos hk unitsPerOne_pos).ne
  rw [hofNat, hofNat', div_finite _ _ _ _ _ hmk, hunits, hunits']
  rfl

/-- A quotient of natural numbers is of usual size. -/
theorem quotient_usual {n k : Nat} (hn : 0 < n) (hn' : n < 2 ^ 53) (hk : 0 < k)
    (hk' : k < 2 ^ 53) :
    2 ^ 52 * (k * unitsPerOne) ≤ n * unitsPerOne * unitsPerOne ∧
      n * unitsPerOne * unitsPerOne < 2 ^ 64 * unitsPerOne * (k * unitsPerOne) := by
  have hone := unitsPerOne_pos
  have hmany := two_pow_le_unitsPerOne
  generalize unitsPerOne = one at *
  constructor
  · rw [← Nat.mul_assoc]
    refine Nat.mul_le_mul_right _ ?_
    have hle : one ≤ n * one := Nat.le_mul_of_pos_left _ hn
    omega
  · have hlt : n < 2 ^ 64 * k := by omega
    calc n * one * one < 2 ^ 64 * k * one * one := by gcongr
      _ = 2 ^ 64 * one * (k * one) := by ring

/-- A quotient of natural numbers is rounded once. -/
theorem exists_div_ofNat {n k : Nat} (hn : 0 < n) (hn' : n < 2 ^ 53) (hk : 0 < k)
    (hk' : k < 2 ^ 53) :
    ∃ m e, ofNat n / ofNat k = .finite false m e ∧ IsNear (units m e * k) (n * unitsPerOne) := by
  have hone := unitsPerOne_pos
  obtain ⟨hlow, hhigh⟩ := quotient_usual hn hn' hk hk'
  obtain ⟨m, e, hfinite, hnear⟩ := exists_ofUnits false (Nat.mul_pos hk hone) hlow hhigh
  refine ⟨m, e, (ofNat_div_ofNat hn hn' hk hk').trans hfinite, ?_⟩
  rw [← Nat.mul_assoc] at hnear
  exact hnear.cancel hone

/-- A product with a natural number is rounded once. -/
theorem exists_mul_ofNat {m e k : Nat} (hk : 0 < k) (hk' : k < 2 ^ 53)
    (hlow : 2 ^ 52 ≤ units m e * k) (hhigh : units m e * k < 2 ^ 64 * unitsPerOne) :
    ∃ m' e', finite false m e * ofNat k = .finite false m' e' ∧
      IsNear (units m' e') (units m e * k) := by
  obtain ⟨mk, ek, hofNat, hunits⟩ := exists_ofNat hk hk'
  have hone := unitsPerOne_pos
  obtain ⟨m', e', hfinite, hnear⟩ := exists_ofUnits false hone
    (Nat.mul_le_mul_right unitsPerOne hlow) (Nat.mul_lt_mul_of_pos_right hhigh hone)
  refine ⟨m', e', ?_, hnear.cancel hone⟩
  rw [hofNat, mul_finite, hunits, ← Nat.mul_assoc]
  exact hfinite

end Double

namespace Millis

/-- A time is read back from its seconds. -/
theorem ofSeconds?_seconds {t : Millis} (h : t.count < 2 ^ 51) : ofSeconds? t.seconds = some t := by
  rcases Nat.eq_zero_or_pos t.count with hzero | hpos
  · have hseconds : t.seconds = .zero := by
      unfold seconds
      rw [hzero]
      decide +kernel
    rw [hseconds]
    have hround : ofSeconds? .zero = some .zero := by decide +kernel
    exact hround.trans (congrArg some (ext_count hzero.symm))
  · obtain ⟨m, e, hseconds, hdivided⟩ :=
      Double.exists_div_ofNat hpos (by omega) (by decide : 0 < 1000) (by decide)
    have hone := Double.unitsPerOne_pos
    have hmany := Double.two_pow_le_unitsPerOne
    have hle : Double.unitsPerOne ≤ t.count * Double.unitsPerOne := Nat.le_mul_of_pos_left _ hpos
    have hlt : t.count * Double.unitsPerOne ≤ (2 ^ 51 - 1) * Double.unitsPerOne :=
      Nat.mul_le_mul_right _ (by omega)
    unfold Double.IsNear at hdivided
    obtain ⟨m', e', hproduct, hmultiplied⟩ :=
      @Double.exists_mul_ofNat m e 1000 (by decide) (by decide) (by omega) (by omega)
    unfold Double.IsNear at hmultiplied
    have hround : nearestUp (Double.units m' e') Double.unitsPerOne = t.count :=
      nearestUp_eq (by omega) (by omega)
    unfold ofSeconds?
    rw [show t.seconds = .finite false m e from hseconds, hproduct]
    simp only [Double.isFinite, Double.isNegative, Double.roundMagnitude, hround, Option.bind_some]
    exact ofCount?_eq_some_iff.mpr rfl

theorem isFinite_seconds {t : Millis} (h : t.count < 2 ^ 51) : t.seconds.isFinite = true := by
  have hback := ofSeconds?_seconds h
  unfold ofSeconds? at hback
  cases hfinite : t.seconds.isFinite with
  | true => rfl
  | false => simp [hfinite] at hback

end Millis

end Storyboard
