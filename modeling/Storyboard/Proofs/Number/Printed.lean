import Storyboard.Proofs.Number.Proper
import Storyboard.Proofs.Number.Shortest

/-!
# Printed decimals

What the search for the shortest decimal comes up with lies in the rounding interval and has no more
than eighteen digits. So its digits fit in 64 bits, and where its exponent is not negative the digits
times the power of ten are a finite number again, although they are rounded twice more on the way:
`Double.isFinite_product_shortest`. The three largest doubles leave no room for that in general and
are looked at one by one.
-/

namespace Storyboard

/-! ## The exponent of a number -/

theorem lt_tenPower_decimalLength (n : Nat) : n < 10 ^ decimalLength n :=
  (Nat.length_toDigits_le_iff (by decide) Nat.length_toDigits_pos).mp (Nat.le_refl _)

theorem tenPower_le {n : Nat} (hn : 0 < n) : 10 ^ (decimalLength n - 1) ≤ n := by
  rcases Nat.eq_zero_or_pos (decimalLength n - 1) with hzero | hpos
  · rw [hzero]
    exact hn
  · by_contra hless
    have hlength := decimalLength_le hpos (Nat.lt_of_not_le hless)
    omega

/-- A number is less than ten times the power of ten at its exponent. -/
theorem lt_decimalExponent {num den : Nat} (hnum : 0 < num) (hden : 0 < den) :
    (∃ k : Nat, decimalExponent num den = k ∧ num < 10 * (10 ^ k * den)) ∨
      ∃ k : Nat, decimalExponent num den = -(k : Int) ∧ num * 10 ^ k < 10 * den := by
  unfold decimalExponent
  split
  · rename_i hle
    have hpos : 0 < decimalLength (num / den) := Nat.length_toDigits_pos
    have hlt := (Nat.div_lt_iff_lt_mul hden).mp (lt_tenPower_decimalLength (num / den))
    refine .inl ⟨decimalLength (num / den) - 1, by omega, ?_⟩
    rwa [← Nat.mul_assoc, ← Nat.pow_succ', Nat.succ_eq_add_one, Nat.sub_add_cancel hpos]
  · rename_i hless
    have hpos : 0 < decimalLength (den / num) := Nat.length_toDigits_pos
    have hle : num * 10 ^ (decimalLength (den / num) - 1) ≤ den := by
      rw [Nat.mul_comm]
      exact (Nat.le_div_iff_mul_le hnum).mp (tenPower_le (Nat.div_pos (by omega) hnum))
    right
    simp only [Nat.pow_eq]
    split
    · exact ⟨decimalLength (den / num) - 1, by omega, by omega⟩
    · refine ⟨decimalLength (den / num), rfl, ?_⟩
      have hnext : num * 10 ^ decimalLength (den / num) =
          10 * (num * 10 ^ (decimalLength (den / num) - 1)) := by
        conv_lhs => rw [← Nat.sub_add_cancel hpos, Nat.pow_succ]
        ring
      omega

/-- A number is less than the power of ten that its grid of so many more digits ends at. -/
theorem lt_grid {num den : Nat} (hnum : 0 < num) (hden : 0 < den) (more : Nat) {x : Int}
    (hx : x = decimalExponent num den - more) :
    num * 10 ^ (-x).toNat < 10 ^ (more + 1) * (den * 10 ^ x.toNat) := by
  rcases lt_decimalExponent hnum hden with ⟨k, hk, hlt⟩ | ⟨k, hk, hlt⟩
  · rcases Nat.le_total more k with hle | hle
    · obtain ⟨j, rfl⟩ := Nat.exists_eq_add_of_le hle
      have hup : x.toNat = j := by omega
      have hdown : (-x).toNat = 0 := by omega
      rw [hup, hdown, Nat.pow_zero, Nat.mul_one]
      calc num < 10 * (10 ^ (more + j) * den) := hlt
        _ = 10 ^ (more + 1) * (den * 10 ^ j) := by ring
    · obtain ⟨j, rfl⟩ := Nat.exists_eq_add_of_le hle
      have hup : x.toNat = 0 := by omega
      have hdown : (-x).toNat = j := by omega
      rw [hup, hdown, Nat.pow_zero, Nat.mul_one]
      calc num * 10 ^ j < 10 * (10 ^ k * den) * 10 ^ j :=
            Nat.mul_lt_mul_of_pos_right hlt (by positivity)
        _ = 10 ^ (k + j + 1) * den := by ring
  · have hup : x.toNat = 0 := by omega
    have hdown : (-x).toNat = k + more := by omega
    rw [hup, hdown, Nat.pow_zero, Nat.mul_one]
    calc num * 10 ^ (k + more) = num * 10 ^ k * 10 ^ more := by ring
      _ < 10 * den * 10 ^ more := Nat.mul_lt_mul_of_pos_right hlt (by positivity)
      _ = 10 ^ (more + 1) * den := by ring

namespace Double

attribute [local irreducible] unitsPerOne

variable {m e : Nat}

/-! ## What is printed -/

/-- A point of a grid is also one of the next finer grid. -/
theorem fits_succ_iff {x : Int} {c : Nat} : fits m e (x + 1) c = fits m e x (10 * c) := by
  rw [Bool.eq_iff_iff, fits_iff_covers, fits_iff_covers]
  rcases Int.lt_or_le x 0 with hx | hx
  · obtain ⟨j, rfl⟩ : ∃ j : Nat, x = -((j : Int) + 1) := ⟨(-x - 1).toNat, by omega⟩
    have hup : (-((j : Int) + 1) + 1).toNat = 0 := by omega
    have hup' : (-((j : Int) + 1)).toNat = 0 := by omega
    have hdown : (-(-((j : Int) + 1) + 1)).toNat = j := by omega
    have hdown' : (- -((j : Int) + 1)).toNat = j + 1 := by omega
    rw [hup, hup', hdown, hdown', ← @covers_mul_iff m e _ _ 10 (by decide), ← Nat.pow_succ]
    have hpoint : c * 10 ^ 0 * unitsPerOne * 10 = 10 * c * 10 ^ 0 * unitsPerOne := by ring
    rw [hpoint]
  · obtain ⟨j, rfl⟩ := Int.eq_ofNat_of_zero_le hx
    have hup : ((j : Int) + 1).toNat = j + 1 := by omega
    have hdown : (-((j : Int) + 1)).toNat = 0 := by omega
    have hdown' : (-(j : Int)).toNat = 0 := by omega
    rw [hup, hdown, hdown', Int.toNat_natCast]
    have hpoint : c * 10 ^ (j + 1) * unitsPerOne = 10 * c * 10 ^ j * unitsPerOne := by ring
    rw [hpoint]

/-- A decimal in the rounding interval of a magnitude, with no more than eighteen digits. -/
structure Prints (m e : Nat) (d : Decimal) : Prop where
  pos : 0 < d.digits
  digits_lt : d.digits < 10 ^ 18
  fits_eq : fits m e d.exponent d.digits = true

/-- Moving zeros into the exponent does not change a decimal. -/
theorem Prints.stripZeros (fuel : Nat) {d : Decimal} (h : Prints m e d) :
    Prints m e (Decimal.stripZeros fuel d) := by
  induction fuel generalizing d with
  | zero => exact h
  | succ fuel ih =>
    unfold Decimal.stripZeros
    split
    · rename_i hzero
      have hten : 10 * (d.digits / 10) = d.digits :=
        Nat.mul_div_cancel' (Nat.dvd_of_mod_eq_zero hzero.2)
      refine ih { pos := ?_, digits_lt := ?_, fits_eq := ?_ }
      · have hpos := h.pos
        dsimp only
        omega
      · exact Nat.lt_of_le_of_lt (Nat.div_le_self _ _) h.digits_lt
      · dsimp only
        rw [fits_succ_iff, hten]
        exact h.fits_eq
    · exact h

/-- What lies in the interval is not zero, and no more than one and a half times the magnitude. -/
theorem fits_bounds (hm : 0 < m) {x : Int} {c : Nat} (h : fits m e x c = true) :
    0 < c ∧ 2 * (c * (4 * unitsPerOne * 10 ^ x.toNat)) ≤ 3 * (4 * m * 2 ^ e * 10 ^ (-x).toNat) := by
  obtain ⟨hup, hdown⟩ := (fits_iff_covers.mp h).near
  have hpoint : c * (4 * unitsPerOne * 10 ^ x.toNat) = 4 * (c * 10 ^ x.toNat * unitsPerOne) := by
    ring
  have hvalue : 4 * m * 2 ^ e * 10 ^ (-x).toNat = 4 * (m * (2 ^ e * 10 ^ (-x).toNat)) := by ring
  have hplace : 0 < 2 ^ e * 10 ^ (-x).toNat := by positivity
  have hle : 2 ^ e * 10 ^ (-x).toNat ≤ m * (2 ^ e * 10 ^ (-x).toNat) :=
    Nat.le_mul_of_pos_left _ hm
  constructor
  · refine Nat.pos_of_ne_zero ?_
    rintro rfl
    rw [Nat.zero_mul, Nat.zero_mul] at hup
    omega
  · rw [hpoint, hvalue]
    omega

/-- A point in the interval, on a grid of no more than seventeen digits. -/
theorem prints_of_fits (hm : 0 < m) {count c : Nat} (hcount : count ≤ 17)
    (h : fits m e (gridExponent m e count) c = true) : Prints m e ⟨c, gridExponent m e count⟩ := by
  have hone := unitsPerOne_pos
  obtain ⟨hpos, hle⟩ := fits_bounds hm h
  have hlt := @lt_grid (4 * m * 2 ^ e) (4 * unitsPerOne) (by positivity) (by omega) (count - 1) _
    (rfl : gridExponent m e count = _)
  refine { pos := hpos, digits_lt := ?_, fits_eq := h }
  have hpower : 10 ^ (count - 1 + 1) ≤ 10 ^ 17 := Nat.pow_le_pow_right (by decide) (by omega)
  have hgrid := Nat.mul_le_mul_right (4 * unitsPerOne * 10 ^ (gridExponent m e count).toNat) hpower
  refine Nat.lt_of_mul_lt_mul_right
    (a := 4 * unitsPerOne * 10 ^ (gridExponent m e count).toNat) ?_
  dsimp only
  generalize 4 * unitsPerOne * 10 ^ (gridExponent m e count).toNat = grid at *
  omega

/-- The search comes up with a decimal that prints the magnitude, if with any at all. -/
theorem prints_shortest (hm : 0 < m) : shortest m e = ⟨0, 0⟩ ∨ Prints m e (shortest m e) := by
  have hsearch : ∀ fuel count, count + fuel ≤ 18 →
      shortestFrom m e fuel count = ⟨0, 0⟩ ∨ Prints m e (shortestFrom m e fuel count) := by
    intro fuel
    induction fuel with
    | zero => exact fun _ _ => .inl rfl
    | succ fuel ih =>
      intro count hcount
      unfold shortestFrom
      cases hd : neighbour m e count with
      | none => exact ih (count + 1) (by omega)
      | some d =>
        obtain ⟨c, hfits, rfl⟩ := exists_fits_of_neighbour hd
        exact .inr ((prints_of_fits hm (by omega) hfits).stripZeros _)
  exact hsearch 17 1 (by decide)

/-! ## The way back -/

/-- The whole number that a decimal without places behind the point makes is at most half of the
last place above the magnitude. -/
theorem Prints.product_le {d : Decimal} (h : Prints m e d) (hexponent : 0 ≤ d.exponent) :
    4 * (d.digits * 10 ^ d.exponent.toNat * unitsPerOne) ≤ (4 * m + 2) * 2 ^ e := by
  obtain ⟨-, hle⟩ := (fits_iff_covers.mp h.fits_eq).near
  have hzero : (-d.exponent).toNat = 0 := by omega
  rw [hzero, Nat.pow_zero, Nat.mul_one] at hle
  rw [Nat.add_mul, Nat.mul_assoc 4 m]
  exact hle

theorem Prints.exponent_le {d : Decimal} (h : Prints m e d) {s : Bool}
    (hproper : (finite s m e).IsProper) : d.exponent ≤ 308 := by
  obtain ⟨top, htop⟩ : ∃ top, top = 2045 := ⟨_, rfl⟩
  obtain ⟨most, hmost⟩ : ∃ most, most = 309 := ⟨_, rfl⟩
  obtain ⟨hm, he, -⟩ := hproper
  have hlarge : 2 ^ 55 * 2 ^ top < 4 * (10 ^ most * unitsPerOne) := by
    rw [htop, hmost]
    decide +kernel
  by_contra hmore
  have hproduct := h.product_le (by omega)
  have hdigits := h.pos
  have hpower : 10 ^ most ≤ d.digits * 10 ^ d.exponent.toNat :=
    (Nat.pow_le_pow_right (by decide) (by omega)).trans (Nat.le_mul_of_pos_left _ hdigits)
  have hlow := Nat.mul_le_mul_right unitsPerOne hpower
  have hhigh : (4 * m + 2) * 2 ^ e ≤ 2 ^ 55 * 2 ^ top :=
    Nat.mul_le_mul (by omega) (Nat.pow_le_pow_right (by decide) (by omega))
  omega

/-- The three largest doubles. -/
theorem isFinite_product_largest : ∀ m ∈ [2 ^ 53 - 3, 2 ^ 53 - 2, 2 ^ 53 - 1],
    (ofNat (shortest m 2045).digits *
      ofNat (10 ^ (shortest m 2045).exponent.toNat)).isFinite = true := by decide +kernel

/-- The digits of a printed number times the power of ten that goes with them are finite. -/
theorem isFinite_product_shortest (hm : 0 < m) {s : Bool} (hproper : (finite s m e).IsProper)
    (hexponent : 0 ≤ (shortest m e).exponent) :
    (shortest m e).exponent ≤ 308 ∧
      (ofNat (shortest m e).digits *
        ofNat (10 ^ (shortest m e).exponent.toNat)).isFinite = true := by
  obtain ⟨top, htop⟩ : ∃ top, top = 2045 := ⟨_, rfl⟩
  rcases prints_shortest hm (e := e) with hnone | hprints
  · rw [hnone]
    exact ⟨by decide, by decide +kernel⟩
  have hmost := hprints.exponent_le hproper
  refine ⟨hmost, ?_⟩
  obtain ⟨hbits, he, -⟩ := hproper
  by_cases hroom : m + 4 ≤ 2 ^ 53 ∨ e + 1 ≤ 2045
  · have hdigits := hprints.digits_lt
    have hproduct := hprints.product_le hexponent
    refine isFinite_mul_tenPower (by omega) (by omega) htop (hproduct.trans ?_)
    rcases hroom with hroom | hroom
    · exact Nat.mul_le_mul (by omega) (Nat.pow_le_pow_right (by decide) (by omega))
    · have hnext : 2 ^ (e + 1) ≤ 2 ^ top := Nat.pow_le_pow_right (by decide) (by omega)
      have hle : (4 * m + 2) * 2 ^ e ≤ 2 ^ 55 * 2 ^ e := Nat.mul_le_mul_right _ (by omega)
      rw [Nat.pow_succ] at hnext
      omega
  · obtain rfl : e = 2045 := by omega
    refine isFinite_product_largest m ?_
    simp only [List.mem_cons, List.not_mem_nil, or_false]
    omega

end Double

end Storyboard
