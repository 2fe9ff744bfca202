import Storyboard.Proofs.Json.Building
import Storyboard.Proofs.Json.Decimals
import Storyboard.Proofs.Number.Shortest
import Storyboard.Proofs.Time.Seconds

/-!
# Times in a text

Among the decimals that round to the seconds of a time there is only one with no more than three
places, which is the count of milliseconds with the point moved. The search for the shortest decimal
looks at coarser grids first, so this is what it finds, and what is written. Its digits make the
count again, or less where zeros are left out, and one division makes the same double of them: a
time is read back exactly, although long decimals in general are not.
-/

namespace Storyboard

/-- A decimal is so many thousandths. -/
def Decimal.Counts (d : Decimal) (n : Nat) : Prop :=
  ∃ k : Nat, d.exponent = (k : Int) - 3 ∧ d.digits * 10 ^ k = n

/-- Moving zeros into the exponent does not change a number. -/
theorem Decimal.Counts.stripZeros {n : Nat} (fuel : Nat) {d : Decimal} (h : d.Counts n) :
    (Decimal.stripZeros fuel d).Counts n := by
  induction fuel generalizing d with
  | zero => exact h
  | succ fuel ih =>
    unfold Decimal.stripZeros
    split
    · rename_i hzero
      obtain ⟨k, hexponent, hdigits⟩ := h
      refine ih ⟨k + 1, by simp only [hexponent]; omega, ?_⟩
      have hten : d.digits / 10 * 10 = d.digits :=
        Nat.div_mul_cancel (Nat.dvd_of_mod_eq_zero hzero.2)
      rw [← hdigits, Nat.pow_succ', ← Nat.mul_assoc, hten]
    · exact h

/-! ## The decimal of a time -/

namespace Double

attribute [local irreducible] unitsPerOne

variable {n m e : Nat}

/-- A point of a grid of thousandths, or of a coarser one. -/
theorem fits_thousandths_iff {c k : Nat} :
    fits m e ((k : Int) - 3) c = true ↔ Covers m e (c * 10 ^ k * unitsPerOne) 1000 := by
  rw [fits_iff_covers]
  rcases Nat.le_total 3 k with hk | hk
  · obtain ⟨j, rfl⟩ := Nat.exists_eq_add_of_le hk
    have hup : (((3 + j : Nat) : Int) - 3).toNat = j := by omega
    have hdown : (-(((3 + j : Nat) : Int) - 3)).toNat = 0 := by omega
    rw [hup, hdown, ← @covers_mul_iff m e _ _ 1000 (by decide), Nat.pow_zero, Nat.one_mul,
      Nat.pow_add]
    have hpoint : c * 10 ^ j * unitsPerOne * 1000 = c * (10 ^ 3 * 10 ^ j) * unitsPerOne := by ring
    rw [hpoint]
  · obtain ⟨j, hj⟩ := Nat.exists_eq_add_of_le hk
    have hup : ((k : Int) - 3).toNat = 0 := by omega
    have hdown : (-((k : Int) - 3)).toNat = j := by omega
    rw [hup, hdown, ← @covers_mul_iff m e _ _ (10 ^ k) (by positivity), ← Nat.pow_add,
      Nat.add_comm j k, ← hj, Nat.pow_zero, Nat.mul_one, Nat.mul_right_comm]

/-- Only one count of thousandths rounds to a double whose last place counts less than one of
them. -/
theorem Covers.unique {a b : Nat} (ha : Covers m e (a * unitsPerOne) 1000)
    (hb : Covers m e (b * unitsPerOne) 1000) (hplace : 2 ^ e * 1000 < unitsPerOne) : a = b := by
  obtain ⟨hupa, hdowna⟩ := ha.near
  obtain ⟨hupb, hdownb⟩ := hb.near
  have hle {x y : Nat} (h : x * unitsPerOne < y * unitsPerOne + unitsPerOne) : x ≤ y := by
    rw [← Nat.succ_mul] at h
    exact Nat.le_of_lt_succ (Nat.lt_of_mul_lt_mul_right h)
  exact Nat.le_antisymm (hle (by omega)) (hle (by omega))

/-- The seconds of a time, and the only count that they can be taken for. -/
theorem exists_seconds (hpos : 0 < n) (hn : n < 2 ^ 51) :
    ∃ m e, ofNat n / ofNat 1000 = .finite false m e ∧ m ≠ 0 ∧
      Covers m e (n * unitsPerOne) 1000 ∧ 2 ^ e * 1000 < unitsPerOne := by
  have hone := unitsPerOne_pos
  obtain ⟨hlow, hhigh⟩ := @quotient_usual n 1000 hpos (by omega) (by decide) (by decide)
  obtain ⟨m, e, hfinite, hm, hplace, hcovers⟩ :=
    exists_ofUnits_covers false (Nat.mul_pos (by decide) hone) hlow hhigh
  refine ⟨m, e, (ofNat_div_ofNat hpos (by omega) (by decide) (by decide)).trans hfinite, by omega,
    (covers_mul_iff hone).mp hcovers, ?_⟩
  have hplace' : 2 ^ 51 * (2 ^ e * 1000) ≤ n * unitsPerOne := by
    refine Nat.le_of_mul_le_mul_right ?_ hone
    rw [Nat.mul_assoc, Nat.mul_assoc (2 ^ e)]
    exact hplace
  have hlt : n * unitsPerOne < 2 ^ 51 * unitsPerOne := Nat.mul_lt_mul_of_pos_right hn hone
  exact Nat.lt_of_mul_lt_mul_left (hplace'.trans_lt hlt)

/-- The exponent of the seconds of two milliseconds or more. -/
theorem exponent_bounds (h2 : 2 ≤ n) (hn : n < 2 ^ 51)
    (hcovers : Covers m e (n * unitsPerOne) 1000) (hplace : 2 ^ e * 1000 < unitsPerOne) :
    -3 ≤ decimalExponent (4 * m * Nat.pow 2 e) (4 * unitsPerOne) ∧
      decimalExponent (4 * m * Nat.pow 2 e) (4 * unitsPerOne) ≤ 12 := by
  have hone := unitsPerOne_pos
  obtain ⟨hup, hdown⟩ := hcovers.near
  have hlow : 2 * unitsPerOne ≤ n * unitsPerOne := Nat.mul_le_mul_right _ h2
  have hhigh : n * unitsPerOne < 2 ^ 51 * unitsPerOne := Nat.mul_lt_mul_of_pos_right hn hone
  rw [← Nat.mul_assoc m] at hup hdown
  have habove : 4 * unitsPerOne < 10 ^ 3 * (4 * (m * 2 ^ e)) := by
    rw [show 10 ^ 3 = 1000 from rfl]
    omega
  have hbelow : 4 * (m * 2 ^ e) < 10 ^ (12 + 1) * (4 * unitsPerOne) := by
    rw [show 10 ^ (12 + 1) = 10000000000000 from rfl]
    omega
  rw [Nat.pow_eq, Nat.mul_assoc 4 m]
  exact ⟨le_decimalExponent (by omega) (by decide) habove, decimalExponent_lt (by omega) hbelow⟩

/-- The shortest decimal of the seconds of a time is the count of the time in thousandths. -/
theorem shortest_counts (h2 : 2 ≤ n) (hn : n < 2 ^ 51)
    (hcovers : Covers m e (n * unitsPerOne) 1000) (hplace : 2 ^ e * 1000 < unitsPerOne) :
    (shortest m e).Counts n := by
  obtain ⟨hlow, hhigh⟩ := exponent_bounds h2 hn hcovers hplace
  -- the grid of thousandths, where the search ends at the latest
  obtain ⟨last, hlast⟩ : ∃ last : Nat,
      (last : Int) = decimalExponent (4 * m * Nat.pow 2 e) (4 * unitsPerOne) + 4 :=
    ⟨_, Int.toNat_of_nonneg (by omega)⟩
  have hgrid {count : Nat} (h : count ≤ last) :
      gridExponent m e count = ((last - max count 1 : Nat) : Int) - 3 := by
    unfold gridExponent
    omega
  have hend : gridExponent m e last = ((0 : Nat) : Int) - 3 := by
    rw [hgrid (Nat.le_refl _), Nat.max_eq_left (by omega), Nat.sub_self]
  have hhit : (neighbour m e last).isSome = true := by
    have hfits : fits m e (gridExponent m e last) n = true := by
      rw [hend, fits_thousandths_iff, Nat.pow_zero, Nat.mul_one]
      exact hcovers
    refine neighbour_isSome hfits (eq_pointBelow_or hfits ?_)
    rw [hend, show (((0 : Nat) : Int) - 3).toNat = 0 from rfl,
      show (-(((0 : Nat) : Int) - 3)).toNat = 3 from rfl]
    omega
  have hall : ∀ count ≤ last, ∀ d, neighbour m e count = some d → d.Counts n := by
    intro count hcount d hd
    obtain ⟨c, hfits, rfl⟩ := exists_fits_of_neighbour hd
    rw [hgrid hcount] at hfits
    exact Decimal.Counts.stripZeros _
      ⟨_, hgrid hcount, Covers.unique (fits_thousandths_iff.mp hfits) hcovers hplace⟩
  exact shortestFrom_of_neighbours (P := (Decimal.Counts · n)) hhit hall (by omega) (by omega)

end Double

/-! ## The text of a time -/

open Json (Places readOn)

theorem length_le_of_lt {c k n : Nat} (hc : 0 < c) (h : c * 10 ^ k < 10 ^ n) :
    decimalLength c + k ≤ n := by
  have hk : k < n := by
    refine (Nat.pow_lt_pow_iff_right (by decide : 1 < 10)).mp (Nat.lt_of_le_of_lt ?_ h)
    exact Nat.le_mul_of_pos_left _ hc
  have hlt : c < 10 ^ (n - k) := by
    refine Nat.lt_of_mul_lt_mul_right (a := 10 ^ k) ?_
    rw [← Nat.pow_add, Nat.sub_add_cancel hk.le]
    exact h
  have hle := decimalLength_le (by omega) hlt
  omega

/-- The text of a count of thousandths has no exponent. -/
theorem Decimal.Counts.exists_text {d : Decimal} {n : Nat} (h : d.Counts n) (hpos : 0 < n)
    (hn : n < 10 ^ 16) :
    ∃ ws fs, Layout.wire.decimal d = ws ++ '.' :: fs ∧ Places ws fs d := by
  obtain ⟨k, hexponent, hcount⟩ := h
  have hdigits : 0 < d.digits := Nat.pos_of_mul_pos_right (hcount ▸ hpos)
  have hlength := length_le_of_lt hdigits (hcount ▸ hn)
  have hone : 0 < decimalLength d.digits := Nat.length_toDigits_pos
  have hpoint : d.point = decimalLength d.digits + d.exponent := rfl
  exact Decimal.exists_places hdigits (by omega) (by omega)

/-- There are no more than three places behind the point, and with zeros for those that are missing
the digits make the count. -/
theorem Decimal.Counts.readOn_eq {d : Decimal} {n : Nat} (h : d.Counts n) {ws fs : List Char}
    (hplaces : Places ws fs d) :
    fs.length ≤ 3 ∧ readOn 0 (ws ++ fs) * 10 ^ (3 - fs.length) = n := by
  obtain ⟨k, hexponent, hcount⟩ := h
  rcases hplaces.value with ⟨hwhole, hlength, hvalue⟩ | ⟨hlength, hvalue⟩
  · refine ⟨by omega, ?_⟩
    rw [hvalue, hlength, Nat.mul_assoc, ← Nat.pow_add, ← hcount]
    congr 2
    omega
  · refine ⟨by omega, ?_⟩
    rw [hvalue, ← hcount]
    congr 2
    omega

/-- Digits are divided once, by what the point stands for, which makes the same double of them as
dividing the count by a thousand. -/
theorem quotient_thousandths {v k n : Nat} (hlength : k ≤ 3) (hvalue : v * 10 ^ (3 - k) = n)
    (hpos : 0 < n) (hn : n < 2 ^ 51) :
    Double.ofNat v / Double.ofNat (10 ^ k) = Double.ofNat n / Double.ofNat 1000 := by
  subst hvalue
  have hthousand : (1000 : Nat) = 10 ^ k * 10 ^ (3 - k) := by
    rw [← Nat.pow_add, Nat.add_sub_cancel' hlength]
  have hv : 0 < v := Nat.pos_of_mul_pos_right hpos
  have hle : v ≤ v * 10 ^ (3 - k) := Nat.le_mul_of_pos_right _ (by positivity)
  have hden : 10 ^ k ≤ 10 ^ 3 := Nat.pow_le_pow_right (by decide) hlength
  rw [Double.ofNat_div_ofNat hv (by omega) (by positivity) (by omega),
    Double.ofNat_div_ofNat hpos (by omega) (by decide) (by decide), hthousand,
    Double.ofUnits_mul_mul _ Double.unitsPerOne_pos,
    Double.ofUnits_mul_mul _ Double.unitsPerOne_pos, Nat.mul_right_comm v,
    Double.ofUnits_mul_mul _ (Nat.pow_pos (by decide))]

namespace Millis

/-- A time can be written and read back as a number. -/
theorem isLegible_seconds {t : Millis} (h : t.count < 2 ^ 51) :
    Json.Number.IsLegible (.double t.seconds) := by
  obtain ⟨n, hcount⟩ : ∃ n, t.count = n := ⟨_, rfl⟩
  unfold seconds
  rw [hcount] at h ⊢
  match n with
  | 0 => decide +kernel
  | 1 => decide +kernel
  | n + 2 =>
    obtain ⟨m, e, hseconds, hm, hcovers, hplace⟩ := Double.exists_seconds (by omega) h
    have hcounts := Double.shortest_counts (by omega) h hcovers hplace
    obtain ⟨ws, fs, htext, hplaces⟩ := hcounts.exists_text (by omega) (by omega)
    obtain ⟨hlength, hvalue⟩ := hcounts.readOn_eq hplaces
    have hwritten : (Json.Number.double (Double.ofNat (n + 2) / Double.ofNat 1000)).text =
        ws ++ '.' :: fs := by
      rw [hseconds, Json.Number.text, Layout.double, if_neg hm]
      exact htext
    have hfits : readOn 0 (ws ++ fs) ≤ n + 2 := by
      conv_rhs => rw [← hvalue]
      exact Nat.le_mul_of_pos_right _ (by positivity)
    exact Json.Number.IsToken.isLegible (Json.Number.isToken_of_decimal hwritten hplaces.whole
      hplaces.digits hplaces.ne_nil (by omega) (by omega)
      (quotient_thousandths hlength hvalue (by omega) h))

end Millis

end Storyboard
