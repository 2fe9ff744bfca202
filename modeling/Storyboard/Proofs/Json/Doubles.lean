import Storyboard.Proofs.Json.Building
import Storyboard.Proofs.Json.Decimals
import Storyboard.Proofs.Number.Printed

/-!
# Reading back doubles

The text of a double always is a number, and reading it gives a double: its digits fit in 64 bits,
and scaling them by the power of ten does not leave the finite numbers. It need not be the same
double, since the scaling rounds twice. `Double.reread` is the one that it gives, and a double is
legible if that is the double itself.
-/

namespace Storyboard

namespace Json.Numeral

open Double (IsProper)

/-! ## Scaling -/

/-- A power of ten of usual size needs no steps. -/
theorem scaled_small {steps : Nat} {d : Double} {e : Int} (he : e.natAbs ≤ 308) :
    scaled (steps + 1) d e =
      if 0 ≤ e then
        if (d * Double.ofNat (10 ^ e.natAbs)).isFinite then .ok (d * Double.ofNat (10 ^ e.natAbs))
        else .error .numberOutOfRange
      else .ok (d / Double.ofNat (10 ^ e.natAbs)) := if_pos he

/-- Steps of negative powers of ten never fail. -/
theorem exists_scaled_neg (steps : Nat) {d : Double} (h : d.IsProper) {e : Int} (he : e < 0) :
    ∃ a, scaled steps d e = .ok a ∧ a.IsProper := by
  induction steps generalizing d e with
  | zero => exact ⟨.zero, rfl, by decide⟩
  | succ steps ih =>
    by_cases hsmall : e.natAbs ≤ 308
    · rw [scaled_small hsmall, if_neg (Int.not_le_of_gt he)]
      exact ⟨_, rfl, h.div_tenPower (by omega) hsmall⟩
    · unfold scaled
      rw [if_neg hsmall]
      by_cases hzero : d.isZero = true
      · rw [if_pos hzero]
        exact ⟨d, rfl, h⟩
      · -- the power stands apart, since it is not to be evaluated
        have hstep : ∀ most, most = 308 → (d / Double.ofNat (Nat.pow 10 most)).IsProper :=
          fun most hmost => h.div_tenPower (by omega) (by omega)
        rw [if_neg hzero, if_neg (Int.not_le_of_gt he)]
        exact ih (hstep 308 rfl) (by omega)

/-- Digits of 64 bits are scaled to a double by every power of ten that is negative, and by those
that leave the product finite. -/
theorem exists_toDouble (negative : Bool) {n : Nat} (hn : n < 2 ^ 64) {e : Int}
    (he : 0 ≤ e → e ≤ 308 ∧ (Double.ofNat n * Double.ofNat (10 ^ e.toNat)).isFinite = true) :
    ∃ a, toDouble negative n e = .ok a ∧ a.IsProper := by
  have hscaled : ∃ a, scaled 4 (Double.ofNat n) e = .ok a ∧ a.IsProper := by
    rcases Int.lt_or_le e 0 with hneg | hnonneg
    · exact exists_scaled_neg 4 (Double.isProper_ofNat hn) hneg
    · obtain ⟨hmost, hfinite⟩ := he hnonneg
      have habs : e.natAbs = e.toNat := by omega
      rw [scaled_small (by omega), if_pos hnonneg, habs, if_pos hfinite]
      exact ⟨_, rfl, Double.isProper_mul hfinite⟩
  obtain ⟨a, ha, hproper⟩ := hscaled
  unfold toDouble
  rw [ha]
  cases negative with
  | false => exact ⟨a, rfl, hproper⟩
  | true => exact ⟨-a, rfl, hproper.neg⟩

/-! ## The forms of a decimal -/

/-- The parts are written out and make a double. -/
def MakesDouble (p : Numeral) : Prop := p.IsWritten ∧ ∃ a, p.value = .ok (.double a) ∧ a.IsProper

theorem makesDouble_of_toDouble {p : Numeral} (h : p.IsWritten) {n : Nat} (hn : n < 2 ^ 64)
    {e : Int} (hvalue : p.value = (toDouble p.negative n e).map .double)
    (he : 0 ≤ e → e ≤ 308 ∧ (Double.ofNat n * Double.ofNat (10 ^ e.toNat)).isFinite = true) :
    p.MakesDouble := by
  obtain ⟨a, ha, hproper⟩ := exists_toDouble p.negative hn he
  refine ⟨h, a, ?_, hproper⟩
  rw [hvalue, ha]
  rfl

variable {d : Decimal} (negative : Bool)

/-- A decimal with a point. -/
theorem makesDouble_of_places {ws fs : List Char} (h : Places ws fs d) (hdigits : d.digits < 10 ^ 18)
    (hpoint : d.point ≤ 16) : MakesDouble ⟨negative, ws, some fs, none⟩ := by
  have hpos : 0 < fs.length := List.length_pos_iff.mpr h.ne_nil
  have hfits : readOn 0 (ws ++ fs) < 2 ^ 64 := by
    rcases h.value with ⟨hexponent, -, hvalue⟩ | ⟨-, hvalue⟩
    · have hlt : d.digits * 10 ^ d.exponent.toNat <
          10 ^ decimalLength d.digits * 10 ^ d.exponent.toNat :=
        Nat.mul_lt_mul_of_pos_right (lt_tenPower_decimalLength _) (by positivity)
      have hle : 10 ^ (decimalLength d.digits + d.exponent.toNat) ≤ 10 ^ 16 := by
        refine Nat.pow_le_pow_right (by decide) ?_
        unfold Decimal.point at hpoint
        omega
      rw [← Nat.pow_add] at hlt
      rw [hvalue, Nat.pow_succ, ← Nat.mul_assoc]
      omega
    · omega
  exact makesDouble_of_toDouble (isWritten_plain h.whole h.digits h.ne_nil) hfits
    (value_plain hfits) fun he => absurd he (by omega)

/-- A decimal with an exponent. -/
theorem makesDouble_scientific (hpos : 0 < d.digits) (hdigits : d.digits < 10 ^ 18)
    (hback : 0 ≤ d.exponent → d.exponent ≤ 308 ∧
      (Double.ofNat d.digits * Double.ofNat (10 ^ d.exponent.toNat)).isFinite = true) :
    (scientific negative d).MakesDouble := by
  have hwritten := isWritten_scientific negative hpos
  have hone : 0 < decimalLength d.digits := Nat.length_toDigits_pos
  have hmost : decimalLength d.digits ≤ 18 := decimalLength_le (by decide) hdigits
  have hpoint : d.point = decimalLength d.digits + d.exponent := rfl
  have hvalue : readOn 0 ((Nat.toDigits 10 d.digits).take 1 ++ (digitsBehind d.digits).getD []) =
      d.digits := by
    rw [take_append_digitsBehind, readOn_toDigits]
  have hsize := readOn_toDigits (d.point - 1).natAbs
  unfold scientific at hwritten ⊢
  by_cases hfar : 2147483648 ≤ (d.point - 1).natAbs
  · have hdown : d.point - 1 < 0 := by omega
    rw [decide_eq_true hdown] at hwritten ⊢
    refine ⟨hwritten, _, value_power_down (by omega), ?_⟩
    cases negative <;> decide
  · have hscaled := @value_power negative (decide (d.point - 1 < 0))
      ((Nat.toDigits 10 d.digits).take 1) (Nat.toDigits 10 (d.point - 1).natAbs)
      (digitsBehind d.digits) (by omega) (by omega)
    have hexponent : (-(((digitsBehind d.digits).getD []).length : Int) +
        if decide (d.point - 1 < 0) then -((d.point - 1).natAbs : Int)
        else ((d.point - 1).natAbs : Int)) = d.exponent := by
      rw [length_digitsBehind]
      by_cases hdown : d.point - 1 < 0
      · rw [if_pos (decide_eq_true hdown)]
        omega
      · rw [if_neg (by simpa using hdown)]
        omega
    rw [hvalue, hsize, hexponent] at hscaled
    exact makesDouble_of_toDouble hwritten (by omega) hscaled hback

/-- Zero, which is written with a point. -/
theorem makesDouble_zero : MakesDouble ⟨negative, ['0'], some ['0'], none⟩ := by
  have hplaces : Places ['0'] ['0'] ⟨0, 0⟩ :=
    { whole := .zero
      digits := fun _ => @isDigit_zeros 1 _
      ne_nil := by decide
      value := by decide }
  exact makesDouble_of_places negative hplaces (by decide) (by decide)

end Json.Numeral

/-! ## The text of a double -/

open Json (Number Numeral Token)

/-- The text of a decimal makes a double if its digits and its exponent go well with each other. -/
theorem Decimal.exists_numeral (negative : Bool) {d : Decimal} (hpos : 0 < d.digits)
    (hdigits : d.digits < 10 ^ 18)
    (hback : 0 ≤ d.exponent → d.exponent ≤ 308 ∧
      (Double.ofNat d.digits * Double.ofNat (10 ^ d.exponent.toNat)).isFinite = true) :
    ∃ p : Numeral, (if negative then ['-'] else []) ++ Layout.wire.decimal d = p.chars ∧
      p.MakesDouble := by
  by_cases husual : -4 ≤ d.point ∧ d.point ≤ 16
  · obtain ⟨ws, fs, htext, hplaces⟩ := d.exists_places hpos husual.1 husual.2
    refine ⟨_, ?_, Numeral.makesDouble_of_places negative hplaces hdigits husual.2⟩
    simp [htext, Numeral.chars]
  · refine ⟨_, ?_, Numeral.makesDouble_scientific negative hpos hdigits hback⟩
    rw [Decimal.text_scientific (by omega)]
    simp [Numeral.chars, Json.scientific]

namespace Double

/-- A proper double is written as a number that makes a double. -/
theorem IsProper.exists_numeral {d : Double} (h : d.IsProper) :
    ∃ p : Numeral, (Number.double d).text = p.chars ∧ p.MakesDouble := by
  cases d with
  | finite s m e =>
    have hzero : (if s then ['-'] else []) ++ ['0', '.', '0'] =
        Numeral.chars ⟨s, ['0'], some ['0'], none⟩ := by simp [Numeral.chars]
    unfold Number.text Layout.double
    rcases Nat.eq_zero_or_pos m with rfl | hm
    · exact ⟨_, hzero, Numeral.makesDouble_zero s⟩
    · simp only [if_neg (Nat.pos_iff_ne_zero.mp hm)]
      rcases prints_shortest hm (e := e) with hnone | hprints
      · rw [hnone]
        exact ⟨_, hzero, Numeral.makesDouble_zero s⟩
      · exact Decimal.exists_numeral s hprints.pos hprints.digits_lt fun hexponent =>
          isFinite_product_shortest hm h hexponent
  | _ => exact absurd h id

/-- The double that the text of a double is read as. -/
def reread (d : Double) : Double :=
  match Json.ofChars (Number.double d).text with
  | .ok (.number (.double a)) => a
  | _ => d

theorem reread_of_readsAs {d a : Double} (h : (Number.double d).ReadsAs (.double a)) :
    d.reread = a := by
  unfold reread
  rw [h.ofChars_text]

/-- The text of a proper double is read, and what it is read as is a proper one. -/
theorem IsProper.readsAs_reread {d : Double} (h : d.IsProper) :
    (Number.double d).ReadsAs (.double d.reread) ∧ d.reread.IsProper := by
  obtain ⟨p, htext, hwritten, a, hvalue, ha⟩ := h.exists_numeral
  have hreads : (Number.double d).ReadsAs (.double a) := by
    unfold Number.ReadsAs
    rw [htext, Json.Scan.tokens_numeral hwritten, hvalue]
  rw [reread_of_readsAs hreads]
  exact ⟨hreads, ha⟩

theorem reread_of_isLegible {d : Double} (h : (Number.double d).IsLegible) : d.reread = d :=
  reread_of_readsAs h.isToken

/-- A proper double is legible if its text is read as itself. -/
theorem IsProper.isLegible_iff {d : Double} (h : d.IsProper) :
    (Number.double d).IsLegible ↔ d.reread = d := by
  refine ⟨reread_of_isLegible, fun heq => ?_⟩
  have hreads := h.readsAs_reread.1
  rw [heq] at hreads
  exact Number.IsToken.isLegible hreads

end Double

end Storyboard
