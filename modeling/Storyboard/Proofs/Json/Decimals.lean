import Storyboard.Proofs.Json.Numerals
import Storyboard.Proofs.Number.Shortest

/-!
# Decimals in a text

A decimal of usual size is written with a point: behind its digits, between them or before them,
with zeros to fill the places. `Places` is what the three forms have in common, and
`Decimal.exists_places` says that they are the text of such a decimal. All others are written with
an exponent.
-/

namespace Storyboard

namespace Json

theorem isDigit_zeros {k : Nat} {c : Char} (h : c ∈ Layout.zeros k) : Text.isDigit c = true := by
  obtain rfl := List.eq_of_mem_replicate h
  rfl

/-- Digits before and behind a point that write a decimal: a zero alone behind the point, or as many
digits as there are places behind it. -/
structure Places (ws fs : List Char) (d : Decimal) : Prop where
  whole : IsWhole ws
  digits : ∀ c ∈ fs, Text.isDigit c = true
  ne_nil : fs ≠ []
  value : (0 ≤ d.exponent ∧ fs.length = 1 ∧
      readOn 0 (ws ++ fs) = d.digits * 10 ^ (d.exponent.toNat + 1)) ∨
    ((fs.length : Int) = -d.exponent ∧ readOn 0 (ws ++ fs) = d.digits)

section Digits

variable {c k p : Nat}

theorem toDigits_ne_nil : Nat.toDigits 10 c ≠ [] :=
  List.ne_nil_of_length_pos Nat.length_toDigits_pos

/-- The first digits of a positive number. -/
theorem isWhole_take (hc : 0 < c) (hp : 0 < p) : IsWhole ((Nat.toDigits 10 c).take p) := by
  have hne : (Nat.toDigits 10 c).take p ≠ [] := by
    rw [ne_eq, List.take_eq_nil_iff, not_or]
    exact ⟨by omega, toDigits_ne_nil⟩
  have htake := @isWhole_of_toDigits c _ [] hc hne (List.take_prefix p _) (by simp)
  rwa [List.append_nil] at htake

/-- Digits with the point behind them and behind the zeros that follow them. -/
theorem places_whole (hc : 0 < c) :
    Places (Nat.toDigits 10 c ++ Layout.zeros k) ['0'] ⟨c, k⟩ where
  whole := isWhole_of_toDigits hc toDigits_ne_nil List.prefix_rfl fun _ => isDigit_zeros
  digits := fun _ => @isDigit_zeros 1 _
  ne_nil := by decide
  value := by
    have hzeros : readOn c (Layout.zeros k ++ ['0']) = c * 10 ^ (k + 1) := by
      rw [readOn_append, readOn_zeros]
      exact (readOn_zeros _ 1).trans (Nat.mul_assoc _ _ _)
    refine .inl ⟨Int.natCast_nonneg k, rfl, ?_⟩
    rw [List.append_assoc, readOn_append, readOn_toDigits, hzeros, Int.toNat_natCast]

/-- Digits with the point between them. -/
theorem places_between (hc : 0 < c) (hp : 0 < p) (hk : 0 < k) (hplaces : decimalLength c = p + k) :
    Places ((Nat.toDigits 10 c).take p) ((Nat.toDigits 10 c).drop p) ⟨c, -(k : Int)⟩ := by
  have hlength : ((Nat.toDigits 10 c).drop p).length = k := by
    rw [List.length_drop]
    exact (congrArg (· - p) hplaces).trans (Nat.add_sub_cancel_left p k)
  refine
    { whole := isWhole_take hc hp
      digits := fun d hd => isDigit_toDigits (List.mem_of_mem_drop hd)
      ne_nil := List.ne_nil_of_length_pos (by omega)
      value := .inr ⟨?_, ?_⟩ }
  · dsimp only
    omega
  · rw [List.take_append_drop, readOn_toDigits]

/-- Digits with the point before them and before the zeros that they follow. -/
theorem places_before (hplaces : p + decimalLength c = k) :
    Places ['0'] (Layout.zeros p ++ Nat.toDigits 10 c) ⟨c, -(k : Int)⟩ where
  whole := .zero
  digits := by
    intro d hd
    rcases List.mem_append.mp hd with hd | hd
    · exact isDigit_zeros hd
    · exact isDigit_toDigits hd
  ne_nil := List.append_ne_nil_of_right_ne_nil _ toDigits_ne_nil
  value := by
    have hzeros : readOn 0 ('0' :: Layout.zeros p) = 0 :=
      (readOn_zeros 0 (p + 1)).trans (Nat.zero_mul _)
    refine .inr ⟨?_, ?_⟩
    · have hlength : (Layout.zeros p ++ Nat.toDigits 10 c).length = p + decimalLength c := by
        rw [List.length_append, Layout.zeros, List.length_replicate]
        rfl
      dsimp only
      omega
    · rw [← List.append_assoc, readOn_append, List.cons_append, List.nil_append, hzeros,
        readOn_toDigits]

end Digits

end Json

open Json (Places places_whole places_between places_before)

/-- Where the point of a decimal stands, counted from its first digit. -/
def Decimal.point (d : Decimal) : Int := decimalLength d.digits + d.exponent

/-- A decimal of usual size is written with a point. -/
theorem Decimal.exists_places {d : Decimal} (hpos : 0 < d.digits) (hlow : -4 ≤ d.point)
    (hhigh : d.point ≤ 16) :
    ∃ ws fs, Layout.wire.decimal d = ws ++ '.' :: fs ∧ Places ws fs d := by
  obtain ⟨c, e⟩ := d
  unfold Decimal.point at hlow hhigh
  unfold Layout.decimal Layout.wire
  have hlength : (Nat.toDigits 10 c).length = decimalLength c := rfl
  simp only [Layout.within, decide_eq_true_eq, hlength] at hlow hhigh hpos ⊢
  split
  · rename_i hpoint
    split
    · rename_i hwhole
      obtain ⟨k, rfl⟩ := Int.eq_ofNat_of_zero_le hwhole
      exact ⟨_, ['0'], by simp, places_whole hpos⟩
    · obtain ⟨k, rfl⟩ : ∃ k : Nat, e = -(k : Int) := ⟨(-e).toNat, by omega⟩
      generalize hp : ((decimalLength c : Int) + -(k : Int)).toNat = p
      have hbetween := @places_between c k p hpos (by omega) (by omega) (by omega)
      exact ⟨_, _, by simp, hbetween⟩
  · rw [if_pos (by omega)]
    obtain ⟨k, rfl⟩ : ∃ k : Nat, e = -(k : Int) := ⟨(-e).toNat, by omega⟩
    generalize hp : (-((decimalLength c : Int) + -(k : Int))).toNat = p
    exact ⟨_, _, rfl, places_before (by omega)⟩

/-! ## With an exponent -/

namespace Json

/-- The digits behind the first one, if there are any. -/
def digitsBehind (n : Nat) : Option (List Char) :=
  if decimalLength n = 1 then none else some ((Nat.toDigits 10 n).drop 1)

theorem take_append_digitsBehind (n : Nat) :
    (Nat.toDigits 10 n).take 1 ++ (digitsBehind n).getD [] = Nat.toDigits 10 n := by
  unfold digitsBehind
  split
  · rename_i hsingle
    rw [Option.getD_none, List.append_nil]
    exact List.take_of_length_le hsingle.le
  · rw [Option.getD_some, List.take_append_drop]

theorem length_digitsBehind (n : Nat) :
    ((digitsBehind n).getD []).length = decimalLength n - 1 := by
  unfold digitsBehind
  split
  · rename_i hsingle
    rw [hsingle]
    rfl
  · rw [Option.getD_some, List.length_drop]
    rfl

/-- The parts of a decimal with one digit before the point and an exponent. -/
def scientific (negative : Bool) (d : Decimal) : Numeral :=
  ⟨negative, (Nat.toDigits 10 d.digits).take 1, digitsBehind d.digits,
    some (decide (d.point - 1 < 0), Nat.toDigits 10 (d.point - 1).natAbs)⟩

theorem isWritten_scientific (negative : Bool) {d : Decimal} (hpos : 0 < d.digits) :
    (scientific negative d).IsWritten where
  whole := isWhole_take hpos (by decide)
  fraction := by
    intro fs hfs
    have hsome : digitsBehind d.digits = some fs := hfs
    have hparts := take_append_digitsBehind d.digits
    have hlength := length_digitsBehind d.digits
    have hone : 0 < decimalLength d.digits := Nat.length_toDigits_pos
    have hne : decimalLength d.digits ≠ 1 := by
      intro hsingle
      unfold digitsBehind at hsome
      rw [if_pos hsingle] at hsome
      exact absurd hsome (by simp)
    rw [hsome, Option.getD_some] at hparts hlength
    refine ⟨List.ne_nil_of_length_pos (by omega), fun c hc => ?_⟩
    have hmem : c ∈ Nat.toDigits 10 d.digits := hparts ▸ List.mem_append_right _ hc
    exact isDigit_toDigits hmem
  power := by
    rintro down ds hsome
    obtain ⟨-, rfl⟩ := Prod.mk.inj (Option.some.inj hsome)
    exact ⟨toDigits_ne_nil, fun c => isDigit_toDigits⟩

end Json

/-- A decimal that is too large or too small for that is written with an exponent. -/
theorem Decimal.text_scientific {d : Decimal} (h : d.point < -4 ∨ 16 < d.point) :
    Layout.wire.decimal d = (Json.scientific false d).chars := by
  obtain ⟨c, e⟩ := d
  have hlength : (Nat.toDigits 10 c).length = decimalLength c := rfl
  unfold Decimal.point at h
  unfold Layout.decimal Layout.wire Json.scientific Json.Numeral.chars Json.digitsBehind
    Decimal.point
  simp only [Layout.within, decide_eq_true_eq, hlength] at h ⊢
  rw [if_neg (by omega), if_neg (by omega)]
  split <;> simp

end Storyboard
