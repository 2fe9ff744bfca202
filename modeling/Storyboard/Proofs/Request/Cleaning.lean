import Mathlib.Algebra.Order.Field.Basic
import Mathlib.Algebra.Order.Field.Rat
import Storyboard.Proofs.Number.Rounding
import Storyboard.Proofs.Outcome
import Storyboard.Proofs.Time.Arithmetic
import Storyboard.Request.Cleaning

/-!
# What cleaning accepts

For each kind of field, what a caller may write there, said without the functions that check it, and
that the check passes exactly what may be written. A field that is absent or blank always passes.
-/

namespace Storyboard

/-- The exact value of a finite number. -/
def Double.exact? : Double → Option ℚ
  | .finite s m e => some ((if s then -1 else 1) * (units m e / unitsPerOne))
  | _ => none

namespace Cleaning

/-! ## What may be written -/

/-- A field holds a text that is not blank, and which one it is without the blanks around it. -/
def Supplied (field : Option String) (raw : String) : Prop :=
  ∃ s, field = some s ∧ raw = Text.trim s ∧ raw ≠ ""

/-- A text is an address of the web with a host, of no more than 2048 bytes. -/
def IsWebAddress (raw : String) : Prop :=
  raw.utf8ByteSize ≤ 2048 ∧
    ∃ url, Url.parse raw = .ok url ∧ (url.scheme = "http" ∨ url.scheme = "https") ∧ url.host ≠ none

/-- A character is a hexadecimal digit. -/
def IsHexDigit (c : Char) : Prop :=
  ('0' ≤ c ∧ c ≤ '9') ∨ ('A' ≤ c ∧ c ≤ 'F') ∨ ('a' ≤ c ∧ c ≤ 'f')

/-- A text is a colour: a number sign and three or six hexadecimal digits. -/
def IsColor (raw : String) : Prop :=
  ∃ digits, raw.toList = '#' :: digits ∧ (digits.length = 3 ∨ digits.length = 6) ∧
    ∀ d ∈ digits, IsHexDigit d

/-- A number of seconds makes at least so many milliseconds, and no more than an hour. -/
def Lasts (least : Nat) (seconds : Double) : Prop :=
  ∃ t, Millis.ofSeconds? seconds = some t ∧ least ≤ t.count ∧ t.count ≤ 3600000

/-- A number is finite and lies between zero and one. -/
def IsVolume (v : Double) : Prop := ∃ q, v.exact? = some q ∧ 0 ≤ q ∧ q ≤ 1

/-! ## Blank fields -/

theorem trimmed_eq_some_iff {field : Option String} {raw : String} :
    trimmed field = some raw ↔ Supplied field raw := by
  unfold trimmed Supplied
  rw [Option.filter_eq_some_iff, Option.map_eq_some_iff]
  constructor
  · rintro ⟨⟨s, hs, rfl⟩, hne⟩
    exact ⟨s, hs, rfl, by simpa using hne⟩
  · rintro ⟨s, hs, rfl, hne⟩
    exact ⟨⟨s, hs, rfl⟩, by simpa using hne⟩

theorem trimmed_eq_none_iff {field : Option String} :
    trimmed field = none ↔ ∀ raw, ¬Supplied field raw := by
  simp only [Option.eq_none_iff_forall_ne_some, ne_eq, trimmed_eq_some_iff]

/-! ## Addresses -/

theorem isWeb_iff {u : Url} :
    u.isWeb = true ↔ (u.scheme = "http" ∨ u.scheme = "https") ∧ u.host ≠ none := by
  simp [Url.isWeb, Option.isSome_iff_ne_none]

/-- An address passes as it is without the blanks around it, if it is one of the web. -/
theorem assetUrl_eq_ok_iff {field : FieldRef} {input : Option String} {src : Option String} :
    assetUrl field input = .ok src ↔
      src = trimmed input ∧ ∀ raw, Supplied input raw → IsWebAddress raw := by
  unfold assetUrl
  simp only [← trimmed_eq_some_iff]
  cases ht : trimmed input with
  | none => simp [eq_comm]
  | some raw =>
    simp only [Option.some.injEq, forall_eq', IsWebAddress]
    by_cases hlen : maxUrlLength < raw.utf8ByteSize
    · rw [if_pos hlen]
      simp only [reduceCtorEq, false_iff, not_and]
      intro _ hle
      exact absurd hlen (Nat.not_lt.mpr hle)
    · rw [if_neg hlen]
      have hle : raw.utf8ByteSize ≤ 2048 := Nat.le_of_not_lt hlen
      cases hp : Url.parse raw with
      | error reason => simp
      | ok url =>
        by_cases hweb : url.isWeb = true
        · have hparts := isWeb_iff.mp hweb
          simp only [hweb, if_true, Except.ok.injEq, hle, true_and, eq_comm (a := some raw)]
          exact ⟨fun h => ⟨h, url, rfl, hparts⟩, fun h => h.1⟩
        · simp [hweb, ← isWeb_iff]

/-! ## Colours -/

theorem isHexDigit_iff {c : Char} : Text.isHexDigit c = true ↔ IsHexDigit c := by
  have hchar : IsHexDigit c ↔ (48 ≤ c.toNat ∧ c.toNat ≤ 57) ∨ (65 ≤ c.toNat ∧ c.toNat ≤ 70) ∨
      (97 ≤ c.toNat ∧ c.toNat ≤ 102) := by
    simp only [IsHexDigit, Char.le_def, UInt32.le_iff_toNat_le]
    exact Iff.rfl
  rw [hchar]
  simp only [Text.isHexDigit, Text.hexValue]
  split_ifs with h1 h2 h3
  · simp [h1]
  · simp [h2]
  · simp [h3]
  · simp [h1, h2, h3]

theorem isColor_iff {raw : String} : isColor raw.toList = true ↔ IsColor raw := by
  unfold IsColor
  constructor
  · intro h
    unfold isColor at h
    split at h
    · rename_i digits heq
      rw [Bool.and_eq_true, Bool.or_eq_true, decide_eq_true_eq, decide_eq_true_eq] at h
      exact ⟨digits, heq, h.1, fun d hd => isHexDigit_iff.mp (List.all_eq_true.mp h.2 d hd)⟩
    · exact absurd h (by simp)
  · rintro ⟨digits, heq, hlen, hall⟩
    rw [heq]
    simp only [isColor, Bool.and_eq_true, Bool.or_eq_true, decide_eq_true_eq]
    exact ⟨hlen, List.all_eq_true.mpr fun d hd => isHexDigit_iff.mpr (hall d hd)⟩

/-- A field passes as a colour if what is written there is one. -/
theorem color_isOk_iff {field : FieldRef} {input : Option String} :
    (∃ c, color field input = .ok c) ↔ ∀ raw, Supplied input raw → IsColor raw := by
  unfold color
  simp only [← trimmed_eq_some_iff, ← isColor_iff]
  cases trimmed input with
  | none => simp
  | some raw => by_cases h : isColor raw.toList = true <;> simp [h]

/-! ## Lengths and volumes -/

theorem maxDuration_count : maxDuration.count = 3600000 := by decide

theorem duration_eq_ok_iff {field : FieldRef} {seconds : Option Double} {usual t : Millis} :
    duration field seconds usual = .ok t ↔
      (seconds = none ∧ t = usual) ∨
        ∃ d, seconds = some d ∧ Millis.ofSeconds? d = some t ∧ 1 ≤ t.count ∧ t.count ≤ 3600000 := by
  unfold duration
  cases seconds with
  | none => simp [eq_comm]
  | some d =>
    cases ho : Millis.ofSeconds? d with
    | none => simp [ho]
    | some t' =>
      simp only [reduceCtorEq, false_and, false_or, Option.some.injEq, exists_eq_left', ho]
      by_cases hlong : maxDuration.count < t'.count
      · rw [if_pos hlong]
        rw [maxDuration_count] at hlong
        simp only [reduceCtorEq, false_iff]
        rintro ⟨rfl, _, h⟩
        omega
      · rw [if_neg hlong]
        rw [maxDuration_count] at hlong
        by_cases hz : t'.isZero = true
        · rw [if_pos hz]
          rw [Millis.isZero_iff] at hz
          simp only [reduceCtorEq, false_iff]
          rintro ⟨rfl, h, _⟩
          omega
        · rw [if_neg hz]
          rw [Millis.isZero_iff] at hz
          simp only [Except.ok.injEq]
          exact ⟨fun h => ⟨h, h ▸ by omega, h ▸ by omega⟩, fun h => h.1⟩

theorem fade_eq_ok_iff {field : FieldRef} {seconds : Option Double} {usual t : Millis} :
    fade field seconds usual = .ok t ↔
      (seconds = none ∧ t = usual) ∨
        ∃ d, seconds = some d ∧ Millis.ofSeconds? d = some t ∧ t.count ≤ 3600000 := by
  unfold fade
  cases seconds with
  | none => simp [eq_comm]
  | some d =>
    cases ho : Millis.ofSeconds? d with
    | none => simp [ho]
    | some t' =>
      simp only [reduceCtorEq, false_and, false_or, Option.some.injEq, exists_eq_left', ho]
      by_cases hlong : maxDuration.count < t'.count
      · rw [if_pos hlong]
        rw [maxDuration_count] at hlong
        simp only [reduceCtorEq, false_iff]
        rintro ⟨rfl, h⟩
        omega
      · rw [if_neg hlong]
        rw [maxDuration_count] at hlong
        simp only [Except.ok.injEq]
        exact ⟨fun h => ⟨h, h ▸ by omega⟩, fun h => h.1⟩

theorem isUnitInterval_iff {v : Double} : v.isUnitInterval = true ↔ IsVolume v := by
  unfold IsVolume
  cases v with
  | nan => simp [Double.isUnitInterval, Double.exact?]
  | infinite s => simp [Double.isUnitInterval, Double.exact?]
  | finite s m e =>
    have hone : (0 : ℚ) < Double.unitsPerOne := Nat.cast_pos.mpr Double.unitsPerOne_pos
    have hunits : Double.units m e = 0 ↔ m = 0 := by simp [Double.units]
    simp only [Double.isUnitInterval, Double.exact?, Option.some.injEq, exists_eq_left',
      Bool.or_eq_true, beq_iff_eq, Bool.and_eq_true, Bool.not_eq_true', decide_eq_true_eq, ← hunits]
    generalize Double.units m e = u at *
    generalize Double.unitsPerOne = one at *
    have hpos : 0 ≤ (u : ℚ) / one := div_nonneg (Nat.cast_nonneg u) hone.le
    have hle : (u : ℚ) / one ≤ 1 ↔ u ≤ one := by rw [div_le_one hone, Nat.cast_le]
    have hzero : (u : ℚ) / one = 0 ↔ u = 0 := by
      rw [div_eq_zero_iff, Nat.cast_eq_zero, or_iff_left hone.ne']
    cases s with
    | false =>
      simp only [Bool.false_eq_true, if_false, one_mul, true_and, hpos, hle]
      omega
    | true =>
      simp only [if_true, neg_one_mul, Left.nonneg_neg_iff, Bool.true_eq_false, false_and, or_false]
      constructor
      · intro hu
        have hq := hzero.mpr hu
        rw [hq]
        simp
      · rintro ⟨hq, -⟩
        exact hzero.mp (le_antisymm hq hpos)

theorem volume_eq_ok_iff {field : FieldRef} {value : Option Double} {usual v : Double} :
    volume field value usual = .ok v ↔ v = value.getD usual ∧ IsVolume v := by
  unfold volume
  simp only [← isUnitInterval_iff]
  by_cases h : (value.getD usual).isUnitInterval = true
  · rw [if_pos h]
    simp only [Except.ok.injEq]
    exact ⟨fun he => ⟨he.symm, he ▸ h⟩, fun he => he.1.symm⟩
  · rw [if_neg h]
    simp only [reduceCtorEq, false_iff]
    rintro ⟨rfl, hv⟩
    exact h hv

end Cleaning

end Storyboard
