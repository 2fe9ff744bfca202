import Storyboard.AspectRatio
import Storyboard.Proofs.Json.Numerals
import Storyboard.Proofs.Outcome
import Storyboard.Proofs.Text.Splitting
import Storyboard.Proofs.Text.Trimming
import Storyboard.Proofs.Wire.Timelines

/-!
# Ratios as they are written

What reading a text as a ratio comes to is told by the text alone: `AspectRatio.Reads` has one case
for the ratios and one for every kind of fault, the earlier of two faults being the one that counts.
The written form of a ratio is two runs of digits around a colon, so it is read back.
-/

namespace Storyboard

/-! ## Numbers -/

namespace Text

/-- Some characters write a number: at least one digit, perhaps behind a plus sign. -/
def Writes (cs : List Char) (n : Nat) : Prop :=
  ∃ digits, (cs = digits ∨ cs = '+' :: digits) ∧ digits ≠ [] ∧
    (∀ c ∈ digits, c.isDigit = true) ∧ n = Nat.ofDigitChars 10 digits 0

variable {cs digits : List Char} {bound n : Nat}

theorem isDigit_eq (c : Char) : isDigit c = c.isDigit := by
  simp only [isDigit, Char.isDigit, ge_iff_le, UInt32.le_iff_toNat_le]
  rfl

theorem decimalValue_eq (digits : List Char) : decimalValue digits = Nat.ofDigitChars 10 digits 0 :=
  Nat.ofDigitChars_eq_foldl.symm

/-- What stands behind the plus sign, if there is one. -/
def behindPlus (cs : List Char) : List Char :=
  match cs with
  | '+' :: rest => rest
  | _ => cs

theorem eq_behindPlus (cs : List Char) : cs = behindPlus cs ∨ cs = '+' :: behindPlus cs := by
  unfold behindPlus
  split
  · exact .inr rfl
  · exact .inl rfl

/-- A plus sign is no digit, so the digits of a number are all that stands behind its plus sign. -/
theorem behindPlus_eq (hcs : cs = digits ∨ cs = '+' :: digits)
    (hdigits : ∀ c ∈ digits, c.isDigit = true) : behindPlus cs = digits := by
  rcases hcs with rfl | rfl
  · unfold behindPlus
    split
    · exact absurd (hdigits '+' List.mem_cons_self) (by decide)
    · rfl
  · rfl

theorem unsigned_eq (bound : Nat) (cs : List Char) : unsigned bound cs =
    if behindPlus cs ≠ [] ∧ (behindPlus cs).all isDigit = true ∧
        decimalValue (behindPlus cs) < bound
    then some (decimalValue (behindPlus cs)) else none := rfl

theorem unsigned_eq_some_iff : unsigned bound cs = some n ↔ Writes cs n ∧ n < bound := by
  simp only [unsigned_eq, Option.ite_none_right_eq_some, Option.some.injEq, List.all_eq_true,
    isDigit_eq, decimalValue_eq]
  constructor
  · rintro ⟨⟨hne, hdigits, hlt⟩, rfl⟩
    exact ⟨⟨_, eq_behindPlus cs, hne, hdigits, rfl⟩, hlt⟩
  · rintro ⟨⟨digits, hcs, hne, hdigits, rfl⟩, hlt⟩
    rw [behindPlus_eq hcs hdigits]
    exact ⟨⟨hne, hdigits, hlt⟩, rfl⟩

theorem isDigit_of_mem_toDigits {c : Char} (h : c ∈ Nat.toDigits 10 n) : c.isDigit = true :=
  Nat.isDigit_of_mem_toDigits (by decide) (by decide) h

/-- The digits of a number write it. -/
theorem writes_toDigits (n : Nat) : Writes (Nat.toDigits 10 n) n :=
  ⟨_, .inl rfl, Nat.toDigits_ne_nil, fun _ => isDigit_of_mem_toDigits,
    Nat.ofDigitChars_ten_toDigits.symm⟩

theorem isBlank_of_isDigit {c : Char} (h : c.isDigit = true) : isBlank c = false := by
  rw [← isDigit_eq] at h
  simp only [isDigit, Bool.and_eq_true, decide_eq_true_eq] at h
  simp only [isBlank, Bool.or_eq_false_iff, Bool.and_eq_false_iff, decide_eq_false_iff_not,
    beq_eq_false_iff_ne]
  omega

end Text

namespace AspectRatio

/-! ## Reading -/

/-- Without the blanks around it, a text has one colon, with two halves on either side. -/
structure Halves (s : String) (left right : List Char) : Prop where
  /-- The halves and the colon make up the text. -/
  text_eq : Text.trimChars s.toList = left ++ ':' :: right
  /-- There is no colon before that one. -/
  left_plain : ':' ∉ left
  /-- There is none behind it. -/
  right_plain : ':' ∉ right

/-- A half is a number of 32 bits with blanks around it. -/
def IsSide (half : List Char) (n : Nat) : Prop :=
  Text.Writes (Text.trimChars half) n ∧ n ≤ 4294967295

/-- What reading a text comes to. -/
inductive Reads (s : String) : Except AspectRatioError AspectRatio → Prop
  /-- Both halves are numbers, and none of them is zero. -/
  | ratio {left right : List Char} {r : AspectRatio} (halves : Halves s left right)
      (width : IsSide left r.width) (height : IsSide right r.height) : Reads s (.ok r)
  /-- There is not exactly one colon. -/
  | format (colons : (Text.trimChars s.toList).count ':' ≠ 1) : Reads s (.error (.invalidFormat s))
  /-- The first half is no number. -/
  | left {left right : List Char} (halves : Halves s left right) (width : ∀ m, ¬IsSide left m) :
      Reads s (.error (.invalidNumber (String.ofList left)))
  /-- The first half is a number, and the second is none. -/
  | right {left right : List Char} {m : Nat} (halves : Halves s left right)
      (width : IsSide left m) (height : ∀ n, ¬IsSide right n) :
      Reads s (.error (.invalidNumber (String.ofList right)))
  /-- Both halves are numbers, and one of them is zero. -/
  | zero {left right : List Char} {m n : Nat} (halves : Halves s left right)
      (width : IsSide left m) (height : IsSide right n) (zero : m = 0 ∨ n = 0) :
      Reads s (.error .zeroValue)

variable {s : String} {left right half : List Char} {m n : Nat}
  {x : Except AspectRatioError AspectRatio}

theorem splitOn_eq_iff_halves :
    Text.splitOn ':' (Text.trimChars s.toList) = [left, right] ↔ Halves s left right := by
  rw [Text.splitOn_eq_pair_iff]
  exact ⟨fun h => ⟨h.1, h.2.1, h.2.2⟩, fun h => ⟨h.text_eq, h.left_plain, h.right_plain⟩⟩

theorem parse_of_halves (h : Halves s left right) :
    parse s = (do ofSides (← side left) (← side right)) := by
  unfold parse
  rw [splitOn_eq_iff_halves.mpr h]

theorem parse_of_count (h : (Text.trimChars s.toList).count ':' ≠ 1) :
    parse s = .error (.invalidFormat s) := by
  unfold parse
  split
  · rename_i left right hsplit
    have hlength := Text.length_splitOn ':' (Text.trimChars s.toList)
    rw [hsplit, List.length_cons, List.length_singleton] at hlength
    exact absurd (Nat.succ_inj.mp hlength).symm h
  · rfl

theorem exists_halves (h : (Text.trimChars s.toList).count ':' = 1) :
    ∃ left right, Halves s left right := by
  have hlength := Text.length_splitOn ':' (Text.trimChars s.toList)
  rw [h] at hlength
  obtain ⟨left, right, hsplit⟩ := List.length_eq_two.mp hlength
  exact ⟨left, right, splitOn_eq_iff_halves.mp hsplit⟩

theorem unsigned_eq_some_iff_isSide :
    Text.unsigned 4294967296 (Text.trimChars half) = some n ↔ IsSide half n := by
  rw [Text.unsigned_eq_some_iff, IsSide, Nat.lt_succ_iff]

theorem side_of_isSide (h : IsSide half n) : side half = .ok n := by
  unfold side
  rw [unsigned_eq_some_iff_isSide.mpr h]

theorem side_of_not_isSide (h : ∀ n, ¬IsSide half n) :
    side half = .error (.invalidNumber (String.ofList half)) := by
  unfold side
  cases hread : Text.unsigned 4294967296 (Text.trimChars half) with
  | none => rfl
  | some n => exact absurd (unsigned_eq_some_iff_isSide.mp hread) (h n)

theorem ofSides_self (r : AspectRatio) : ofSides r.width r.height = .ok r :=
  dif_pos ⟨r.width_pos, r.height_pos, r.width_lt, r.height_lt⟩

theorem ofSides_of_zero (h : m = 0 ∨ n = 0) : ofSides m n = .error .zeroValue :=
  dif_neg (by omega)

theorem Reads.parse_eq (h : Reads s x) : parse s = x := by
  cases h with
  | ratio halves width height =>
    rw [parse_of_halves halves, side_of_isSide width, side_of_isSide height, ok_bind, ok_bind,
      ofSides_self]
  | format colons => exact parse_of_count colons
  | left halves width =>
    rw [parse_of_halves halves, side_of_not_isSide width, error_bind]
  | right halves width height =>
    rw [parse_of_halves halves, side_of_isSide width, side_of_not_isSide height, ok_bind,
      error_bind]
  | zero halves width height zero =>
    rw [parse_of_halves halves, side_of_isSide width, side_of_isSide height, ok_bind, ok_bind,
      ofSides_of_zero zero]

/-- There is no text whose reading is not told. -/
theorem exists_reads (s : String) : ∃ x, Reads s x := by
  by_cases hcolons : (Text.trimChars s.toList).count ':' = 1
  · obtain ⟨left, right, halves⟩ := exists_halves hcolons
    by_cases hleft : ∃ m, IsSide left m
    · obtain ⟨m, width⟩ := hleft
      by_cases hright : ∃ n, IsSide right n
      · obtain ⟨n, height⟩ := hright
        by_cases hzero : m = 0 ∨ n = 0
        · exact ⟨_, .zero halves width height hzero⟩
        · have hm := width.2
          have hn := height.2
          exact ⟨_, .ratio (r := ⟨m, n, by omega, by omega, by omega, by omega⟩) halves width
            height⟩
      · exact ⟨_, .right halves width (not_exists.mp hright)⟩
    · exact ⟨_, .left halves (not_exists.mp hleft)⟩
  · exact ⟨_, .format hcolons⟩

theorem parse_eq_iff (s : String) (x : Except AspectRatioError AspectRatio) :
    parse s = x ↔ Reads s x := by
  refine ⟨?_, Reads.parse_eq⟩
  rintro rfl
  obtain ⟨x, hreads⟩ := exists_reads s
  rwa [hreads.parse_eq]

/-! ## Reading what was written -/

theorem toList_text (r : AspectRatio) :
    r.text.toList = Nat.toDigits 10 r.width ++ ':' :: Nat.toDigits 10 r.height := by
  simp [text, toString, Nat.repr, String.toList_append]

theorem isSide_toDigits (h : n < 4294967296) : IsSide (Nat.toDigits 10 n) n := by
  refine ⟨?_, Nat.le_of_lt_succ h⟩
  rw [Text.trimChars_of_plain fun c hc => Text.isBlank_of_isDigit (Text.isDigit_of_mem_toDigits hc)]
  exact Text.writes_toDigits n

/-- The written form of a ratio is a text of this ratio. -/
theorem reads_text (r : AspectRatio) : Reads r.text (.ok r) := by
  have hplain (n : Nat) : ':' ∉ Nat.toDigits 10 n :=
    fun h => absurd (Text.isDigit_of_mem_toDigits h) (by decide)
  have htrimmed : Text.trimChars r.text.toList = r.text.toList := by
    refine Text.trimChars_of_plain fun c hc => ?_
    rw [toList_text, List.mem_append, List.mem_cons] at hc
    rcases hc with hc | rfl | hc
    · exact Text.isBlank_of_isDigit (Text.isDigit_of_mem_toDigits hc)
    · decide
    · exact Text.isBlank_of_isDigit (Text.isDigit_of_mem_toDigits hc)
  exact .ratio ⟨htrimmed.trans (toList_text r), hplain _, hplain _⟩ (isSide_toDigits r.width_lt)
    (isSide_toDigits r.height_lt)

/-- A ratio is sent as its written form, and read back. -/
theorem gets_ratio (form : Json.Form) (r : AspectRatio) :
    (Wire.reader : Json.Reader AspectRatio).Gets form (Wire.toJson r) r := by
  refine Wire.gets_mapExcept (Json.Reader.gets_string r.text) ?_
  rw [(reads_text r).parse_eq]
  rfl

/-- Reading a text comes to what the text tells. A ratio is read back from its written form, as it
is and as JSON, so the written form of what was read is read as the same. -/
theorem parse_told (s : String) (r : AspectRatio) :
    (∀ x, parse s = x ↔ Reads s x) ∧
      parse r.text = .ok r ∧
      Wire.toJson r = .text r.text ∧
      (Wire.reader : Json.Reader AspectRatio).ofJson (Wire.toJson r) = .ok r ∧
      (∀ more, (Wire.reader : Json.Reader AspectRatio).ofChars more
        (Wire.toJson r).toText.toList = .ok r) ∧
      (parse s >>= fun read => parse read.text) = parse s := by
  have hback (r : AspectRatio) : parse r.text = .ok r := (reads_text r).parse_eq
  refine ⟨parse_eq_iff s, hback r, rfl, gets_ratio .value r, fun more => ?_, ?_⟩
  · exact (gets_ratio _ r).ofChars_toText (by simp [Wire.toJson, Json.numbers]) more
  · cases parse s with
    | error e => rfl
    | ok read => rw [ok_bind, hback]

example : AspectRatio.parse " +016 : 9 " = .ok .landscape := by decide

end AspectRatio

end Storyboard
