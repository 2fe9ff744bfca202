import Storyboard.Proofs.Text.Trimming

/-!
# Letter case

The words that a setting knows are compared without regard to the blanks around them and to the case
of ASCII letters: texts that differ in nothing else are the same word.
-/

namespace Storyboard.Text

/-! ## Characters -/

/-- Only the capitals of ASCII have another small form. -/
theorem toLower_cases (c : Char) :
    c.toLower = c ∨ 65 ≤ c.toNat ∧ c.toNat ≤ 90 ∧ c.toLower.toNat = c.toNat + 32 := by
  unfold Char.toLower
  split
  · rename_i hcapital
    obtain ⟨hlow, hhigh⟩ := hcapital
    have hlow : 65 ≤ c.toNat := hlow
    have hhigh : c.toNat ≤ 90 := hhigh
    refine .inr ⟨hlow, hhigh, ?_⟩
    show (c.val + 32).toNat = c.val.toNat + 32
    have hval : c.val.toNat ≤ 90 := hhigh
    rw [UInt32.toNat_add]
    exact Nat.mod_eq_of_lt (by simp; omega)
  · exact .inl rfl

theorem isAlpha_iff {c : Char} :
    c.isAlpha = true ↔ 65 ≤ c.toNat ∧ c.toNat ≤ 90 ∨ 97 ≤ c.toNat ∧ c.toNat ≤ 122 := by
  delta Char.isAlpha Char.isUpper Char.isLower
  simp only [Bool.or_eq_true, Bool.and_eq_true, decide_eq_true_eq, ge_iff_le,
    UInt32.le_iff_toNat_le, Char.isValue, Char.reduceVal, UInt32.reduceToNat, Char.toNat_val]

theorem isAlpha_of_toLower {c : Char} (h : c.toLower.isAlpha = true) : c.isAlpha = true := by
  rcases toLower_cases c with hsame | ⟨hlow, hhigh, -⟩
  · rwa [hsame] at h
  · exact isAlpha_iff.mpr (.inl ⟨hlow, hhigh⟩)

/-- A character that is no small letter is the small form of itself only. -/
theorem eq_of_toLower_eq {c d : Char} (hd : d.toNat < 97) (h : c.toLower = d) : c = d := by
  rcases toLower_cases c with hsame | ⟨hlow, -, hsmall⟩
  · rw [← hsame, h]
  · rw [h] at hsmall
    omega

theorem isBlank_of_letter {c : Char} (hlow : 65 ≤ c.toNat) (hhigh : c.toNat ≤ 122) :
    isBlank c = false := by
  simp only [isBlank, Bool.or_eq_false_iff, Bool.and_eq_false_iff, decide_eq_false_iff_not,
    beq_eq_false_iff_ne]
  omega

theorem isBlank_toLower (c : Char) : isBlank c.toLower = isBlank c := by
  rcases toLower_cases c with hsame | ⟨hlow, hhigh, hsmall⟩
  · rw [hsame]
  · rw [isBlank_of_letter (by omega) (by omega), isBlank_of_letter hlow (by omega)]

theorem isBlank_lowerChar (c : Char) : isBlank (lowerChar c) = isBlank c := by
  unfold lowerChar
  split
  · rename_i hkelvin
    simp [isBlank, hkelvin]
  · exact isBlank_toLower c

theorem lowerChar_toLower (c : Char) : lowerChar c.toLower = lowerChar c := by
  rcases toLower_cases c with hsame | ⟨hlow, hhigh, hsmall⟩
  · rw [hsame]
  · have htwice : c.toLower.toLower = c.toLower := by
      rcases toLower_cases c.toLower with h | ⟨-, h, -⟩
      · exact h
      · omega
    rw [lowerChar, lowerChar, if_neg (by omega), if_neg (by omega), htwice]

/-! ## Words -/

/-- A text is a word with blanks around it, in which any letters of ASCII may be of the other
case. -/
def Alike (word s : String) : Prop :=
  ∃ front cs back, s.toList = front ++ cs ++ back ∧ (∀ c ∈ front, isBlank c = true) ∧
    (∀ c ∈ back, isBlank c = true) ∧ cs.map Char.toLower = word.toList.map Char.toLower

theorem Alike.refl (word : String) : Alike word word :=
  ⟨[], word.toList, [], by simp, by simp, by simp, rfl⟩

theorem keyword_of_alike {word s : String} (h : Alike word s) : keyword s = keyword word := by
  obtain ⟨front, cs, back, hs, hfront, hback, hcase⟩ := h
  have hlower (ds : List Char) :
      (trimChars ds).map lowerChar = trimChars ((ds.map Char.toLower).map lowerChar) := by
    rw [← trimChars_map isBlank_lowerChar, List.map_map]
    exact congrArg trimChars (List.map_congr_left fun c _ => (lowerChar_toLower c).symm)
  rw [keyword, keyword, hs, trimChars_surrounded hfront hback, hlower, hlower, hcase]

end Storyboard.Text
