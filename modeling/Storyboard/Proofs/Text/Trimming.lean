import Mathlib.Data.List.DropRight
import Mathlib.Data.List.TakeWhile
import Storyboard.Text.Blank

/-!
# Trimming

A text is trimmed if it neither begins nor ends with a blank. Trimming leaves out characters at the
ends of a text, and what it leaves is trimmed; a trimmed text it leaves alone.
-/

namespace Storyboard.Text

/-- A text neither begins nor ends with a blank. -/
def IsTrimmed (cs : List Char) : Prop :=
  (∀ c, cs.head? = some c → isBlank c = false) ∧ ∀ c, cs.getLast? = some c → isBlank c = false

variable {cs front back : List Char}

theorem trimBack_eq : trimBack cs = cs.rdropWhile isBlank := rfl

theorem trimBack_isPrefix (cs : List Char) : trimBack cs <+: cs := List.rdropWhile_prefix _ _

theorem trimChars_sublist (cs : List Char) : (trimChars cs).Sublist cs :=
  (trimBack_isPrefix _).sublist.trans (List.dropWhile_sublist _)

/-- Only blanks are left out. -/
theorem mem_trimChars {c : Char} (h : c ∈ cs) (hc : isBlank c = false) : c ∈ trimChars cs := by
  have hfront : c ∈ trimFront cs := by
    rw [← List.takeWhile_append_dropWhile (p := isBlank) (l := cs), List.mem_append] at h
    exact h.resolve_left fun hblank => by simp [List.mem_takeWhile_imp hblank] at hc
  rw [← List.rdropWhile_append_rtakeWhile (p := isBlank) (l := trimFront cs),
    List.mem_append] at hfront
  exact hfront.resolve_right fun hblank => by simp [List.mem_rtakeWhile_imp hblank] at hc

theorem head?_trimFront {c : Char} (h : (trimFront cs).head? = some c) : isBlank c = false := by
  rw [trimFront, ← List.find?_not_eq_head?_dropWhile] at h
  simpa using List.find?_some h

theorem getLast?_trimBack {c : Char} (h : (trimBack cs).getLast? = some c) : isBlank c = false := by
  have hne : trimBack cs ≠ [] := by
    intro hnil
    rw [hnil] at h
    cases h
  rw [List.getLast?_eq_some_getLast hne] at h
  obtain rfl := Option.some.inj h
  exact Bool.eq_false_iff.mpr (List.rdropWhile_last_not isBlank cs hne)

/-- What trimming leaves is trimmed. -/
theorem isTrimmed_trimChars : IsTrimmed (trimChars cs) := by
  refine ⟨fun c hc => ?_, fun c => getLast?_trimBack⟩
  have hfront : (trimFront cs).head? = some c := by
    obtain ⟨back, hback⟩ := trimBack_isPrefix (trimFront cs)
    rw [← hback, List.head?_append]
    exact Option.or_eq_some_iff.mpr (.inl hc)
  exact head?_trimFront hfront

/-- A trimmed text is left alone. -/
theorem trimChars_of_isTrimmed (h : IsTrimmed cs) : trimChars cs = cs := by
  have hfront : trimFront cs = cs := by
    refine List.dropWhile_eq_self_iff.mpr fun hpos => ?_
    simpa using h.1 _ (List.head?_eq_getElem? .. ▸ List.getElem?_eq_getElem hpos)
  rw [trimChars, hfront, trimBack_eq]
  refine List.rdropWhile_eq_self_iff.mpr fun hne => ?_
  simpa using h.2 _ (List.getLast?_eq_some_getLast hne)

/-- A text without blanks is left alone. -/
theorem trimChars_of_plain (h : ∀ c ∈ cs, isBlank c = false) : trimChars cs = cs :=
  trimChars_of_isTrimmed
    ⟨fun c hc => h c (List.mem_of_mem_head? hc), fun c hc => h c (List.mem_of_getLast? hc)⟩

theorem trimChars_map {f : Char → Char} (hf : ∀ c, isBlank (f c) = isBlank c) (cs : List Char) :
    trimChars (cs.map f) = (trimChars cs).map f := by
  have hblank : isBlank ∘ f = isBlank := funext hf
  simp only [trimChars, trimFront, trimBack, List.dropWhile_map, ← List.map_reverse, hblank]

/-- Blanks in front do not count. -/
theorem trimFront_append (h : ∀ c ∈ front, isBlank c = true) :
    trimFront (front ++ cs) = trimFront cs := List.dropWhile_append_of_pos h

/-- Blanks at the end do not count. -/
theorem trimBack_append (h : ∀ c ∈ back, isBlank c = true) :
    trimBack (cs ++ back) = trimBack cs := by
  unfold trimBack
  rw [List.reverse_append, List.dropWhile_append_of_pos fun c hc => h c (List.mem_reverse.mp hc)]

theorem trimChars_surrounded (hfront : ∀ c ∈ front, isBlank c = true)
    (hback : ∀ c ∈ back, isBlank c = true) : trimChars (front ++ cs ++ back) = trimChars cs := by
  rw [trimChars, List.append_assoc, trimFront_append hfront, trimFront, List.dropWhile_append]
  split
  · rename_i hnone
    have hall : back.dropWhile isBlank = [] := List.dropWhile_eq_nil_iff.mpr hback
    rw [hall, trimChars, trimFront, List.isEmpty_iff.mp hnone]
  · rw [trimBack_append hback, trimChars, trimFront]

end Storyboard.Text
