import Storyboard.Text.Blank

/-!
# Splitting at a character

The pieces of a text are the ones that the standard library finds, so its facts hold of them: joined
again they make up the text, and pieces without the separator are found again. `splitOn_eq_iff` says
both at once.
-/

namespace Storyboard.Text

variable {sep : Char} {cs ds es : List Char} {pieces : List (List Char)}

theorem splitOn_ne_nil : splitOn sep cs ≠ [] := by
  cases cs with
  | nil => simp [splitOn]
  | cons c cs =>
    unfold splitOn
    split
    · simp
    · split <;> simp

theorem splitOn_eq (sep : Char) (cs : List Char) : splitOn sep cs = List.splitOn sep cs := by
  rw [List.splitOn_eq_splitOnP]
  induction cs with
  | nil => rfl
  | cons c cs ih =>
    rw [List.splitOnP_cons_eq_if_modifyHead, ← ih, splitOn]
    by_cases hc : c = sep
    · simp [hc]
    · obtain ⟨piece, pieces, hpieces⟩ := List.exists_cons_of_ne_nil (@splitOn_ne_nil sep cs)
      simp [hc, hpieces]

theorem joinWith_eq (sep : Char) (pieces : List (List Char)) :
    joinWith sep pieces = [sep].intercalate pieces := by
  induction pieces with
  | nil => rfl
  | cons piece pieces ih =>
    cases pieces with
    | nil => simp [joinWith]
    | cons next rest => simp [joinWith, ih]

/-- The pieces of a text make up the text again. -/
theorem joinWith_splitOn : joinWith sep (splitOn sep cs) = cs := by
  rw [splitOn_eq, joinWith_eq, List.intercalate_splitOn]

/-- Pieces without the separator are found again. -/
theorem splitOn_joinWith (hne : pieces ≠ []) (h : ∀ piece ∈ pieces, sep ∉ piece) :
    splitOn sep (joinWith sep pieces) = pieces := by
  rw [splitOn_eq, joinWith_eq, List.splitOn_intercalate sep h hne]

/-- A text without the separator is one piece. -/
theorem splitOn_of_not_mem (h : sep ∉ cs) : splitOn sep cs = [cs] :=
  @splitOn_joinWith sep [cs] (by simp) (by simpa using h)

theorem splitOn_cons_sep : splitOn sep (sep :: cs) = [] :: splitOn sep cs := if_pos rfl

theorem splitOn_append_sep (cs ds : List Char) :
    splitOn sep (cs ++ sep :: ds) = splitOn sep cs ++ splitOn sep ds := by
  induction cs with
  | nil => exact splitOn_cons_sep
  | cons c cs ih =>
    by_cases hc : c = sep
    · rw [hc, List.cons_append, splitOn_cons_sep, splitOn_cons_sep, ih, List.cons_append]
    · obtain ⟨piece, pieces, hpieces⟩ := List.exists_cons_of_ne_nil (@splitOn_ne_nil sep cs)
      simp [splitOn, hc, ih, hpieces]

/-- No piece has the separator in it. -/
theorem not_mem_of_mem_splitOn {piece : List Char} (h : piece ∈ splitOn sep cs) : sep ∉ piece := by
  induction cs generalizing piece with
  | nil =>
    rw [splitOn, List.mem_singleton] at h
    simp [h]
  | cons c cs ih =>
    by_cases hc : c = sep
    · rw [hc, splitOn_cons_sep, List.mem_cons] at h
      rcases h with rfl | h
      · exact List.not_mem_nil
      · exact ih h
    · obtain ⟨first, rest, hpieces⟩ := List.exists_cons_of_ne_nil (@splitOn_ne_nil sep cs)
      simp only [splitOn, hc, if_false, hpieces, List.mem_cons] at h ih
      rcases h with rfl | h
      · rw [List.mem_cons, not_or]
        exact ⟨Ne.symm hc, ih (.inl rfl)⟩
      · exact ih (.inr h)

/-- Some pieces are those of a text if they have no separator in them and make up the text. -/
theorem splitOn_eq_iff : splitOn sep cs = pieces ↔
    pieces ≠ [] ∧ (∀ piece ∈ pieces, sep ∉ piece) ∧ cs = joinWith sep pieces := by
  constructor
  · rintro rfl
    exact ⟨splitOn_ne_nil, fun piece => not_mem_of_mem_splitOn, joinWith_splitOn.symm⟩
  · rintro ⟨hne, hpieces, rfl⟩
    exact splitOn_joinWith hne hpieces

theorem splitOn_eq_pair_iff :
    splitOn sep cs = [ds, es] ↔ cs = ds ++ sep :: es ∧ sep ∉ ds ∧ sep ∉ es := by
  rw [splitOn_eq_iff]
  simp [joinWith, and_comm]

/-- There is one more piece than separators. -/
theorem length_splitOn (sep : Char) (cs : List Char) :
    (splitOn sep cs).length = cs.count sep + 1 := by
  induction cs with
  | nil => rfl
  | cons c cs ih =>
    by_cases hc : c = sep
    · rw [hc, splitOn_cons_sep, List.length_cons, ih, List.count_cons_self]
    · obtain ⟨piece, pieces, hpieces⟩ := List.exists_cons_of_ne_nil (@splitOn_ne_nil sep cs)
      rw [hpieces, List.length_cons] at ih
      simp [splitOn, hc, hpieces, ih]

end Storyboard.Text
