import Storyboard.Proofs.Time.Arithmetic
import Storyboard.Timeline.Inset

/-!
# Margins

Taking the margins off a window leaves a window inside it. It is never empty, because a window that
is not longer than its margins stays as it is.
-/

namespace Storyboard.Inset

/-- What the margins leave is not empty and makes up the window together with them. -/
theorem inner?_eq_some_iff {i : Inset} {length inner : Millis} :
    i.inner? length = some inner ↔
      0 < inner.count ∧ i.lead.count + i.tail.count + inner.count = length.count := by
  simp only [inner?, Option.bind_eq_bind, Option.bind_eq_some_iff]
  constructor
  · rintro ⟨margins, hm, rest, hr, h⟩
    rw [Millis.add?_eq_some_iff] at hm
    rw [Millis.sub?_eq_some_iff] at hr
    split at h
    · exact absurd h (by simp)
    · rename_i hz
      rw [Bool.not_eq_true, Millis.isZero_eq_false_iff] at hz
      obtain rfl := Option.some.inj h
      exact ⟨hz, by omega⟩
  · rintro ⟨hpos, hsum⟩
    have hlt := length.count_lt
    refine ⟨⟨i.lead.count + i.tail.count, by omega⟩, Millis.add?_eq_some_iff.mpr rfl, inner,
      Millis.sub?_eq_some_iff.mpr (by simp only; omega), ?_⟩
    rw [if_neg (by rw [Bool.not_eq_true, Millis.isZero_eq_false_iff]; exact hpos)]

/-- Taking off the margins either leaves a window as it is, or takes the first margin off its start
and both off its length. -/
theorem apply_cases (i : Inset) (start length : Millis) :
    i.apply start length = (start, length) ∨
      0 < (i.apply start length).2.count ∧
      (i.apply start length).1.count = start.count + i.lead.count ∧
      i.lead.count + i.tail.count + (i.apply start length).2.count = length.count := by
  unfold apply
  split
  · rename_i inner insetStart hinner hstart
    obtain ⟨hpos, hsum⟩ := inner?_eq_some_iff.mp hinner
    exact Or.inr ⟨hpos, Millis.add?_eq_some_iff.mp hstart, hsum⟩
  · exact Or.inl rfl

/-- A window that is not longer than its margins stays as it is. -/
theorem apply_of_le {i : Inset} {start length : Millis}
    (h : length.count ≤ i.lead.count + i.tail.count) : i.apply start length = (start, length) := by
  rcases i.apply_cases start length with he | ⟨hpos, -, hsum⟩
  · exact he
  · omega

/-- A window that is longer than its margins loses them, if the end of it can be counted. -/
theorem apply_of_lt {i : Inset} {start length stop : Millis}
    (h : i.lead.count + i.tail.count < length.count)
    (hstop : stop.count = start.count + length.count) :
    (i.apply start length).1.count = start.count + i.lead.count ∧
      i.lead.count + i.tail.count + (i.apply start length).2.count = length.count := by
  have hlt := length.count_lt
  have hlt' := stop.count_lt
  have hinner : i.inner? length =
      some ⟨length.count - (i.lead.count + i.tail.count), by omega⟩ := by
    refine inner?_eq_some_iff.mpr ⟨?_, ?_⟩
    · simp only
      omega
    · simp only
      omega
  have hstart : start.add? i.lead = some ⟨start.count + i.lead.count, by omega⟩ :=
    Millis.add?_eq_some_iff.mpr rfl
  unfold apply
  rw [hinner, hstart]
  refine ⟨rfl, ?_⟩
  simp only
  omega

/-- A window without its margins stays inside, and it is not empty if it was not empty before. -/
theorem apply_within (i : Inset) (start length : Millis) (h : 0 < length.count) :
    0 < (i.apply start length).2.count ∧ start.count ≤ (i.apply start length).1.count ∧
      (i.apply start length).1.count + (i.apply start length).2.count ≤
        start.count + length.count := by
  rcases i.apply_cases start length with he | ⟨hpos, hstart, hsum⟩
  · rw [he]
    exact ⟨h, Nat.le_refl _, Nat.le_refl _⟩
  · exact ⟨hpos, by omega, by omega⟩

end Storyboard.Inset
