import Storyboard.Time.Millis

/-!
# Arithmetic of times

What the checked operations on times say about the counts of milliseconds. An operation has a result
exactly if the result has 64 bits, and then it is the one of the natural numbers.
-/

namespace Storyboard.Millis

theorem ext_count {a b : Millis} (h : a.count = b.count) : a = b := by
  cases a
  cases b
  simp only at h
  subst h
  rfl

@[simp] theorem zero_count : Millis.zero.count = 0 := rfl

theorem isZero_iff {t : Millis} : t.isZero = true ↔ t.count = 0 := by
  simp [isZero]

theorem isZero_eq_false_iff {t : Millis} : t.isZero = false ↔ 0 < t.count := by
  rw [← Bool.not_eq_true, isZero_iff]
  omega

theorem ofCount?_eq_some_iff {n : Nat} {t : Millis} : ofCount? n = some t ↔ t.count = n := by
  unfold ofCount?
  constructor
  · intro h
    split at h
    · rw [← Option.some.inj h]
    · exact absurd h (by simp)
  · intro h
    have hlt := t.count_lt
    rw [dif_pos (by omega)]
    exact congrArg some (ext_count h.symm)

/-- A sum has a result exactly if it has 64 bits. -/
theorem add?_eq_some_iff {a b t : Millis} : a.add? b = some t ↔ t.count = a.count + b.count :=
  ofCount?_eq_some_iff

theorem add?_eq_none_iff {a b : Millis} : a.add? b = none ↔ maxCount < a.count + b.count := by
  unfold add? ofCount? maxCount
  split
  · exact iff_of_false (by simp) (by omega)
  · exact iff_of_true rfl (by omega)

/-- A difference has a result exactly if it is not below zero. -/
theorem sub?_eq_some_iff {a b t : Millis} : a.sub? b = some t ↔ a.count = b.count + t.count := by
  unfold sub?
  constructor
  · intro h
    split at h
    · rw [← Option.some.inj h]
      simp only
      omega
    · exact absurd h (by simp)
  · intro h
    rw [if_pos (by omega)]
    exact congrArg some (ext_count (by simp only; omega))

end Storyboard.Millis
