import Storyboard.Proofs.Text.Splitting
import Storyboard.Service.Route

/-!
# Paths of routes

A path is the pieces between its slashes, so the route of a path below `/api/render` tells the path:
only one path leads to each of the routes that are no jobs.
-/

namespace Storyboard.Service.Route

theorem fixed_injective : ∀ p ∈ fixed, ∀ q ∈ fixed, p.2 = q.2 → p = q := by decide

theorem fixed_disjoint_plain : ∀ p ∈ fixed, ∀ q ∈ plain, q.2 ≠ p.2 := by decide

theorem ofPath?_fixed :
    ∀ p ∈ fixed, ofPath? ("/api/render/".toList ++ p.1.toList) = some p.2 := by decide

variable {name : String} {route : Route}

/-- A segment below `/api/render` that leads to a route that is no job is the name of that route. -/
theorem ofSegment_eq_fixed {segment : List Char} (h : (name, route) ∈ fixed)
    (hroute : ofSegment segment = route) : segment = name.toList := by
  unfold ofSegment at hroute
  cases hfind : fixed.find? (·.1.toList = segment) with
  | none =>
    rw [hfind] at hroute
    subst hroute
    exact absurd h (by simp [fixed])
  | some p =>
    rw [hfind] at hroute
    have hname : p.1.toList = segment := by simpa using List.find?_some hfind
    have hp := fixed_injective p (List.mem_of_find?_eq_some hfind) (name, route) h hroute
    rw [← hname, hp]

/-- The one path that leads to a route below `/api/render` that is no job. -/
theorem ofPath?_eq_fixed_iff {path : List Char} (h : (name, route) ∈ fixed) :
    ofPath? path = some route ↔ path = "/api/render/".toList ++ name.toList := by
  constructor
  · intro hpath
    have hjoin := @Text.joinWith_splitOn '/' path
    unfold ofPath? at hpath
    split at hpath
    · obtain ⟨p, hfind, hp⟩ := Option.map_eq_some_iff.mp hpath
      exact absurd hp (fixed_disjoint_plain (name, route) h p (List.mem_of_find?_eq_some hfind))
    · rename_i api render segment hsplit
      by_cases hparts : api = "api".toList ∧ render = "render".toList ∧ segment ≠ []
      · rw [if_pos hparts] at hpath
        obtain ⟨rfl, rfl, -⟩ := hparts
        rw [hsplit] at hjoin
        rw [← hjoin, ← ofSegment_eq_fixed h (Option.some.inj hpath)]
        rfl
      · rw [if_neg hparts] at hpath
        exact absurd hpath (by simp)
    · exact absurd hpath (by simp)
  · rintro rfl
    exact ofPath?_fixed (name, route) h

/-- Any other segment below `/api/render` is taken for the name of a job. -/
theorem ofPath?_job {segment : List Char} (hne : segment ≠ []) (hslash : '/' ∉ segment)
    (hfixed : ∀ p ∈ fixed, p.1.toList ≠ segment) :
    ofPath? ("/api/render/".toList ++ segment) = some (.job segment) := by
  have hsplit : Text.splitOn '/' ("/api/render/".toList ++ segment) =
      [[], "api".toList, "render".toList, segment] := by
    show Text.splitOn '/' ('/' :: 'a' :: 'p' :: 'i' :: '/' :: 'r' :: 'e' :: 'n' :: 'd' :: 'e' ::
      'r' :: '/' :: segment) = _
    simp [Text.splitOn, Text.splitOn_of_not_mem hslash]
  have hfind : fixed.find? (·.1.toList = segment) = none := by
    rw [List.find?_eq_none]
    intro p hp
    simpa using hfixed p hp
  unfold ofPath?
  rw [hsplit]
  simp only [hne, ne_eq, not_false_eq_true, and_self, if_true, ofSegment, hfind]

theorem ofSegment_eq_job {segment other : List Char} (h : ofSegment segment = .job other) :
    other = segment ∧ ∀ p ∈ fixed, p.1.toList ≠ segment := by
  unfold ofSegment at h
  cases hfind : fixed.find? (·.1.toList = segment) with
  | none =>
    rw [hfind] at h
    refine ⟨(Route.job.inj h).symm, fun p hp => ?_⟩
    simpa using List.find?_eq_none.mp hfind p hp
  | some p =>
    rw [hfind] at h
    have hfixed : ∀ p ∈ fixed, ∀ other, p.2 ≠ .job other := by simp [fixed]
    exact absurd h (hfixed p (List.mem_of_find?_eq_some hfind) other)

/-- The paths that lead to a job are those of one more segment at which no other route is. -/
theorem ofPath?_eq_job_iff {path segment : List Char} : ofPath? path = some (.job segment) ↔
    path = "/api/render/".toList ++ segment ∧ segment ≠ [] ∧ '/' ∉ segment ∧
      ∀ p ∈ fixed, p.1.toList ≠ segment := by
  constructor
  · intro hpath
    unfold ofPath? at hpath
    split at hpath
    · obtain ⟨p, hfind, hp⟩ := Option.map_eq_some_iff.mp hpath
      have hplain : ∀ p ∈ plain, p.2 ≠ .job segment := by simp [plain]
      exact absurd hp (hplain p (List.mem_of_find?_eq_some hfind))
    · rename_i api render other hsplit
      by_cases hparts : api = "api".toList ∧ render = "render".toList ∧ other ≠ []
      · rw [if_pos hparts] at hpath
        obtain ⟨rfl, rfl, hne⟩ := hparts
        obtain ⟨rfl, hfixed⟩ := ofSegment_eq_job (Option.some.inj hpath)
        obtain ⟨-, hslash, hjoin⟩ := Text.splitOn_eq_iff.mp hsplit
        exact ⟨hjoin, hne, hslash segment (by simp), hfixed⟩
      · rw [if_neg hparts] at hpath
        exact absurd hpath (by simp)
    · exact absurd hpath (by simp)
  · rintro ⟨rfl, hne, hslash, hfixed⟩
    exact ofPath?_job hne hslash hfixed

/-- A route at which requests are limited is that of one more segment below `/api/render`. -/
theorem exists_segment_of_isLimited {path : List Char} (hpath : ofPath? path = some route)
    (hlimited : route.isLimited = true) :
    ∃ segment, path = "/api/render/".toList ++ segment ∧ '/' ∉ segment := by
  unfold ofPath? at hpath
  split at hpath
  · obtain ⟨p, hfind, rfl⟩ := Option.map_eq_some_iff.mp hpath
    have hplain : ∀ p ∈ plain, p.2.isLimited = false := by decide
    rw [hplain p (List.mem_of_find?_eq_some hfind)] at hlimited
    exact absurd hlimited (by simp)
  · rename_i api render segment hsplit
    by_cases hparts : api = "api".toList ∧ render = "render".toList ∧ segment ≠ []
    · obtain ⟨rfl, rfl, -⟩ := hparts
      obtain ⟨-, hslash, hjoin⟩ := Text.splitOn_eq_iff.mp hsplit
      exact ⟨segment, hjoin, hslash segment (by simp)⟩
    · rw [if_neg hparts] at hpath
      exact absurd hpath (by simp)
  · exact absurd hpath (by simp)

end Storyboard.Service.Route
