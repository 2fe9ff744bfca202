import Storyboard.Proofs.Text.Splitting
import Storyboard.Service.Metrics

/-!
# Labels of paths

A label has the segments of its path, but for the jobs: each of those is a placeholder. What stands
before a segment is looked up in the path and not in the label, so in a chain such as
`render/render/x` both segments behind the first are jobs. To label a label changes nothing all the
same: no placeholder is `render`, so what stands behind `render` in a label stood behind it in the
path as well.
-/

namespace Storyboard.Service

/-! ## Segments -/

/-- A segment that is a job where a job may stand: it is not empty and none of the fixed routes. -/
def IsJob (segment : List Char) : Prop :=
  segment ≠ [] ∧ ∀ p ∈ Route.fixed, p.1.toList ≠ segment

instance : DecidablePred IsJob := fun _ => inferInstanceAs (Decidable (_ ∧ _))

/-- The segment of a number is a job: it stands directly behind `render` and may be one. -/
def IsJobAt (segments : List (List Char)) : Nat → Prop
  | 0 => False
  | k + 1 => segments[k]? = some "render".toList ∧
      ∃ segment, segments[k + 1]? = some segment ∧ IsJob segment

/-- What stands for a job in a label. -/
def placeholder : List Char := ":job_id".toList

/-- What stands for a segment in a label. -/
def labelOf (behindRender : Bool) (segment : List Char) : List Char :=
  if behindRender ∧ IsJob segment then placeholder else segment

section Segments

variable {behindRender : Bool} {segment : List Char} {segments : List (List Char)}

theorem labelOf_job (h : IsJob segment) : labelOf true segment = placeholder := if_pos ⟨rfl, h⟩

theorem labelOf_of_not (h : ¬(behindRender ∧ IsJob segment)) :
    labelOf behindRender segment = segment := if_neg h

theorem labelOf_cases :
    labelOf behindRender segment = placeholder ∨ labelOf behindRender segment = segment := by
  unfold labelOf
  split
  · exact .inl rfl
  · exact .inr rfl

theorem slash_not_mem_labelOf (h : '/' ∉ segment) : '/' ∉ labelOf behindRender segment := by
  rcases @labelOf_cases behindRender segment with hlabel | hlabel
  · rw [hlabel]
    decide
  · rwa [hlabel]

/-- Nothing but `render` is shown as `render`. -/
theorem eq_render_of_labelOf (h : labelOf behindRender segment = "render".toList) :
    segment = "render".toList := by
  rcases @labelOf_cases behindRender segment with hlabel | hlabel
  · rw [hlabel] at h
    exact absurd h (by decide)
  · rwa [← hlabel]

/-- A label is its own label wherever its segment stands behind `render` if the label does. -/
theorem labelOf_labelOf {behindLabel : Bool} (h : behindLabel → behindRender) :
    labelOf behindLabel (labelOf behindRender segment) = labelOf behindRender segment := by
  by_cases hjob : behindRender ∧ IsJob segment
  · have hplaceholder : labelOf behindRender segment = placeholder := if_pos hjob
    rw [hplaceholder]
    unfold labelOf
    split <;> rfl
  · rw [labelOf_of_not hjob]
    exact labelOf_of_not fun hlabel => hjob ⟨h hlabel.1, hlabel.2⟩

/-! ## Segments one after another -/

theorem labelSegments_cons : labelSegments behindRender (segment :: segments) =
    labelOf behindRender segment :: labelSegments (segment = "render".toList) segments := by
  have hfixed : Route.fixed.all (·.1.toList ≠ segment) = true ↔
      ∀ p ∈ Route.fixed, p.1.toList ≠ segment := by
    simp only [List.all_eq_true, decide_eq_true_iff]
  have hcond : (behindRender ∧ segment ≠ [] ∧ Route.fixed.all (·.1.toList ≠ segment) = true) ↔
      behindRender ∧ IsJob segment := by
    rw [hfixed, IsJob]
  exact congrArg (· :: _) (ite_congr (propext hcond) (fun _ => rfl) fun _ => rfl)

theorem length_labelSegments : (labelSegments behindRender segments).length = segments.length := by
  induction segments generalizing behindRender with
  | nil => rfl
  | cons segment rest ih => rw [labelSegments_cons, List.length_cons, ih, List.length_cons]

theorem labelSegments_head :
    (labelSegments behindRender segments)[0]? = segments[0]?.map (labelOf behindRender) := by
  cases segments with
  | nil => rfl
  | cons segment rest => simp [labelSegments_cons]

/-- The label of a segment depends on the one before it alone, as that stands in the path. -/
theorem labelSegments_behind (k : Nat) : (labelSegments behindRender segments)[k + 1]? =
    segments[k + 1]?.map (labelOf (segments[k]? = some "render".toList)) := by
  induction segments generalizing behindRender k with
  | nil => rfl
  | cons segment rest ih =>
    rw [labelSegments_cons, List.getElem?_cons_succ, List.getElem?_cons_succ]
    cases k with
    | zero => simp only [labelSegments_head, List.getElem?_cons_zero, Option.some.injEq]
    | succ k => rw [ih, List.getElem?_cons_succ]

theorem slash_not_mem_labelSegments (h : ∀ piece ∈ segments, '/' ∉ piece) :
    ∀ piece ∈ labelSegments behindRender segments, '/' ∉ piece := by
  induction segments generalizing behindRender with
  | nil => simp [labelSegments]
  | cons segment rest ih =>
    obtain ⟨hsegment, hrest⟩ := List.forall_mem_cons.mp h
    rw [labelSegments_cons]
    exact List.forall_mem_cons.mpr ⟨slash_not_mem_labelOf hsegment, ih hrest⟩

/-- Labels are their own labels. -/
theorem labelSegments_labelSegments {behindLabel : Bool} (h : behindLabel → behindRender) :
    labelSegments behindLabel (labelSegments behindRender segments) =
      labelSegments behindRender segments := by
  -- On the segments: what stands before one may have ceased to be `render`, but never become it.
  induction segments generalizing behindLabel behindRender with
  | nil => rfl
  | cons segment rest ih =>
    have hnext : decide (labelOf behindRender segment = "render".toList) →
        decide (segment = "render".toList) := by
      simpa only [decide_eq_true_iff] using eq_render_of_labelOf
    rw [labelSegments_cons, labelSegments_cons, labelOf_labelOf h, ih hnext]

/-- One more segment, behind `render`, changes no label before it. -/
theorem labelSegments_concat (h : segments.getLast? = some "render".toList) :
    labelSegments behindRender (segments ++ [segment]) =
      labelSegments behindRender segments ++ [labelOf true segment] := by
  induction segments generalizing behindRender with
  | nil => exact absurd h (by simp)
  | cons first rest ih =>
    rw [List.cons_append, labelSegments_cons, labelSegments_cons, List.cons_append]
    cases rest with
    | nil =>
      rw [List.getLast?_singleton, Option.some_inj] at h
      rw [h, List.nil_append, labelSegments_cons]
      rfl
    | cons next rest =>
      rw [List.getLast?_cons_cons] at h
      rw [ih h]

/-- Every job is shown as the placeholder. -/
theorem labelSegments_job {k : Nat} (h : IsJobAt segments k) :
    (labelSegments behindRender segments)[k]? = some placeholder := by
  cases k with
  | zero => exact h.elim
  | succ k =>
    obtain ⟨hrender, segment, hsegment, hjob⟩ := h
    rw [labelSegments_behind, hsegment, hrender, Option.map_some, decide_eq_true rfl,
      labelOf_job hjob]

/-- All other segments are shown as they are. -/
theorem labelSegments_of_not_job {k : Nat} (h : ¬IsJobAt segments k) :
    (labelSegments false segments)[k]? = segments[k]? := by
  cases k with
  | zero =>
    rw [labelSegments_head]
    exact Option.map_id_apply
  | succ k =>
    rw [labelSegments_behind]
    cases hsegment : segments[k + 1]? with
    | none => rfl
    | some segment =>
      have hnot : ¬(decide (segments[k]? = some "render".toList) ∧ IsJob segment) := by
        rintro ⟨hrender, hjob⟩
        exact h ⟨of_decide_eq_true hrender, segment, hsegment, hjob⟩
      rw [Option.map_some, labelOf_of_not hnot]

end Segments

/-! ## Paths -/

section Paths

variable {path segment : List Char}

/-- The segments of a label are the labels of the segments. -/
theorem splitOn_pathLabel (path : List Char) :
    Text.splitOn '/' (pathLabel path) = labelSegments false (Text.splitOn '/' path) := by
  refine Text.splitOn_joinWith (fun hnil => ?_) ?_
  · have hlength := @length_labelSegments false (Text.splitOn '/' path)
    rw [hnil, List.length_nil, eq_comm, List.length_eq_zero_iff] at hlength
    exact Text.splitOn_ne_nil hlength
  · exact slash_not_mem_labelSegments fun _ => Text.not_mem_of_mem_splitOn

/-- The label of a label is the label. -/
theorem pathLabel_pathLabel (path : List Char) : pathLabel (pathLabel path) = pathLabel path := by
  have hsegments := @labelSegments_labelSegments false (Text.splitOn '/' path) false id
  rw [pathLabel, splitOn_pathLabel, hsegments, pathLabel]

/-- A segment below a path that ends with `render` is a job if it may be one. -/
theorem pathLabel_concat (h : '/' ∉ segment)
    (hlast : (Text.splitOn '/' path).getLast? = some "render".toList) :
    pathLabel (path ++ '/' :: segment) = pathLabel path ++ '/' :: labelOf true segment := by
  have hpieces : labelSegments false (Text.splitOn '/' (path ++ '/' :: segment)) =
      Text.splitOn '/' (pathLabel path ++ '/' :: labelOf true segment) := by
    rw [Text.splitOn_append_sep, Text.splitOn_append_sep, Text.splitOn_of_not_mem h,
      Text.splitOn_of_not_mem (slash_not_mem_labelOf h), splitOn_pathLabel,
      labelSegments_concat hlast]
  rw [pathLabel, hpieces, Text.joinWith_splitOn]

theorem pathLabel_render (h : '/' ∉ segment) :
    pathLabel ("/render/".toList ++ segment) = "/render/".toList ++ labelOf true segment :=
  @pathLabel_concat "/render".toList segment h (by decide)

theorem pathLabel_apiRender (h : '/' ∉ segment) :
    pathLabel ("/api/render/".toList ++ segment) = "/api/render/".toList ++ labelOf true segment :=
  @pathLabel_concat "/api/render".toList segment h (by decide)

end Paths

/-- A label shows all of a path but its jobs. -/
structure HidesJobs (path label : List Char) : Prop where
  /-- There are as many segments in the label as in the path. -/
  length_eq : (Text.splitOn '/' label).length = (Text.splitOn '/' path).length
  /-- A job is shown as the placeholder. -/
  jobs : ∀ k, IsJobAt (Text.splitOn '/' path) k →
    (Text.splitOn '/' label)[k]? = some placeholder
  /-- Every other segment is shown as it is. -/
  others : ∀ k, ¬IsJobAt (Text.splitOn '/' path) k →
    (Text.splitOn '/' label)[k]? = (Text.splitOn '/' path)[k]?

theorem hidesJobs_pathLabel (path : List Char) : HidesJobs path (pathLabel path) := by
  constructor
  · -- length_eq
    rw [splitOn_pathLabel]
    exact length_labelSegments
  · -- jobs
    intro k hjob
    rw [splitOn_pathLabel]
    exact labelSegments_job hjob
  · -- others
    intro k hnot
    rw [splitOn_pathLabel]
    exact labelSegments_of_not_job hnot

/-- What stands behind a job is a job as well if the job is itself called `render`. -/
example : pathLabel "render/render/x".toList = "render/:job_id/:job_id".toList := by decide

/-- The label of any path hides its jobs and nothing else, and is its own label; and no two jobs
below `/api/render` can be told apart by their labels, whatever their names are. -/
theorem pathLabel_hides_jobs (path : List Char) :
    HidesJobs path (pathLabel path) ∧ pathLabel (pathLabel path) = pathLabel path ∧
      ∀ first second, IsJob first → '/' ∉ first → IsJob second → '/' ∉ second →
        pathLabel ("/api/render/".toList ++ first) =
          pathLabel ("/api/render/".toList ++ second) := by
  refine ⟨hidesJobs_pathLabel path, pathLabel_pathLabel path, ?_⟩
  intro first second hfirst hslash hsecond hslash'
  calc pathLabel ("/api/render/".toList ++ first)
      = "/api/render/".toList ++ placeholder := by
        rw [pathLabel_apiRender hslash, labelOf_job hfirst]
    _ = pathLabel ("/api/render/".toList ++ second) := by
        rw [pathLabel_apiRender hslash', labelOf_job hsecond]

/-- A job with the name of the segment that it stands behind, and one with that of the
placeholder. -/
theorem pathLabel_hides_jobs_namesakes :
    (IsJob "render".toList ∧ '/' ∉ "render".toList) ∧
      (IsJob ":job_id".toList ∧ '/' ∉ ":job_id".toList) ∧
      pathLabel "/api/render/render".toList = pathLabel "/api/render/:job_id".toList ∧
      HidesJobs "/api/render/render/x".toList (pathLabel "/api/render/render/x".toList) := by
  have hrender : IsJob "render".toList ∧ '/' ∉ "render".toList := by decide
  have hplaceholder : IsJob ":job_id".toList ∧ '/' ∉ ":job_id".toList := by decide
  obtain ⟨hhides, -, hsame⟩ := pathLabel_hides_jobs "/api/render/render/x".toList
  exact ⟨hrender, hplaceholder, hsame _ _ hrender.1 hrender.2 hplaceholder.1 hplaceholder.2, hhides⟩

end Storyboard.Service
