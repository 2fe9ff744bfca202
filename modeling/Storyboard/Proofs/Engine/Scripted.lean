import Mathlib.Data.List.Nodup
import Storyboard.Engine.Scripted

/-!
# The scripted engine at work

What each operation and each control does to the record of the scripted engine: the videos that it
has accepted, the names of its jobs, and how many jobs have been named. Only an accepted video
changes the record. No two jobs get the same name, since a name can be read back as its number.

A job is looked up by its name, and so is its script. What an operation does to the two is said for
every name, so that nothing later needs to open the lists that hold them.
-/

namespace Storyboard.Scripted

/-! ## Names -/

/-- The number that a padded number writes. -/
theorem ofDigitChars_padded (places n : Nat) :
    Nat.ofDigitChars 10 (Stamp.padded places n).toList 0 = n := by
  simp [Stamp.padded, Nat.ofDigitChars_append]

/-- Different numbers name different jobs. -/
theorem jobName_injective {a b : Nat} (h : jobName a = jobName b) : a = b := by
  have htext : "job-" ++ Stamp.padded 4 a = "job-" ++ Stamp.padded 4 b := congrArg JobId.text h
  have hlist := congrArg String.toList htext
  rw [String.toList_append, String.toList_append] at hlist
  have hpadded := List.append_cancel_left hlist
  rw [← ofDigitChars_padded 4 a, ← ofDigitChars_padded 4 b, hpadded]

/-- The names of any number of jobs differ from one another. -/
theorem nodup_names (n : Nat) : ((List.range n).map fun k => jobName (k + 1)).Nodup := by
  refine List.Nodup.map ?_ List.nodup_range
  intro a b hab
  have := jobName_injective hab
  omega

/-! ## The record -/

/-- The names of the jobs, oldest first. -/
def ids (s : Scripted) : List JobId := s.jobs.map (·.id)

/-- Nothing of the record has changed. -/
structure SameRecord (s t : Scripted) : Prop where
  /-- No video was accepted. -/
  submissions_eq : t.submissions = s.submissions
  /-- The jobs are those that there were. -/
  ids_eq : t.ids = s.ids
  /-- No job was named. -/
  accepted_eq : t.accepted = s.accepted

/-- Nothing speaks against accepting a video. -/
structure IsWilling (s : Scripted) : Prop where
  /-- The engine does not break down. -/
  crash : s.crash = none
  /-- It does not reject. -/
  rejection : s.rejection = none

/-- The state after a video was accepted. -/
def accepting (s : Scripted) (submission : RenderSubmission) : Scripted :=
  { s with
    accepted := s.accepted + 1
    jobs := s.jobs ++ [newJob (jobName (s.accepted + 1)) s.now]
    submissions := s.submissions ++ [submission] }

variable {s : Scripted}

theorem SameRecord.refl (s : Scripted) : s.SameRecord s := ⟨rfl, rfl, rfl⟩

theorem SameRecord.of_eq {t : Scripted} (h : t = s) : s.SameRecord t := h ▸ .refl s

@[simp]
theorem ids_accepting (submission : RenderSubmission) :
    (s.accepting submission).ids = s.ids ++ [jobName (s.accepted + 1)] := by
  simp [ids, accepting, newJob]

/-! ## Submitting -/

theorem submit_of_willing (h : s.IsWilling) (submission : RenderSubmission) :
    submit submission s = ⟨.ok (jobName (s.accepted + 1)), s.accepting submission, []⟩ := by
  simp [submit, h.crash, h.rejection, accepting]

/-- An engine that is not willing accepts nothing and stays as it is. -/
theorem submit_of_not_willing (h : ¬s.IsWilling) (submission : RenderSubmission) :
    (submit submission s).state = s ∧ ∀ id, (submit submission s).reply ≠ .ok id := by
  unfold submit
  cases hcrash : s.crash with
  | some message => simp
  | none =>
    cases hrejection : s.rejection with
    | some rejection => simp
    | none => exact absurd ⟨hcrash, hrejection⟩ h

/-! ## Moving jobs -/

theorem withStatus_id (job : RenderJob) (status : RenderStatus) (now : Stamp) :
    (withStatus job status now).id = job.id := by
  cases status <;> rfl

/-- A change of a job that leaves its name leaves the record. -/
theorem updateJob_sameRecord {id : JobId} {f : RenderJob → RenderJob}
    (h : ∀ job, job.id = id → (f job).id = id) : s.SameRecord (s.updateJob id f) := by
  refine ⟨rfl, ?_, rfl⟩
  simp only [ids, updateJob, List.map_map]
  refine List.map_congr_left fun job _ => ?_
  by_cases hid : job.id = id
  · simp [hid, h job hid]
  · simp [hid]

theorem setStatus_sameRecord (id : JobId) (status : RenderStatus) :
    s.SameRecord (s.setStatus id status) :=
  updateJob_sameRecord fun _ hid => (withStatus_id _ _ _).trans hid

/-! ## Looking at jobs -/

/-- A job after its script has shown a status. -/
def moved (job : RenderJob) (shown : Option RenderStatus) (now : Stamp) : RenderJob :=
  match shown with
  | some status => if status = job.status then job else withStatus job status now
  | none => job

/-- The engine after it was asked for a job, which has used up a status of the script. -/
def asked (s : Scripted) (id : JobId) : Scripted :=
  { s with
    statusCalls := s.statusCalls + 1
    scripts := s.scripts.map fun p =>
      (p.1, if p.1 = id then (advance (s.scriptOf id)).2 else p.2) }

variable {id other : JobId} {job : RenderJob}

theorem moved_id (job : RenderJob) (shown : Option RenderStatus) (now : Stamp) :
    (moved job shown now).id = job.id := by
  unfold moved
  split
  · split
    · rfl
    · exact withStatus_id job _ now
  · rfl

theorem id_of_job? (h : s.job? id = some job) : job.id = id := by
  simpa using List.find?_some h

theorem mem_ids_iff : id ∈ s.ids ↔ ∃ job, s.job? id = some job := by
  rw [← Option.isSome_iff_exists]
  simp [ids, job?, List.find?_isSome]

theorem status_of_unknown (h : s.job? id = none) :
    status id s = ⟨.failed (.jobNotFound id), s.asked id, []⟩ := by
  unfold status
  simp only
  split
  · rfl
  · rename_i job hsome
    exact absurd (h.symm.trans hsome) (by simp)

theorem status_of_known (h : s.job? id = some job) :
    status id s =
      ⟨.ok (moved job (advance (s.scriptOf id)).1 s.now),
        (s.asked id).updateJob id fun _ => moved job (advance (s.scriptOf id)).1 s.now, []⟩ := by
  unfold status
  simp only
  split
  · rename_i hnone
    exact absurd (h.symm.trans hnone) (by simp)
  · rename_i other hsome
    obtain rfl := Option.some.inj (h.symm.trans hsome)
    unfold moved asked
    rcases advance (s.scriptOf id) with ⟨_ | shown, rest⟩ <;> rfl

/-- Reporting on a job leaves the record. -/
theorem status_sameRecord (id : JobId) : s.SameRecord (status id s).state := by
  cases hjob : s.job? id with
  | none =>
    rw [status_of_unknown hjob]
    exact ⟨rfl, rfl, rfl⟩
  | some job =>
    have hsame := @updateJob_sameRecord (s.asked id) id
      (fun _ => moved job (advance (s.scriptOf id)).1 s.now)
      fun _ _ => (moved_id _ _ _).trans (id_of_job? hjob)
    rw [status_of_known hjob]
    exact ⟨rfl, hsame.ids_eq, rfl⟩

/-- Every question for a job is counted, and it does not break the engine down. -/
theorem status_counts (id : JobId) : (status id s).state.statusCalls = s.statusCalls + 1 ∧
    ∀ breakdown, (status id s).reply ≠ .crashed breakdown := by
  cases hjob : s.job? id with
  | none =>
    rw [status_of_unknown hjob]
    exact ⟨rfl, by simp⟩
  | some job =>
    rw [status_of_known hjob]
    exact ⟨rfl, by simp⟩

/-! ## What is known of one job -/

/-- A change of one job that leaves its name is seen under this name only. -/
theorem job?_updateJob {f : RenderJob → RenderJob} (hf : ∀ job, job.id = id → (f job).id = id) :
    (s.updateJob id f).job? other = if other = id then (s.job? id).map f else s.job? other := by
  have hname : ∀ job, (if job.id = id then f job else job).id = job.id := by
    intro job
    by_cases hid : job.id = id
    · rw [if_pos hid, hf job hid, hid]
    · rw [if_neg hid]
  have hsame : ((fun job : RenderJob => decide (job.id = other)) ∘
      fun job => if job.id = id then f job else job) = fun job => decide (job.id = other) := by
    funext job
    simp only [Function.comp_apply, hname]
  unfold job? updateJob
  rw [List.find?_map, hsame]
  by_cases hother : other = id
  · subst hother
    rw [if_pos rfl]
    cases hjob : s.jobs.find? (fun job => decide (job.id = other)) with
    | none => rfl
    | some job => simp [id_of_job? hjob]
  · rw [if_neg hother]
    cases hjob : s.jobs.find? (fun job => decide (job.id = other)) with
    | none => rfl
    | some job =>
      have hne : ¬job.id = id := fun h => hother ((id_of_job? hjob).symm.trans h)
      simp [hne]

theorem job?_setStatus (status : RenderStatus) :
    (s.setStatus id status).job? other =
      if other = id then (s.job? id).map fun job => withStatus job status s.now
      else s.job? other :=
  job?_updateJob fun _ hid => (withStatus_id _ _ _).trans hid

theorem job?_status :
    (status id s).state.job? other =
      if other = id then
        (s.job? id).map fun job => moved job (advance (s.scriptOf id)).1 s.now
      else s.job? other := by
  cases hjob : s.job? id with
  | none =>
    rw [status_of_unknown hjob, Option.map_none, ← hjob]
    by_cases hother : other = id
    · rw [if_pos hother, hother]
      rfl
    · rw [if_neg hother]
      rfl
  | some job =>
    have hasked : (s.asked id).job? id = some job := hjob
    rw [status_of_known hjob,
      job?_updateJob fun _ _ => (moved_id _ _ _).trans (id_of_job? hjob), hasked]
    rfl

theorem job?_accepting (submission : RenderSubmission) (h : id ∈ s.ids) :
    (s.accepting submission).job? id = s.job? id := by
  obtain ⟨job, hjob⟩ := mem_ids_iff.mp h
  have hfind : s.jobs.find? (fun job => decide (job.id = id)) = some job := hjob
  rw [hjob]
  unfold job? accepting
  rw [List.find?_append, hfind]
  rfl

theorem scriptOf_script (statuses : List RenderStatus) :
    (s.script id statuses).scriptOf other = if other = id then statuses else s.scriptOf other := by
  unfold scriptOf script
  by_cases hother : other = id
  · simp [hother]
  · have hne : ¬id = other := fun h => hother h.symm
    rw [if_neg hother, List.find?_cons_of_neg (by simpa using hne), List.find?_filter]
    congr 3
    funext p
    by_cases hp : p.1 = other
    · simp [hp, hother]
    · simp [hp]

theorem scriptOf_asked :
    (s.asked id).scriptOf other =
      if other = id then (advance (s.scriptOf id)).2 else s.scriptOf other := by
  unfold scriptOf asked
  simp only [List.find?_map, Function.comp_def]
  by_cases hother : other = id
  · subst hother
    rw [if_pos rfl]
    unfold scriptOf
    cases hscript : s.scripts.find? (fun p => decide (p.1 = other)) with
    | none => rfl
    | some p =>
      have hid : p.1 = other := by simpa using List.find?_some hscript
      simp [hid]
  · rw [if_neg hother]
    cases hscript : s.scripts.find? (fun p => decide (p.1 = other)) with
    | none => rfl
    | some p =>
      have hid : p.1 = other := by simpa using List.find?_some hscript
      have hne : ¬p.1 = id := fun h => hother (hid.symm.trans h)
      simp [hne]

theorem scriptOf_status :
    (status id s).state.scriptOf other =
      if other = id then (advance (s.scriptOf id)).2 else s.scriptOf other := by
  rw [← scriptOf_asked]
  cases hjob : s.job? id with
  | none => rw [status_of_unknown hjob]
  | some job =>
    rw [status_of_known hjob]
    rfl

end Storyboard.Scripted
