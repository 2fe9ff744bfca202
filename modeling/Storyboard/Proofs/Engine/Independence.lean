import Storyboard.Proofs.Engine.Scripted

/-!
# Jobs apart from one another

The scripted engine keeps all jobs in one list and all scripts in another, and people who follow
different jobs take turns with it in any order. Nobody notices the others: what a job's own
operations come to is what they come to alone. Only the clock is shared, so a job may have changed
at another time.

`Scripted.Alike` relates two engines that look the same to whoever follows one job. An operation
that is addressed to the job keeps it (`Alike.after`), and one that is not leaves the job alone
(`after_untouched`); `run_own` is the induction over any number of turns.
-/

namespace Storyboard

/-- The reply, with something else in place of its result. -/
def Reply.map {α β : Type} (f : α → β) : Reply α → Reply β
  | .ok a => .ok (f a)
  | .failed error => .failed error
  | .crashed breakdown => .crashed breakdown

/-- A job, whenever it has changed last. -/
def RenderJob.timeless (job : RenderJob) : RenderJob := { job with updatedAt := default }

namespace Scripted

/-- What can be done with the scripted engine. -/
inductive Operation
  /-- It is handed a video. -/
  | submit (submission : RenderSubmission)
  /-- It is told to reject. -/
  | reject (status : Nat) (message : String)
  /-- It is told to break down. -/
  | crash (message : String)
  /-- It looks at its clock. -/
  | clock (now : Stamp)
  /-- A job is given a script. -/
  | script (id : JobId) (statuses : List RenderStatus)
  /-- A job is given a status. -/
  | setStatus (id : JobId) (status : RenderStatus)
  /-- It is asked for a job. -/
  | look (id : JobId)
deriving DecidableEq

/-- The job that an operation is addressed to. -/
def Operation.addressee? : Operation → Option JobId
  | .script id _ | .setStatus id _ | .look id => some id
  | .submit _ | .reject .. | .crash _ | .clock _ => none

/-- The operations that are addressed to a job. -/
def own (id : JobId) (ops : List Operation) : List Operation :=
  ops.filter fun op => op.addressee? = some id

/-- The engine after an operation. -/
def after (s : Scripted) : Operation → Scripted
  | .submit submission => (submit submission s).state
  | .reject status message => s.reject status message
  | .crash message => s.crashOnSubmit message
  | .clock now => { s with now }
  | .script id statuses => s.script id statuses
  | .setStatus id status => s.setStatus id status
  | .look id => (status id s).state

/-- The engine after several operations. -/
def run (s : Scripted) (ops : List Operation) : Scripted := ops.foldl after s

/-- What the looks at a job are answered. -/
def answers (id : JobId) : Scripted → List Operation → List (Reply RenderJob)
  | _, [] => []
  | s, op :: rest =>
    if op = .look id then (status id s).reply :: answers id (s.after op) rest
    else answers id (s.after op) rest

/-- Whatever else is done with an engine, a job fares as if only its own operations were done. -/
structure Apart (s : Scripted) (id : JobId) (ops : List Operation) : Prop where
  /-- The looks at the job are answered as they are alone. -/
  answers_eq : (s.answers id ops).map (Reply.map RenderJob.timeless) =
    (s.answers id (own id ops)).map (Reply.map RenderJob.timeless)
  /-- In the end the job is the one that it is alone. -/
  job_eq : ((s.run ops).job? id).map RenderJob.timeless =
    ((s.run (own id ops)).job? id).map RenderJob.timeless
  /-- As much of its script is left. -/
  script_eq : (s.run ops).scriptOf id = (s.run (own id ops)).scriptOf id
  /-- Where nothing is addressed to the job nothing happens to it, not even in time. -/
  untouched : own id ops = [] →
    (s.run ops).job? id = s.job? id ∧ (s.run ops).scriptOf id = s.scriptOf id
  /-- It is the only job of its name. -/
  nodup : (s.run ops).ids.Nodup

/-! ## Names -/

/-- The jobs are numbered on from one. -/
def IsNumbered (s : Scripted) : Prop :=
  s.ids = (List.range s.accepted).map fun k => jobName (k + 1)

variable {s t : Scripted} {id : JobId} {op : Operation}

/-- An operation accepts a video or leaves the record. -/
theorem after_cases (s : Scripted) (op : Operation) :
    (∃ submission, s.after op = s.accepting submission) ∨ s.SameRecord (s.after op) := by
  cases op with
  | submit submission =>
    by_cases h : s.IsWilling
    · left
      exact ⟨submission, by rw [after, submit_of_willing h]⟩
    · right
      exact .of_eq (submit_of_not_willing h submission).1
  | reject status message => exact .inr ⟨rfl, rfl, rfl⟩
  | crash message => exact .inr ⟨rfl, rfl, rfl⟩
  | clock now => exact .inr ⟨rfl, rfl, rfl⟩
  | script id statuses => exact .inr ⟨rfl, rfl, rfl⟩
  | setStatus id status => exact .inr (setStatus_sameRecord id status)
  | look id => exact .inr (status_sameRecord id)

theorem IsNumbered.after (h : s.IsNumbered) (op : Operation) : (s.after op).IsNumbered := by
  unfold IsNumbered at h ⊢
  rcases after_cases s op with ⟨submission, hop⟩ | hsame
  · have haccepted : (s.accepting submission).accepted = s.accepted + 1 := rfl
    rw [hop, ids_accepting, h, haccepted, List.range_succ, List.map_append]
    rfl
  · rw [hsame.ids_eq, hsame.accepted_eq, h]

theorem IsNumbered.run (h : s.IsNumbered) (ops : List Operation) : (s.run ops).IsNumbered := by
  induction ops generalizing s with
  | nil => exact h
  | cons op rest ih => exact ih (h.after op)

/-- A job is known for good. -/
theorem mem_ids_after (h : id ∈ s.ids) (op : Operation) : id ∈ (s.after op).ids := by
  rcases after_cases s op with ⟨submission, hop⟩ | hsame
  · rw [hop, ids_accepting]
    exact List.mem_append_left _ h
  · rwa [hsame.ids_eq]

/-! ## One operation -/

/-- An operation that is not addressed to a job leaves it and its script. -/
theorem after_untouched (h : id ∈ s.ids) (hop : op.addressee? ≠ some id) :
    (s.after op).job? id = s.job? id ∧ (s.after op).scriptOf id = s.scriptOf id := by
  have hne : ∀ {other : JobId}, op.addressee? = some other → ¬id = other := by
    intro other hother heq
    exact hop (heq ▸ hother)
  cases op with
  | submit submission =>
    by_cases hw : s.IsWilling
    · rw [after, submit_of_willing hw]
      exact ⟨job?_accepting submission h, rfl⟩
    · rw [after, (submit_of_not_willing hw submission).1]
      exact ⟨rfl, rfl⟩
  | reject status message => exact ⟨rfl, rfl⟩
  | crash message => exact ⟨rfl, rfl⟩
  | clock now => exact ⟨rfl, rfl⟩
  | script other statuses =>
    refine ⟨rfl, ?_⟩
    rw [after, scriptOf_script, if_neg (hne rfl)]
  | setStatus other status =>
    refine ⟨?_, rfl⟩
    rw [after, job?_setStatus, if_neg (hne rfl)]
  | look other =>
    rw [after, job?_status, scriptOf_status, if_neg (hne rfl), if_neg (hne rfl)]
    exact ⟨rfl, rfl⟩

/-- Two engines look the same to whoever follows one job, which both know. -/
structure Alike (id : JobId) (s t : Scripted) : Prop where
  /-- It is the same job, apart from when it has changed. -/
  job_eq : (s.job? id).map RenderJob.timeless = (t.job? id).map RenderJob.timeless
  /-- It has the same script. -/
  script_eq : s.scriptOf id = t.scriptOf id
  known_left : id ∈ s.ids
  known_right : id ∈ t.ids

theorem timeless_withStatus (job : RenderJob) (status : RenderStatus) (now : Stamp) :
    (withStatus job status now).timeless = withStatus job.timeless status default := by
  cases status <;> rfl

theorem timeless_moved (job : RenderJob) (shown : Option RenderStatus) (now : Stamp) :
    (moved job shown now).timeless = moved job.timeless shown default := by
  cases shown with
  | none => rfl
  | some status =>
    by_cases h : status = job.status
    · have h' : status = job.timeless.status := h
      simp only [moved]
      rw [if_pos h, if_pos h']
    · have h' : ¬status = job.timeless.status := h
      simp only [moved]
      rw [if_neg h, if_neg h', timeless_withStatus]

theorem Alike.refl (h : id ∈ s.ids) : Alike id s s := ⟨rfl, rfl, h, h⟩

theorem Alike.jobs (h : Alike id s t) : ∃ a b, s.job? id = some a ∧ t.job? id = some b ∧
    a.timeless = b.timeless := by
  obtain ⟨a, ha⟩ := mem_ids_iff.mp h.known_left
  obtain ⟨b, hb⟩ := mem_ids_iff.mp h.known_right
  have hjob := h.job_eq
  rw [ha, hb] at hjob
  exact ⟨a, b, ha, hb, Option.some.inj hjob⟩

theorem cases_of_addressee? (h : op.addressee? = some id) :
    (∃ statuses, op = .script id statuses) ∨ (∃ status, op = .setStatus id status) ∨
      op = .look id := by
  cases op with
  | script other statuses =>
    obtain rfl := Option.some.inj h
    exact .inl ⟨statuses, rfl⟩
  | setStatus other status =>
    obtain rfl := Option.some.inj h
    exact .inr (.inl ⟨status, rfl⟩)
  | look other =>
    obtain rfl := Option.some.inj h
    exact .inr (.inr rfl)
  | submit _ | reject _ _ | crash _ | clock _ => exact absurd h (by simp [Operation.addressee?])

/-- An operation that is addressed to the job is the same to both engines. -/
theorem Alike.after (h : Alike id s t) (hop : op.addressee? = some id) :
    Alike id (s.after op) (t.after op) := by
  obtain ⟨a, b, ha, hb, hab⟩ := h.jobs
  refine ⟨?_, ?_, mem_ids_after h.known_left op, mem_ids_after h.known_right op⟩
  · -- job_eq
    rcases cases_of_addressee? hop with ⟨statuses, rfl⟩ | ⟨status, rfl⟩ | rfl
    · exact h.job_eq
    · simp only [Scripted.after]
      rw [job?_setStatus, job?_setStatus, if_pos rfl, if_pos rfl, ha, hb]
      simp only [Option.map_some, timeless_withStatus, hab]
    · simp only [Scripted.after]
      rw [job?_status, job?_status, if_pos rfl, if_pos rfl, ha, hb, h.script_eq]
      simp only [Option.map_some, timeless_moved, hab]
  · -- script_eq
    rcases cases_of_addressee? hop with ⟨statuses, rfl⟩ | ⟨status, rfl⟩ | rfl
    · simp only [Scripted.after]
      rw [scriptOf_script, scriptOf_script, if_pos rfl, if_pos rfl]
    · exact h.script_eq
    · simp only [Scripted.after]
      rw [scriptOf_status, scriptOf_status, if_pos rfl, if_pos rfl, h.script_eq]

/-- An operation that is addressed to another job, or to none, may be done on one side only. -/
theorem Alike.after_left (h : Alike id s t) (hop : op.addressee? ≠ some id) :
    Alike id (s.after op) t := by
  obtain ⟨hjob, hscript⟩ := after_untouched h.known_left hop
  refine ⟨?_, ?_, mem_ids_after h.known_left op, h.known_right⟩
  · rw [hjob, h.job_eq]
  · rw [hscript, h.script_eq]

/-- Both engines answer alike. -/
theorem Alike.reply (h : Alike id s t) :
    (status id s).reply.map RenderJob.timeless = (status id t).reply.map RenderJob.timeless := by
  obtain ⟨a, b, ha, hb, hab⟩ := h.jobs
  rw [status_of_known ha, status_of_known hb, h.script_eq]
  simp only [Reply.map, timeless_moved, hab]

/-! ## Taking turns -/

/-- Of any operations only the own ones of a job matter to it. -/
theorem run_own (h : Alike id s t) (ops : List Operation) :
    (s.answers id ops).map (Reply.map RenderJob.timeless) =
        (t.answers id (own id ops)).map (Reply.map RenderJob.timeless) ∧
      Alike id (s.run ops) (t.run (own id ops)) := by
  induction ops generalizing s t with
  | nil => exact ⟨rfl, h⟩
  | cons op rest ih =>
    by_cases hop : op.addressee? = some id
    · obtain ⟨hanswers, halike⟩ := ih (h.after hop)
      have hown : own id (op :: rest) = op :: own id rest := by
        simp [own, hop]
      rw [hown]
      refine ⟨?_, halike⟩
      by_cases hlook : op = .look id
      · simp only [answers, if_pos hlook, List.map_cons]
        rw [h.reply, hanswers]
      · simp only [answers, if_neg hlook]
        exact hanswers
    · obtain ⟨hanswers, halike⟩ := ih (h.after_left hop)
      have hown : own id (op :: rest) = own id rest := by
        simp [own, hop]
      have hlook : ¬op = .look id := by
        rintro rfl
        exact hop rfl
      rw [hown]
      refine ⟨?_, halike⟩
      simp only [answers, if_neg hlook]
      exact hanswers

theorem run_untouched (h : id ∈ s.ids) {ops : List Operation} (hown : own id ops = []) :
    (s.run ops).job? id = s.job? id ∧ (s.run ops).scriptOf id = s.scriptOf id := by
  induction ops generalizing s with
  | nil => exact ⟨rfl, rfl⟩
  | cons op rest ih =>
    have hnone := List.filter_eq_nil_iff.mp hown
    have hop : op.addressee? ≠ some id := by
      simpa using hnone op List.mem_cons_self
    have hrest : own id rest = [] := by
      refine List.filter_eq_nil_iff.mpr ?_
      intro other hother
      exact hnone other (List.mem_cons_of_mem _ hother)
    obtain ⟨hjob, hscript⟩ := after_untouched h hop
    obtain ⟨hjob', hscript'⟩ := ih (mem_ids_after h op) hrest
    exact ⟨hjob'.trans hjob, hscript'.trans hscript⟩

/-- Whatever was done with a new engine until there was a job, and whatever is done with it from
then on, the job fares as if only its own operations were done from then on. -/
theorem jobs_apart (past ops : List Operation) (id : JobId)
    (h : id ∈ (({} : Scripted).run past).ids) : (({} : Scripted).run past).Apart id ops := by
  obtain ⟨hanswers, halike⟩ := run_own (Alike.refl h) ops
  have hstart : ({} : Scripted).IsNumbered := rfl
  have hnumbered := (hstart.run past).run ops
  refine
    { answers_eq := hanswers
      job_eq := halike.job_eq
      script_eq := halike.script_eq
      untouched := run_untouched h
      nodup := ?_ }
  rw [hnumbered]
  exact nodup_names _

/-- Two jobs take turns, while a video is turned down, a script is given to a job that is not there,
and the clock goes on. -/
theorem jobs_apart_taking_turns :
    let video : RenderSubmission :=
      ⟨⟨"#000000", [], none, ⟨5000, by decide⟩⟩, ({} : OutputTokens).resolve, none⟩
    let past : List Operation :=
      [.submit video, .submit video, .script (jobName 1) [.rendering, .done]]
    let ops : List Operation :=
      [.look (jobName 1), .setStatus (jobName 2) .failed, .reject 500 "busy", .submit video,
       .script (jobName 9) [.done], .clock default, .look (jobName 2), .look (jobName 1)]
    jobName 1 ∈ (({} : Scripted).run past).ids ∧
      (({} : Scripted).run past).Apart (jobName 1) ops := by
  intro video past ops
  have hids : (({} : Scripted).run past).ids = [jobName 1, jobName 2] := rfl
  have hmem : jobName 1 ∈ (({} : Scripted).run past).ids := by
    rw [hids]
    exact List.mem_cons_self
  exact ⟨hmem, jobs_apart past ops (jobName 1) hmem⟩

end Scripted

end Storyboard
