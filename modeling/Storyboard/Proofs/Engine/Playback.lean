import Mathlib.Data.List.Chain
import Storyboard.Proofs.Engine.Independence

/-!
# Scripts played out

A script is shown status by status, one with every look at its job, and its last status is shown for
good. A look that shows the status that the job has already changes nothing, not even the time at
which it has changed last; and what a job has got once, its files or what went wrong, it keeps.

`Scripted.Shows` relates a job and its script to the jobs that looks return, with one rule for a
look; what is true of a script played out goes by induction over it. `answers_of_looks` shows that
the engine answers with nothing else, whatever is done with other jobs in between. What a job keeps
is an invariant of the whole engine instead (`IsFurnished.after`), since a job may be moved by hand
as well.
-/

namespace Storyboard

/-! ## What a job keeps -/

namespace RenderJob

/-- A job has a video, with both of its pictures. -/
def HasFiles (job : RenderJob) : Prop :=
  job.url.isSome ∧ job.poster.isSome ∧ job.thumbnail.isSome

/-- A job has what belongs to its status. -/
structure Furnished (job : RenderJob) : Prop where
  /-- If it is done it has its files. -/
  files : job.status = .done → job.HasFiles
  /-- If it has failed it says what went wrong. -/
  error : job.status = .failed → job.error.isSome

/-- What a job has it still has later. -/
structure KeepsUntil (job later : RenderJob) : Prop where
  files : job.HasFiles → later.HasFiles
  error : job.error.isSome → later.error.isSome

theorem KeepsUntil.refl (job : RenderJob) : job.KeepsUntil job :=
  ⟨fun h => h, fun h => h⟩

theorem KeepsUntil.trans {a b c : RenderJob} (hab : a.KeepsUntil b) (hbc : b.KeepsUntil c) :
    a.KeepsUntil c :=
  ⟨fun h => hbc.files (hab.files h), fun h => hbc.error (hab.error h)⟩

end RenderJob

namespace Scripted

open RenderJob (Furnished KeepsUntil)

variable {s : Scripted} {id : JobId} {job : RenderJob} {now : Stamp}

/-! ## Moving a job -/

theorem withStatus_status (job : RenderJob) (status : RenderStatus) (now : Stamp) :
    (withStatus job status now).status = status := by
  cases status <;> rfl

theorem furnished_withStatus (job : RenderJob) (status : RenderStatus) (now : Stamp) :
    (withStatus job status now).Furnished := by
  cases status with
  | done => exact ⟨fun _ => ⟨rfl, rfl, rfl⟩, fun h => by simp [withStatus] at h⟩
  | failed => exact ⟨fun h => by simp [withStatus] at h, fun _ => rfl⟩
  | queued | rendering =>
    exact ⟨fun h => by simp [withStatus] at h, fun h => by simp [withStatus] at h⟩

theorem keepsUntil_withStatus (job : RenderJob) (status : RenderStatus) (now : Stamp) :
    job.KeepsUntil (withStatus job status now) := by
  cases status with
  | done => exact ⟨fun _ => ⟨rfl, rfl, rfl⟩, fun h => h⟩
  | failed => exact ⟨fun h => h, fun _ => rfl⟩
  | queued | rendering => exact ⟨fun h => h, fun h => h⟩

/-- A look leaves a job as it is or gives it a status. -/
theorem moved_cases (job : RenderJob) (shown : Option RenderStatus) (now : Stamp) :
    moved job shown now = job ∨ ∃ status, moved job shown now = withStatus job status now := by
  unfold moved
  split
  · rename_i status
    split
    · exact .inl rfl
    · exact .inr ⟨status, rfl⟩
  · exact .inl rfl

theorem moved_status (job : RenderJob) (status : RenderStatus) (now : Stamp) :
    (moved job (some status) now).status = status := by
  simp only [moved]
  split
  · rename_i h
    exact h.symm
  · exact withStatus_status job status now

/-- A job whose status a look leaves is left altogether. -/
theorem moved_eq_of_status {shown : Option RenderStatus}
    (h : (moved job shown now).status = job.status) : moved job shown now = job := by
  cases shown with
  | none => rfl
  | some status =>
    rw [moved_status] at h
    simp only [moved]
    rw [if_pos h]

/-! ## Playing a script -/

theorem advance_fst (script : List RenderStatus) : (advance script).1 = script.head? := by
  rcases script with _ | ⟨status, _ | ⟨next, rest⟩⟩ <;> rfl

theorem length_advance_le {script : List RenderStatus} {k : Nat} (h : script.length ≤ k + 2) :
    (advance script).2.length ≤ k + 1 := by
  rcases script with _ | ⟨status, _ | ⟨next, rest⟩⟩
  · exact Nat.zero_le _
  · exact Nat.succ_le_succ (Nat.zero_le _)
  · exact Nat.le_of_succ_le_succ h

/-- When the last status is shown, no more is left of the script than the status that the job has
then. -/
theorem advance_last {script : List RenderStatus} (h : script.length ≤ 1) (job : RenderJob)
    (now : Stamp) : (advance script).2 = [] ∨
      (advance script).2 = [(moved job script.head? now).status] := by
  rcases script with _ | ⟨status, _ | ⟨next, rest⟩⟩
  · exact .inl rfl
  · right
    rw [List.head?_cons, moved_status]
    rfl
  · simp at h

/-- What looks at a job return, while its script plays and the clock shows anything. -/
inductive Shows : RenderJob → List RenderStatus → List RenderJob → Prop
  /-- Nobody looks. -/
  | nobody (job : RenderJob) (script : List RenderStatus) : Shows job script []
  /-- A look uses up a status. -/
  | look {job : RenderJob} {script : List RenderStatus} {shown : List RenderJob} (now : Stamp)
      (later : Shows (moved job script.head? now) (advance script).2 shown) :
      Shows job script (moved job script.head? now :: shown)

namespace Shows

variable {script : List RenderStatus} {shown : List RenderJob}

/-- The statuses of the script are shown one after the other, and the last of them from then on. -/
theorem status_eq (h : Shows job script shown) (hne : script ≠ []) {k : Nat} {a : RenderJob}
    (ha : shown[k]? = some a) : script[min (k + 1) script.length - 1]? = some a.status := by
  induction h generalizing k with
  | nobody => simp at ha
  | @look job script shown now _ ih =>
    obtain ⟨status, rest, rfl⟩ := List.exists_cons_of_ne_nil hne
    cases k with
    | zero =>
      obtain rfl := Option.some.inj ha
      have hindex : min (0 + 1) (status :: rest).length - 1 = 0 := by
        rw [List.length_cons]
        omega
      rw [hindex, List.head?_cons, moved_status]
      rfl
    | succ k =>
      rw [List.getElem?_cons_succ] at ha
      cases rest with
      | nil =>
        have hlast : [status][min (k + 1) 1 - 1]? = some a.status := ih hne ha
        have hindex : min (k + 1 + 1) [status].length - 1 = min (k + 1) 1 - 1 := by
          rw [List.length_singleton]
          omega
        rw [hindex]
        exact hlast
      | cons next rest =>
        have hindex : min (k + 1 + 1) (status :: next :: rest).length - 1 =
            min (k + 1) (next :: rest).length - 1 + 1 := by
          simp only [List.length_cons]
          omega
        rw [hindex, List.getElem?_cons_succ]
        exact ih (List.cons_ne_nil _ _) ha

/-- Once no more than the status that the job has is left of the script, the job stays. -/
theorem eq_of_stays (h : Shows job script shown)
    (hstays : script = [] ∨ script = [job.status]) : ∀ a ∈ shown, a = job := by
  induction h with
  | nobody => exact fun a ha => absurd ha List.not_mem_nil
  | @look job script shown now _ ih =>
    have hsame : moved job script.head? now = job := by
      rcases hstays with rfl | rfl
      · rfl
      · exact if_pos rfl
    have hleft : (advance script).2 = script := by
      rcases hstays with rfl | rfl <;> rfl
    rw [hsame, hleft] at ih
    rw [hsame]
    exact List.forall_mem_cons.mpr ⟨rfl, ih hstays⟩

/-- From the look on that shows the last status, all looks return the same. -/
theorem settled (h : Shows job script shown) {k j : Nat} {a b : RenderJob}
    (hlast : script.length ≤ k + 1) (hkj : k ≤ j) (ha : shown[k]? = some a)
    (hb : shown[j]? = some b) : b = a := by
  induction h generalizing k j with
  | nobody => simp at ha
  | @look job script shown now later ih =>
    cases k with
    | zero =>
      obtain rfl := Option.some.inj ha
      cases j with
      | zero => exact (Option.some.inj hb).symm
      | succ j =>
        exact eq_of_stays later (advance_last hlast job now) b (List.mem_of_getElem? hb)
    | succ k =>
      obtain ⟨j, rfl⟩ := Nat.exists_eq_add_one_of_ne_zero (Nat.ne_of_gt (by omega : 0 < j))
      exact ih (length_advance_le hlast) (Nat.le_of_succ_le_succ hkj) ha hb

/-- A look returns what was returned before, unless it returns another status. -/
theorem chain (h : Shows job script shown) :
    (job :: shown).IsChain fun a b => b.status = a.status → b = a := by
  induction h with
  | nobody => exact List.isChain_singleton _
  | look now _ ih => exact List.isChain_cons_cons.mpr ⟨moved_eq_of_status, ih⟩

end Shows

/-- Of these operations, only looks are addressed to the job. -/
def OnlyLooks (id : JobId) (ops : List Operation) : Prop := ∀ op ∈ own id ops, op = .look id

theorem onlyLooks_cons_iff {op : Operation} {rest : List Operation} :
    OnlyLooks id (op :: rest) ↔
      (op.addressee? = some id → op = .look id) ∧ OnlyLooks id rest := by
  unfold OnlyLooks own
  by_cases hop : op.addressee? = some id
  · rw [List.filter_cons_of_pos (by simpa using hop), List.forall_mem_cons]
    simp [hop]
  · rw [List.filter_cons_of_neg (by simpa using hop)]
    simp [hop]

/-- The looks at a job are answered as its script plays, whatever happens to others. -/
theorem answers_of_looks {ops : List Operation} (hjob : s.job? id = some job)
    (hops : OnlyLooks id ops) :
    ∃ shown, s.answers id ops = shown.map .ok ∧ Shows job (s.scriptOf id) shown := by
  induction ops generalizing s job with
  | nil => exact ⟨[], rfl, .nobody job _⟩
  | cons op rest ih =>
    obtain ⟨hop, hrest⟩ := onlyLooks_cons_iff.mp hops
    by_cases hlook : op = .look id
    · subst hlook
      have hreply := status_of_known hjob
      have hnext : (s.after (.look id)).job? id =
          some (moved job (s.scriptOf id).head? s.now) := by
        rw [after, job?_status, if_pos rfl, hjob, Option.map_some, advance_fst]
      obtain ⟨shown, hanswers, hshows⟩ := ih hnext hrest
      rw [after, scriptOf_status, if_pos rfl] at hshows
      refine ⟨_, ?_, .look s.now hshows⟩
      rw [answers, if_pos rfl, hreply, hanswers, advance_fst, List.map_cons]
    · have hother : op.addressee? ≠ some id := fun h => hlook (hop h)
      obtain ⟨hsame, hscript⟩ := after_untouched (mem_ids_iff.mpr ⟨job, hjob⟩) hother
      obtain ⟨shown, hanswers, hshows⟩ := ih (hsame.trans hjob) hrest
      rw [hscript] at hshows
      refine ⟨shown, ?_, hshows⟩
      rw [answers, if_neg hlook, hanswers]

/-! ## What all jobs keep -/

/-- Every job has what belongs to its status. -/
def IsFurnished (s : Scripted) : Prop := ∀ id job, s.job? id = some job → job.Furnished

/-- After an operation a job is as it was or has got a status. A job that was not there has just
been accepted. -/
theorem job?_after (s : Scripted) (op : Operation) {later : RenderJob}
    (h : (s.after op).job? id = some later) :
    (∃ before, s.job? id = some before ∧
      (later = before ∨ ∃ status, later = withStatus before status s.now)) ∨
    s.job? id = none ∧ later = newJob id s.now := by
  cases hjob : s.job? id with
  | some before =>
    left
    refine ⟨before, rfl, ?_⟩
    by_cases hop : op.addressee? = some id
    · rcases cases_of_addressee? hop with ⟨statuses, rfl⟩ | ⟨status, rfl⟩ | rfl
      · have hsame : (s.after (.script id statuses)).job? id = s.job? id := rfl
        rw [hsame, hjob] at h
        exact .inl (Option.some.inj h).symm
      · rw [after, job?_setStatus, if_pos rfl, hjob] at h
        exact .inr ⟨status, (Option.some.inj h).symm⟩
      · rw [after, job?_status, if_pos rfl, hjob] at h
        obtain rfl := Option.some.inj h
        exact moved_cases _ _ _
    · rw [(after_untouched (mem_ids_iff.mpr ⟨before, hjob⟩) hop).1, hjob] at h
      exact .inl (Option.some.inj h).symm
  | none =>
    right
    refine ⟨rfl, ?_⟩
    have hunknown : id ∉ s.ids := by
      intro hmem
      obtain ⟨before, hbefore⟩ := mem_ids_iff.mp hmem
      exact absurd (hjob.symm.trans hbefore) (by simp)
    rcases after_cases s op with ⟨submission, hop⟩ | hsame
    · have hfind : s.jobs.find? (fun job => decide (job.id = id)) = none := hjob
      rw [hop, job?, accepting, List.find?_append, hfind, Option.none_or,
        List.find?_singleton] at h
      split at h
      · rename_i hid
        have hname : jobName (s.accepted + 1) = id := of_decide_eq_true hid
        rw [← Option.some.inj h, hname]
      · exact absurd h (by simp)
    · exact absurd (hsame.ids_eq ▸ mem_ids_iff.mpr ⟨later, h⟩) hunknown

theorem IsFurnished.after (h : s.IsFurnished) (op : Operation) : (s.after op).IsFurnished := by
  intro id job hjob
  rcases job?_after s op hjob with ⟨before, hbefore, rfl | ⟨status, rfl⟩⟩ | ⟨-, rfl⟩
  · exact h id job hbefore
  · exact furnished_withStatus before status s.now
  · exact ⟨fun hs => by simp [newJob] at hs, fun hs => by simp [newJob] at hs⟩

/-- One operation leaves a job what it has. -/
theorem keepsUntil_after (op : Operation) {before : RenderJob} (h : s.job? id = some before) :
    ∃ later, (s.after op).job? id = some later ∧ before.KeepsUntil later := by
  obtain ⟨later, hlater⟩ := mem_ids_iff.mp (mem_ids_after (mem_ids_iff.mpr ⟨before, h⟩) op)
  refine ⟨later, hlater, ?_⟩
  rcases job?_after s op hlater with ⟨job, hjob, hcases⟩ | ⟨hnone, -⟩
  · obtain rfl := Option.some.inj (h.symm.trans hjob)
    rcases hcases with rfl | ⟨status, rfl⟩
    · exact .refl _
    · exact keepsUntil_withStatus _ _ _
  · exact absurd (h.symm.trans hnone) (by simp)

/-- A look at a job that is there returns the job that there is after the look. -/
theorem reply_of_known (h : s.job? id = some job) :
    ∃ later, (status id s).reply = .ok later ∧ (s.after (.look id)).job? id = some later := by
  refine ⟨_, by rw [status_of_known h], ?_⟩
  rw [after, job?_status, if_pos rfl, h]
  rfl

/-- Whatever is done, looks at a job return jobs that have what the job had before. -/
theorem answers_keep (hjob : s.job? id = some job) (ops : List Operation) :
    ∀ reply ∈ s.answers id ops, ∃ later, reply = .ok later ∧ job.KeepsUntil later := by
  induction ops generalizing s job with
  | nil => exact fun reply h => absurd h List.not_mem_nil
  | cons op rest ih =>
    obtain ⟨next, hnext, hkeeps⟩ := keepsUntil_after op hjob
    have hlater : ∀ reply ∈ (s.after op).answers id rest,
        ∃ later, reply = .ok later ∧ job.KeepsUntil later := by
      intro reply hreply
      obtain ⟨later, heq, hthen⟩ := ih hnext reply hreply
      exact ⟨later, heq, hkeeps.trans hthen⟩
    by_cases hlook : op = .look id
    · subst hlook
      obtain ⟨later, hreply, hthere⟩ := reply_of_known hjob
      obtain rfl := Option.some.inj (hnext.symm.trans hthere)
      rw [answers, if_pos rfl]
      exact List.forall_mem_cons.mpr ⟨⟨next, hreply, hkeeps⟩, hlater⟩
    · rw [answers, if_neg hlook]
      exact hlater

/-- Whatever is done, the jobs that looks return have what belongs to their status, and those that
are returned later have it still. -/
theorem answers_furnished (h : s.IsFurnished) (ops : List Operation) :
    (∀ a, .ok a ∈ s.answers id ops → a.Furnished) ∧
      (s.answers id ops).Pairwise fun earlier later =>
        ∀ a, earlier = .ok a → ∃ b, later = .ok b ∧ a.KeepsUntil b := by
  induction ops generalizing s with
  | nil => exact ⟨fun a ha => absurd ha List.not_mem_nil, .nil⟩
  | cons op rest ih =>
    obtain ⟨hfurnished, hpairs⟩ := ih (h.after op)
    by_cases hlook : op = .look id
    · subst hlook
      rw [answers, if_pos rfl]
      have hreturned : ∀ a, (status id s).reply = .ok a →
          (s.after (.look id)).job? id = some a := by
        intro a ha
        cases hjob : s.job? id with
        | none =>
          rw [status_of_unknown hjob] at ha
          exact absurd ha (by simp)
        | some job =>
          obtain ⟨later, hreply, hthere⟩ := reply_of_known hjob
          rw [hthere, Reply.ok.inj (hreply.symm.trans ha)]
      constructor
      · intro a ha
        rcases List.mem_cons.mp ha with ha | ha
        · exact h.after _ id a (hreturned a ha.symm)
        · exact hfurnished a ha
      · refine List.pairwise_cons.mpr ⟨?_, hpairs⟩
        intro later hlater a ha
        exact answers_keep (hreturned a ha) rest later hlater
    · rw [answers, if_neg hlook]
      exact ⟨hfurnished, hpairs⟩

/-! ## Jobs that are not there -/

theorem mem_ids_run (h : id ∈ s.ids) (ops : List Operation) : id ∈ (s.run ops).ids := by
  induction ops generalizing s with
  | nil => exact h
  | cons op rest ih => exact ih (mem_ids_after h op)

/-- As long as no job has the name, looks at it find none. -/
theorem answers_of_unknown {ops : List Operation} (h : id ∉ (s.run ops).ids) :
    s.answers id ops = List.replicate (ops.count (.look id)) (.failed (.jobNotFound id)) := by
  induction ops generalizing s with
  | nil => rfl
  | cons op rest ih =>
    have hrest := @ih (s.after op) h
    by_cases hlook : op = .look id
    · subst hlook
      have hnow : s.job? id = none := by
        rw [Option.eq_none_iff_forall_not_mem]
        intro job hjob
        exact h (mem_ids_run (mem_ids_iff.mpr ⟨job, hjob⟩) (.look id :: rest))
      rw [answers, if_pos rfl, status_of_unknown hnow, hrest, List.count_cons_self,
        List.replicate_succ]
    · rw [answers, if_neg hlook, hrest, List.count_cons_of_ne (by simpa using hlook)]

theorem length_answers (s : Scripted) (id : JobId) (ops : List Operation) :
    (s.answers id ops).length = ops.count (.look id) := by
  induction ops generalizing s with
  | nil => rfl
  | cons op rest ih =>
    by_cases hlook : op = .look id
    · subst hlook
      rw [answers, if_pos rfl, List.length_cons, ih, List.count_cons_self]
    · rw [answers, if_neg hlook, ih, List.count_cons_of_ne (by simpa using hlook)]

/-! ## A whole run -/

/-- What a job was shown as while it played a script. -/
structure Playback (job : RenderJob) (statuses : List RenderStatus) (shown : List RenderJob) :
    Prop where
  /-- Each look shows the next status, and the last of them is shown from then on. -/
  status_eq : statuses ≠ [] → ∀ k a, shown[k]? = some a →
    statuses[min (k + 1) statuses.length - 1]? = some a.status
  /-- From the last status on every look shows the very same. -/
  settled : ∀ k j a b, statuses.length ≤ k + 1 → k ≤ j → shown[k]? = some a →
    shown[j]? = some b → b = a
  /-- The job has changed since it was seen before only if it has another status than before. -/
  unchanged : (job :: shown).IsChain fun a b => b.status = a.status → b = a
  /-- A script without any status leaves the job as it is. -/
  empty : statuses = [] → ∀ a ∈ shown, a = job

/-- What has been said of a job once is not taken back. -/
structure Kept (replies : List (Reply RenderJob)) : Prop where
  /-- As soon as it was done it has its files. -/
  files : ∀ i j a, i ≤ j → j < replies.length → replies[i]? = some (.ok a) → a.status = .done →
    ∃ b, replies[j]? = some (.ok b) ∧ b.HasFiles
  /-- As soon as it had failed it says what went wrong. -/
  error : ∀ i j a, i ≤ j → j < replies.length → replies[i]? = some (.ok a) →
    a.status = .failed → ∃ b, replies[j]? = some (.ok b) ∧ b.error.isSome

theorem Shows.playback {statuses : List RenderStatus} {shown : List RenderJob}
    (h : Shows job statuses shown) : Playback job statuses shown where
  status_eq hne _ _ ha := h.status_eq hne ha
  settled _ _ _ _ hlast hkj ha hb := h.settled hlast hkj ha hb
  unchanged := h.chain
  empty hnone := h.eq_of_stays (.inl hnone)

theorem IsFurnished.kept (h : s.IsFurnished) (id : JobId) (ops : List Operation) :
    Kept (s.answers id ops) := by
  obtain ⟨hfurnished, hpairs⟩ := @answers_furnished s id h ops
  have hlater : ∀ i j a, i ≤ j → j < (s.answers id ops).length →
      (s.answers id ops)[i]? = some (.ok a) →
      ∃ b, (s.answers id ops)[j]? = some (.ok b) ∧ a.KeepsUntil b := by
    intro i j a hij hj ha
    rcases Nat.eq_or_lt_of_le hij with rfl | hlt
    · exact ⟨a, ha, .refl a⟩
    · obtain ⟨hi, hai⟩ := List.getElem?_eq_some_iff.mp ha
      obtain ⟨b, hb, hkeeps⟩ := List.pairwise_iff_getElem.mp hpairs i j hi hj hlt a hai
      exact ⟨b, List.getElem?_eq_some_iff.mpr ⟨hj, hb⟩, hkeeps⟩
  constructor
  · intro i j a hij hj ha hdone
    obtain ⟨b, hb, hkeeps⟩ := hlater i j a hij hj ha
    exact ⟨b, hb, hkeeps.files ((hfurnished a (List.mem_of_getElem? ha)).files hdone)⟩
  · intro i j a hij hj ha hfailed
    obtain ⟨b, hb, hkeeps⟩ := hlater i j a hij hj ha
    exact ⟨b, hb, hkeeps.error ((hfurnished a (List.mem_of_getElem? ha)).error hfailed)⟩

/-- Whatever was done with a new engine until a job is given a script: looks at the job play the
script out, as long as nothing else is done with the job; what was said of the job once is never
taken back, whatever is done; and a name that no job has is not found, whether it has a script or
not. -/
theorem scripts_play_out (past ops : List Operation) (id : JobId) (statuses : List RenderStatus) :
    let s := ({} : Scripted).run past
    (∀ job, s.job? id = some job → OnlyLooks id ops →
      ∃ shown, (s.script id statuses).answers id ops = shown.map .ok ∧
        shown.length = ops.count (.look id) ∧ Playback job statuses shown) ∧
    Kept (({} : Scripted).answers id (past ++ .script id statuses :: ops)) ∧
    (id ∉ (s.run ops).ids →
      s.answers id ops = List.replicate (ops.count (.look id)) (.failed (.jobNotFound id))) := by
  intro s
  refine ⟨?_, ?_, answers_of_unknown⟩
  · intro job hjob hops
    have hscripted : (s.script id statuses).job? id = some job := hjob
    obtain ⟨shown, hanswers, hshows⟩ := answers_of_looks hscripted hops
    rw [scriptOf_script, if_pos rfl] at hshows
    have hlength := length_answers (s.script id statuses) id ops
    rw [hanswers, List.length_map] at hlength
    exact ⟨shown, hanswers, hlength, hshows.playback⟩
  · have hstart : ({} : Scripted).IsFurnished := by
      intro other job hjob
      simp [job?] at hjob
    exact hstart.kept id _

/-- A job is rendered and done while the clock goes on, and another one is never there. -/
theorem scripts_play_out_done :
    let video : RenderSubmission :=
      ⟨⟨"#000000", [], none, ⟨5000, by decide⟩⟩, ({} : OutputTokens).resolve, none⟩
    let s := ({} : Scripted).run [.submit video]
    let statuses : List RenderStatus := [.rendering, .rendering, .done]
    let ops : List Operation :=
      [.look (jobName 1), .clock default, .look (jobName 1), .look (jobName 2),
       .look (jobName 1), .script (jobName 2) statuses, .look (jobName 1), .look (jobName 2)]
    s.job? (jobName 1) = some (newJob (jobName 1) default) ∧ OnlyLooks (jobName 1) ops ∧
      jobName 2 ∉ (s.run ops).ids ∧
      (∃ shown, (s.script (jobName 1) statuses).answers (jobName 1) ops = shown.map .ok ∧
        shown.length = 4 ∧ Playback (newJob (jobName 1) default) statuses shown) ∧
      s.answers (jobName 2) ops = List.replicate 2 (.failed (.jobNotFound (jobName 2))) := by
  intro video s statuses ops
  have hjob : s.job? (jobName 1) = some (newJob (jobName 1) default) := rfl
  have hops : OnlyLooks (jobName 1) ops := by
    unfold OnlyLooks
    decide
  have hunknown : jobName 2 ∉ (s.run ops).ids := by decide
  exact ⟨hjob, hops, hunknown,
    (scripts_play_out [.submit video] ops (jobName 1) statuses).1 _ hjob hops,
    (scripts_play_out [.submit video] ops (jobName 2) statuses).2.2 hunknown⟩

end Scripted

end Storyboard
