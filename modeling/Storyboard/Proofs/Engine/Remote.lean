import Storyboard.Engine.Paced
import Storyboard.Engine.Remote

/-!
# Answers of the remote engine

What a question for a job comes to when the engine answers it, and what a submission comes to. The
clock stands in for what the engine leaves out of its report: a job that it says nothing of the
beginning of has begun whenever one looks.
-/

namespace Storyboard

theorem Engine.poll_reply {σ : Type} (engine : Engine σ) (id : JobId) (w : World σ) :
    (engine.poll id w).1 = (engine.status id w.engine).reply := by
  unfold Engine.poll
  rcases engine.status id w.engine with ⟨_ | _ | _, state, logs⟩ <;> rfl

/-- Waiting for a permit leaves the engine as it is. -/
theorem Paced.acquire_inner {σ : Type} (p : Paced σ) : p.acquire.inner = p.inner := by
  unfold acquire
  split <;> rfl

/-! ## Reports -/

/-- The job of a report depends on the clock only where the report does not say when the job was
accepted. -/
theorem StatusReport.job_eq_iff (r : StatusReport) (now later : Stamp) :
    r.job later = r.job now ↔ r.created.isSome = true ∨ later = now := by
  cases hcreated : r.created with
  | some created => simp [StatusReport.job, hcreated]
  | none =>
    simp only [Option.isSome_none, Bool.false_eq_true, false_or]
    constructor
    · intro h
      simpa [StatusReport.job, hcreated] using congrArg RenderJob.createdAt h
    · rintro rfl
      rfl

theorem StatusReport.job_status (r : StatusReport) (now later : Stamp) :
    (r.job later).status = (r.job now).status := rfl

/-- The next request is answered with a status and the bytes of a body. -/
def Network.Brings (u : Network) (code : Nat) (body : List Nat) : Prop :=
  u.deliveries.head? = some (.answered code body)

namespace Remote

/-- The body of an answer that brings a response. -/
def enveloped (response : List (String × Json)) : List Nat :=
  Text.bytes (Json.toText
    (.object [("success", .boolean true), ("response", .object response)])).toList

/-- An answer reports on a job. -/
structure Reports (code : Nat) (body : List Nat) (report : StatusReport) : Prop where
  /-- The status tells of success. -/
  success : Net.isSuccess code = true
  /-- The envelope holds the report. -/
  unwrap_eq : unwrap StatusReport.reader body = .ok report

/-- A question for a job can be sent. -/
def CanAsk (config : EngineConfig) (id : JobId) : Prop :=
  ∃ key out, config.apiKey = some key ∧
    request config key "GET" ("render/" ++ id.text) none = .ok out

variable {config : EngineConfig} {id : JobId} {code : Nat} {body : List Nat} {u : Network}
  {job : RenderJob}

theorem exchange_of_brings (h : u.Brings code body) (out : Outbound) :
    exchange out u = (.ok (code, body),
      { u with deliveries := u.deliveries.drop 1, sent := u.sent ++ [out] }) := by
  unfold exchange
  rw [show u.deliveries.head? = some (.answered code body) from h]

theorem statusReply_eq_ok_iff {now : Stamp} : (statusReply id now code body).1 = .ok job ↔
    ∃ report, Reports code body report ∧ job = report.job now := by
  unfold statusReply
  by_cases hmissing : code = 404
  · rw [if_pos hmissing]
    refine iff_of_false (by simp) ?_
    rintro ⟨report, ⟨hsuccess, -⟩, -⟩
    rw [hmissing] at hsuccess
    exact absurd hsuccess (by decide)
  rw [if_neg hmissing]
  by_cases hsuccess : Net.isSuccess code = true
  · rw [if_pos hsuccess]
    cases hread : unwrap StatusReport.reader body with
    | ok report =>
      constructor
      · intro h
        exact ⟨report, ⟨hsuccess, hread⟩, (Reply.ok.inj h).symm⟩
      · rintro ⟨other, ⟨-, hother⟩, rfl⟩
        obtain rfl := Except.ok.inj (hread.symm.trans hother)
        rfl
    | error message =>
      refine iff_of_false (by simp) ?_
      rintro ⟨report, ⟨-, hreport⟩, -⟩
      exact absurd (hread.symm.trans hreport) (by simp)
  · rw [if_neg hsuccess]
    refine iff_of_false (by simp) ?_
    rintro ⟨report, ⟨hsuccess', -⟩, -⟩
    exact hsuccess hsuccess'

/-- A question that is answered gives a job exactly if it can be sent and the answer reports on
one. -/
theorem status_eq_ok_iff (h : u.Brings code body) : (status config id u).reply = .ok job ↔
    CanAsk config id ∧ ∃ report, Reports code body report ∧ job = report.job u.now := by
  rw [← @statusReply_eq_ok_iff id]
  unfold status CanAsk
  cases hkey : config.apiKey with
  | none => simp
  | some key =>
    cases hout : request config key "GET" ("render/" ++ id.text) none with
    | error message => simp [hout]
    | ok out => simp [hout, exchange_of_brings h]

theorem poll_eq_ok_iff {w : World Network} (h : w.engine.Brings code body) :
    ((engine config).poll id w).1 = .ok job ↔
      CanAsk config id ∧ ∃ report, Reports code body report ∧ job = report.job w.engine.now := by
  rw [Engine.poll_reply, ← status_eq_ok_iff h]
  rfl

/-! ## Names of new jobs -/

/-- An answer names a new job. -/
structure Names (code : Nat) (body : List Nat) (id : JobId) : Prop where
  /-- The status tells of success. -/
  success : Net.isSuccess code = true
  /-- The envelope holds the name. -/
  unwrap_eq : unwrap idReader body = .ok id.text

/-- A new job has the name that the engine has given to it, whatever that is. -/
theorem names_of_submit {submission : RenderSubmission}
    (h : (submit config submission u).reply = .ok id) :
    ∃ code body, u.Brings code body ∧ Names code body id := by
  unfold submit at h
  cases hkey : config.apiKey with
  | none => simp [hkey] at h
  | some key =>
    cases hout : request config key "POST" "render" (some submission.toJson) with
    | error message => simp [hkey, hout] at h
    | ok out =>
      simp only [hkey, hout, exchange] at h
      rcases hhead : u.deliveries.head? with _ | _ | _ | ⟨code, body⟩ <;> simp only [hhead] at h
      · exact absurd h (by simp)
      · exact absurd h (by simp)
      · exact absurd h (by simp)
      · refine ⟨code, body, hhead, ?_⟩
        unfold submitReply at h
        by_cases hsuccess : Net.isSuccess code = true
        · rw [if_pos hsuccess] at h
          cases hread : unwrap idReader body with
          | ok name =>
            rw [hread] at h
            obtain rfl := Reply.ok.inj h
            exact ⟨hsuccess, hread⟩
          | error message =>
            rw [hread] at h
            exact absurd h (by simp)
        · rw [if_neg hsuccess] at h
          exact absurd h (by simp)

end Remote

end Storyboard
