import Storyboard.Proofs.Engine.Remote
import Storyboard.Proofs.Outcome

/-!
# What each answer comes to

Whatever the engine answers, the outcome is decided by the status and the body alone: a result, an
error that keeps the status, or, for a question, that there is no such job. `Terms` holds what the
two operations differ in, and `Terms.Decides` says what they have in common; `answers_decided` puts
both together with the case that nothing may be sent.

The message of an error can always be seen. Where the status tells of failure, the body is asked for
it first: an envelope gives the reason in its response or else its own message, and anything else is
a message as it stands.
-/

namespace Storyboard.Remote

open Json (Reader)

/-! ## What bodies say -/

/-- The body of a successful answer is an envelope, with its response read as given. -/
def Holds {α : Type} (r : Reader α) (body : List Nat) (e : Envelope α) : Prop :=
  (Envelope.reader r).ofBytes false body = .ok e

/-- The body of any other answer is an envelope, whatever its response is. -/
def Wraps (body : List Nat) (e : Envelope Json) : Prop :=
  (Envelope.reader Reader.any).ofChars false (Text.ofBytesLossy body) = .ok e

/-- A response gives a reason: a string under `error` in which something can be seen. -/
def GivesReason (response : Json) (reason : String) : Prop :=
  response.field? "error" = some (.text reason) ∧ Text.isBlankText reason = false

/-- What the body of an answer says about a failure. -/
inductive Says (body : List Nat) : String → Prop
  /-- The reason in the response of the envelope. -/
  | reason {e : Envelope Json} {response : Json} {reason : String} (wraps : Wraps body e)
      (response_eq : e.response = some response) (gives : GivesReason response reason) :
      Says body reason
  /-- The message of the envelope, if its response gives no reason. -/
  | message {e : Envelope Json} (wraps : Wraps body e)
      (silent : ∀ response, e.response = some response → ∀ reason, ¬GivesReason response reason) :
      Says body e.message
  /-- The text of the body, if that is no envelope. -/
  | text (plain : ∀ e, ¬Wraps body e) : Says body (String.ofList (Text.ofBytesLossy body))

/-- The message for an answer without success: what the body says, or a phrase for the status if
nothing of it can be seen. -/
def Explains (code : Nat) (body : List Nat) (message : String) : Prop :=
  ∃ said, Says body said ∧
    message = if Text.isBlankText said then (Net.reason? code).getD "request failed" else said

/-- What operations of the engine differ in: how the response is read and what is made of it, the
error for an answer that is of no use, and the warning about one without success. -/
structure Terms (α β : Type) where
  /-- Reads the response. -/
  reader : Reader β
  /-- The result. -/
  value : β → α
  /-- The error. -/
  failure : String → RenderError
  /-- The warning. -/
  warning : String → LogEntry

/-- The terms of a submission that is answered with a status. -/
def submitTerms (code : Nat) : Terms JobId String where
  reader := idReader
  value := .mk
  failure := .submission (some code)
  warning message := .warning "Render engine rejected submission"
    [("status", .number code), ("message", .text message)]

/-- The terms of a question for a job that is answered with a status. -/
def statusTerms (id : JobId) (now : Stamp) (code : Nat) : Terms RenderJob StatusReport where
  reader := StatusReport.reader
  value := (·.job now)
  failure := .status (some code)
  warning message := .warning "Render status check failed"
    [("job_id", .text id.text), ("status", .number code), ("message", .text message)]

/-- An operation ends as the status and the body of the answer decide. -/
structure Terms.Decides {α β : Type} (t : Terms α β) (code : Nat) (body : List Nat)
    (reply : Reply α) (logs : List LogEntry) : Prop where
  /-- There is a result exactly if the status tells of success and the envelope too, and it holds a
  response. -/
  ok_iff : ∀ a, reply = .ok a ↔ Net.isSuccess code = true ∧
    ∃ message b, Holds t.reader body ⟨true, message, some b⟩ ∧ a = t.value b
  /-- Otherwise there is an error, with a message that can be seen. -/
  failed : (∀ a, reply ≠ .ok a) →
    ∃ message, reply = .failed (t.failure message) ∧ Text.isBlankText message = false
  /-- If the status does not tell of success, the message is what the body says, and it is noted
  down. -/
  refused : Net.isSuccess code = false → ∃ message, Explains code body message ∧
    (∀ other, Explains code body other → other = message) ∧
    reply = .failed (t.failure message) ∧ logs = [t.warning message]
  /-- If it does, there is no such note. -/
  unwarned : Net.isSuccess code = true →
    ∀ entry ∈ logs, ∀ message, entry.message ≠ (t.warning message).message

/-- An operation ends as its terms have it, case by case. -/
structure Terms.Follows {α β : Type} (t : Terms α β) (code : Nat) (body : List Nat)
    (reply : Reply α) (logs : List LogEntry) : Prop where
  /-- The envelope brings a response. -/
  brought : ∀ b, Net.isSuccess code = true → unwrap t.reader body = .ok b →
    reply = .ok (t.value b) ∧
      ∀ entry ∈ logs, ∀ message, entry.message ≠ (t.warning message).message
  /-- It brings none. -/
  useless : ∀ message, Net.isSuccess code = true → unwrap t.reader body = .error message →
    reply = .failed (t.failure message) ∧ logs = []
  /-- The status does not tell of success. -/
  refused : Net.isSuccess code = false →
    reply = .failed (t.failure (errorMessage code body)) ∧
      logs = [t.warning (errorMessage code body)]

/-- A submission can be sent. -/
def CanSubmit (config : EngineConfig) (submission : RenderSubmission) : Prop :=
  ∃ key out, config.apiKey = some key ∧
    request config key "POST" "render" (some submission.toJson) = .ok out

/-! ## Messages -/

section Messages

variable {α : Type} {r : Reader α} {a : α} {code : Nat} {body : List Nat}
  {message fallback reason : String}

theorem messageOr_of_visible (h : Text.isBlankText message = false) :
    messageOr message fallback = message := by
  unfold messageOr
  rw [h]
  rfl

theorem messageOr_visible (h : Text.isBlankText fallback = false) :
    Text.isBlankText (messageOr message fallback) = false := by
  cases hblank : Text.isBlankText message with
  | true =>
    unfold messageOr
    rw [hblank]
    exact h
  | false =>
    rw [messageOr_of_visible hblank]
    exact hblank

/-- The phrases of the standards can all be seen. -/
theorem reason_visible (code : Nat) :
    Text.isBlankText ((Net.reason? code).getD "request failed") = false := by
  have hreasons : ∀ entry ∈ Net.reasons, Text.isBlankText entry.2 = false := by decide +kernel
  unfold Net.reason?
  cases hfind : Net.reasons.find? (·.1 = code) with
  | none => decide
  | some entry => exact hreasons entry (List.mem_of_find?_eq_some hfind)

theorem givenReason?_eq_some_iff {response : Option Json} :
    givenReason? response = some reason ↔
      ∃ detail, response = some detail ∧ GivesReason detail reason := by
  have htext : ∀ v : Json, v.text? = some reason ↔ v = .text reason := by
    intro v
    cases v <;> simp [Json.text?]
  simp only [givenReason?, GivesReason, Option.filter_eq_some_iff, Option.bind_eq_some_iff, htext,
    exists_eq_right, Bool.not_eq_true', ← and_assoc, exists_and_right]

/-- What an envelope says is the reason that its response gives, or else its message. -/
theorem says_iff_of_wraps {e : Envelope Json} {said : String} (h : Wraps body e) :
    Says body said ↔ said = (givenReason? e.response).getD e.message := by
  have hsame : ∀ {other : Envelope Json}, Wraps body other → other = e := fun hother =>
    Except.ok.inj (hother.symm.trans h)
  constructor
  · intro hsays
    cases hsays with
    | reason wraps response_eq gives =>
      obtain rfl := hsame wraps
      rw [givenReason?_eq_some_iff.mpr ⟨_, response_eq, gives⟩, Option.getD_some]
    | @message other wraps silent =>
      obtain rfl := hsame wraps
      cases hreason : givenReason? other.response with
      | none => rw [Option.getD_none]
      | some reason =>
        obtain ⟨response, hresponse, hgives⟩ := givenReason?_eq_some_iff.mp hreason
        exact absurd hgives (silent response hresponse reason)
    | text plain => exact absurd h (plain e)
  · rintro rfl
    cases hreason : givenReason? e.response with
    | none =>
      refine .message h ?_
      intro response hresponse reason hgives
      have hsome := givenReason?_eq_some_iff.mpr ⟨response, hresponse, hgives⟩
      exact absurd (hreason.symm.trans hsome) (by simp)
    | some reason =>
      obtain ⟨response, hresponse, hgives⟩ := givenReason?_eq_some_iff.mp hreason
      exact .reason h hresponse hgives

/-- Anything else says what it is. -/
theorem says_iff_of_plain {said : String} (h : ∀ e, ¬Wraps body e) :
    Says body said ↔ said = String.ofList (Text.ofBytesLossy body) := by
  constructor
  · rintro (⟨wraps, -, -⟩ | ⟨wraps, -⟩ | ⟨-⟩)
    · exact absurd wraps (h _)
    · exact absurd wraps (h _)
    · rfl
  · rintro rfl
    exact .text h

/-- So there is one message for a body, and it is the one that is made. -/
theorem explains_iff : Explains code body message ↔ message = errorMessage code body := by
  unfold Explains errorMessage messageOr
  cases hread : (Envelope.reader Reader.any).ofChars false (Text.ofBytesLossy body) with
  | ok e => simp only [says_iff_of_wraps hread, hread, exists_eq_left]
  | error _ =>
    have hplain : ∀ e, ¬Wraps body e := fun e hwraps =>
      absurd (hread.symm.trans hwraps) (by simp)
    simp only [says_iff_of_plain hplain, hread, exists_eq_left]

/-- A response is taken out of an envelope that tells of success and holds one. -/
theorem unwrap_eq_ok_iff :
    unwrap r body = .ok a ↔ ∃ message, Holds r body ⟨true, message, some a⟩ := by
  unfold unwrap Holds
  cases hread : (Envelope.reader r).ofBytes false body with
  | error e => simp
  | ok e =>
    obtain ⟨success, message, response⟩ := e
    cases success <;> cases response <;> simp

theorem visible_of_unwrap (h : unwrap r body = .error message) :
    Text.isBlankText message = false := by
  unfold unwrap at h
  split at h
  · split at h
    · obtain rfl := Except.error.inj h
      exact messageOr_visible (by decide)
    · split at h
      · cases h
      · obtain rfl := Except.error.inj h
        exact messageOr_visible (by decide)
  · obtain rfl := Except.error.inj h
    decide

end Messages

/-! ## Operations -/

section Operations

variable {α β : Type} {t : Terms α β} {config : EngineConfig} {submission : RenderSubmission}
  {id : JobId} {now : Stamp} {code : Nat} {body : List Nat} {u : Network} {reply : Reply α}
  {logs : List LogEntry}

/-- An error is no result, whatever the results are. -/
theorem eq_ok_iff_of_failed {e : RenderError} {IsResult : α → Prop} (h : reply = .failed e)
    (hnone : ∀ a, ¬IsResult a) (a : α) : reply = .ok a ↔ IsResult a := by
  rw [h]
  exact iff_of_false (by simp) (hnone a)

/-- Whoever follows the terms ends as the answer decides. -/
theorem Terms.Follows.decides (h : t.Follows code body reply logs) :
    t.Decides code body reply logs := by
  cases hsuccess : Net.isSuccess code with
  | false =>
    obtain ⟨hreply, hlogs⟩ := h.refused hsuccess
    have hvisible : Text.isBlankText (errorMessage code body) = false :=
      messageOr_visible (reason_visible code)
    have hnever : Net.isSuccess code ≠ true := ne_true_of_eq_false hsuccess
    exact
      { ok_iff := eq_ok_iff_of_failed hreply fun _ hresult => hnever hresult.1
        failed := fun _ => ⟨_, hreply, hvisible⟩
        refused := fun _ =>
          ⟨_, explains_iff.mpr rfl, fun _ hother => explains_iff.mp hother, hreply, hlogs⟩
        unwarned := fun htrue => absurd htrue hnever }
  | true =>
    have halways : Net.isSuccess code ≠ false := ne_false_of_eq_true hsuccess
    cases hread : unwrap t.reader body with
    | ok b =>
      obtain ⟨hreply, hlogs⟩ := h.brought b hsuccess hread
      obtain ⟨message, hholds⟩ := unwrap_eq_ok_iff.mp hread
      refine
        { ok_iff := ?_
          failed := fun hnone => absurd hreply (hnone _)
          refused := fun hfalse => absurd hfalse halways
          unwarned := fun _ => hlogs }
      intro a
      constructor
      · intro ha
        exact ⟨hsuccess, message, b, hholds, Reply.ok.inj (ha.symm.trans hreply)⟩
      · rintro ⟨-, other, c, hother, rfl⟩
        have hsame := unwrap_eq_ok_iff.mpr ⟨other, hother⟩
        obtain rfl := Except.ok.inj (hread.symm.trans hsame)
        exact hreply
    | error message =>
      obtain ⟨hreply, hlogs⟩ := h.useless message hsuccess hread
      refine
        { ok_iff := eq_ok_iff_of_failed hreply ?_
          failed := fun _ => ⟨message, hreply, visible_of_unwrap hread⟩
          refused := fun hfalse => absurd hfalse halways
          unwarned := ?_ }
      · rintro a ⟨-, other, c, hother, -⟩
        have hsame := unwrap_eq_ok_iff.mpr ⟨other, hother⟩
        exact absurd (hread.symm.trans hsame) (by simp)
      · intro _ entry hentry
        rw [hlogs] at hentry
        exact absurd hentry List.not_mem_nil

theorem submitReply_follows (code : Nat) (body : List Nat) :
    (submitTerms code).Follows code body (submitReply code body).1 (submitReply code body).2 := by
  unfold submitReply
  refine ⟨?_, ?_, ?_⟩
  · intro name hsuccess hread
    have hname : unwrap idReader body = .ok name := hread
    rw [if_pos hsuccess, hname]
    exact ⟨rfl, fun entry hentry => absurd hentry List.not_mem_nil⟩
  · intro message hsuccess hread
    have hmessage : unwrap idReader body = .error message := hread
    rw [if_pos hsuccess, hmessage]
    exact ⟨rfl, rfl⟩
  · intro hfailure
    rw [if_neg (ne_true_of_eq_false hfailure)]
    exact ⟨rfl, rfl⟩

/-- A report is noted down only if it has a status that is not known. -/
theorem StatusReport.message_of_mem_logs {r : StatusReport} {entry : LogEntry}
    (h : entry ∈ r.logs) : entry.message = "Unknown engine status, treating as rendering" := by
  unfold StatusReport.logs at h
  split at h
  · exact absurd h List.not_mem_nil
  · rw [List.mem_singleton.mp h]
    rfl

/-- Only the answer that there is no such job is an exception. -/
theorem statusReply_follows (id : JobId) (now : Stamp) (body : List Nat) (hknown : code ≠ 404) :
    (statusTerms id now code).Follows code body (statusReply id now code body).1
      (statusReply id now code body).2 := by
  unfold statusReply
  rw [if_neg hknown]
  refine ⟨?_, ?_, ?_⟩
  · intro report hsuccess hread
    have hreport : unwrap StatusReport.reader body = .ok report := hread
    rw [if_pos hsuccess, hreport]
    refine ⟨rfl, ?_⟩
    intro entry hentry message
    have hlogged : entry ∈ report.logs := hentry
    rw [StatusReport.message_of_mem_logs hlogged]
    show "Unknown engine status, treating as rendering" ≠ "Render status check failed"
    decide
  · intro message hsuccess hread
    have hmessage : unwrap StatusReport.reader body = .error message := hread
    rw [if_pos hsuccess, hmessage]
    exact ⟨rfl, rfl⟩
  · intro hfailure
    rw [if_neg (ne_true_of_eq_false hfailure)]
    exact ⟨rfl, rfl⟩

/-- That there is no such job is told by the status, and of the job that was asked for. -/
theorem statusReply_eq_jobNotFound_iff {other : JobId} :
    (statusReply id now code body).1 = .failed (.jobNotFound other) ↔ code = 404 ∧ other = id := by
  by_cases hknown : code = 404
  · unfold statusReply
    rw [if_pos hknown]
    simp only [Reply.failed.injEq, RenderError.jobNotFound.injEq, hknown, true_and]
    exact eq_comm
  · refine iff_of_false ?_ fun h => hknown h.1
    intro hreply
    have hdecides := (statusReply_follows id now body hknown).decides
    obtain ⟨message, hfailed, -⟩ := hdecides.failed fun a ha =>
      absurd (ha.symm.trans hreply) (by simp)
    exact absurd (hfailed.symm.trans hreply) (by simp [statusTerms])

theorem canSubmit_of_isOk {key : String} (hkey : config.apiKey = some key)
    (hok : (request config key "POST" "render" (some submission.toJson)).isOk = true) :
    CanSubmit config submission := by
  obtain ⟨out, hout⟩ := exists_ok_of_isOk hok
  exact ⟨key, out, hkey, hout⟩

theorem canAsk_of_isOk {key : String} (hkey : config.apiKey = some key)
    (hok : (request config key "GET" ("render/" ++ id.text) none).isOk = true) :
    CanAsk config id := by
  obtain ⟨out, hout⟩ := exists_ok_of_isOk hok
  exact ⟨key, out, hkey, hout⟩

theorem submit_follows (hbrings : u.Brings code body) (hsend : CanSubmit config submission) :
    (submitTerms code).Follows code body (submit config submission u).reply
      (submit config submission u).logs := by
  obtain ⟨key, out, hkey, hout⟩ := hsend
  simp only [submit, hkey, hout, exchange_of_brings hbrings]
  exact submitReply_follows code body

theorem status_of_brings (hbrings : u.Brings code body) (hsend : CanAsk config id) :
    (status config id u).reply = (statusReply id u.now code body).1 ∧
      (status config id u).logs = (statusReply id u.now code body).2 := by
  obtain ⟨key, out, hkey, hout⟩ := hsend
  simp only [status, hkey, hout, exchange_of_brings hbrings, and_self]

theorem status_follows (hbrings : u.Brings code body) (hsend : CanAsk config id)
    (hknown : code ≠ 404) :
    (statusTerms id u.now code).Follows code body (status config id u).reply
      (status config id u).logs := by
  obtain ⟨hreply, hlogs⟩ := status_of_brings hbrings hsend
  rw [hreply, hlogs]
  exact statusReply_follows id u.now body hknown

end Operations

end Storyboard.Remote
