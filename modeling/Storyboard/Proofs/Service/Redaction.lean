import Mathlib.Data.List.Forall2
import Storyboard.Proofs.Service.Videos

/-!
# What the public gets to see

Where the service is open to the public, a caller whose request failed inside learns of which class
the failure is and nothing more. That is a statement about two services: as long as their engines
fail a request in the same class, nothing in the responses tells them apart, whatever the engines
say.

`Server.handle_of_breaks` finds the response of one service, in which the text of the engine stands
in one place and only outside of production. Comparing two of them is then a matter of the header
fields, of which one is random.
-/

namespace Storyboard

namespace Service

/-! ## Classes of failures -/

/-- The classes of what fails inside. -/
inductive Failure
  /-- The engine did not accept a video. -/
  | submission
  /-- The engine did not report on a job. -/
  | status
  /-- The engine is not set up. -/
  | configuration
  /-- Something broke down. -/
  | breakdown
deriving DecidableEq, Repr

namespace Failure

/-- The status of the answer. -/
def statusCode : Failure → Nat
  | .submission | .status => 502
  | .configuration | .breakdown => 500

/-- A code for programs. -/
def code : Failure → String
  | .submission => "render_submission_failed"
  | .status => "render_status_failed"
  | .configuration => "configuration_error"
  | .breakdown => "internal_error"

/-- What stands before the text of a failure. -/
def lead : Failure → String
  | .submission => "Render submission failed: "
  | .status => "Render status check failed: "
  | .configuration => "Configuration error: "
  | .breakdown => "Internal error: request handler panicked: "

/-- What the public is told. -/
def generic : Failure → String
  | .submission => "The render service rejected the request"
  | .status => "The render service could not report status"
  | .configuration => "The render service is not configured"
  | .breakdown => "An internal error occurred"

/-- The response with a wording for a failure, before anything is added to it. -/
def response (f : Failure) (detail : String) : Response :=
  { Response.ofJson f.statusCode (Response.errorJson detail f.code) with
    redaction := some ⟨f.generic, f.code⟩ }

@[simp]
theorem response_redacted (f : Failure) (detail : String) :
    (f.response detail).redacted = f.response f.generic := rfl

end Failure

end Service

open Service in
/-- An operation of an engine ends with a failure of a class; the text says what happened, and is
the engine's own. -/
inductive Reply.FailsWith {α : Type} : Reply α → Failure → String → Prop
  /-- The engine did not accept a video, and may have given a status. -/
  | submission (code : Option Nat) (text : String) :
      FailsWith (.failed (.submission code text)) .submission text
  /-- The engine did not report on a job, and may have given a status. -/
  | status (code : Option Nat) (text : String) :
      FailsWith (.failed (.status code text)) .status text
  /-- A job did not come to an end. -/
  | pollTimeout (id : JobId) (attempts : Nat) :
      FailsWith (.failed (.pollTimeout id attempts)) .status
        (RenderError.pollTimeout id attempts).message
  /-- The engine is not set up. -/
  | configuration (text : String) : FailsWith (.failed (.configuration text)) .configuration text
  /-- The engine broke down and left something behind, a text or not. -/
  | breakdown (left : Breakdown) : FailsWith (.crashed left) .breakdown left.message

namespace Service

/-- The engine of a service fails a request with a failure of a class. -/
inductive Server.Breaks {σ : Type} (s : Server σ) (m : Moment) (r : Request) (session : Session σ)
    (f : Failure) (text : String) : Prop
  /-- It fails to accept a video that can be planned. -/
  | video {video : VideoRequest} {plan : RenderPlan}
      (reaches : s.Reaches m r session (videoRoute video))
      (asks : r.Asks s.config.maxBodySize video) (planned : video.plan = .ok plan)
      (fails : (s.engine.submit ⟨plan.timeline, plan.output, s.callback⟩
        session.world.engine).reply.FailsWith f text)
  /-- It fails to report on a job. -/
  | job {segment name : List Char} {id : JobId} (reaches : s.Reaches m r session (.job segment))
      (named : segmentText? segment = some name) (id_eq : jobId? name = some id)
      (fails : (s.engine.status id session.world.engine).reply.FailsWith f text)

/-! ## Responses side by side -/

/-- The same fields in the same order, but for the values of one of them. -/
def AgreeBut (name : String) (a b : Net.Headers) : Prop :=
  List.Forall₂ (fun x y => x.1 = y.1 ∧ (Net.fieldName x.1 ≠ name → x.2 = y.2)) a b

theorem AgreeBut.refl (name : String) (a : Net.Headers) : AgreeBut name a a :=
  List.forall₂_same.mpr fun _ _ => ⟨rfl, fun _ => rfl⟩

/-- Setting one field on both sides. -/
theorem AgreeBut.set {name field v w : String} {a b : Net.Headers} (h : AgreeBut name a b)
    (hvalue : Net.fieldName field ≠ name → v = w) :
    AgreeBut name (a.set field v) (b.set field w) := by
  unfold Net.Headers.set
  refine List.rel_append (List.rel_filter ?_ h) (.cons ⟨rfl, hvalue⟩ .nil)
  rintro x y ⟨hname, -⟩
  simp [hname]

/-- Two responses are the same, but for the values of one field. -/
structure Response.AgreesBut (name : String) (a b : Response) : Prop where
  /-- They have the same status. -/
  status_eq : a.status = b.status
  /-- They have the same fields. -/
  headers_agree : AgreeBut name a.headers b.headers
  /-- They have the same body. -/
  content_eq : a.content = b.content

theorem Response.AgreesBut.withHeaders {name : String} {fields fields' : Net.Headers}
    (hfields : AgreeBut name fields fields') {a b : Response} (h : a.AgreesBut name b) :
    (a.withHeaders fields).AgreesBut name (b.withHeaders fields') := by
  unfold Response.withHeaders
  induction hfields generalizing a b with
  | nil => exact h
  | @cons x y _ _ hxy _ ih =>
    refine ih ⟨h.status_eq, ?_, h.content_eq⟩
    obtain ⟨hname, hvalue⟩ := hxy
    simp only [Response.withHeader, hname]
    exact h.headers_agree.set (hname ▸ hvalue)

theorem Response.AgreesBut.withoutContent {name : String} {a b : Response}
    (h : a.AgreesBut name b) : a.withoutContent.AgreesBut name b.withoutContent :=
  ⟨h.status_eq, h.headers_agree, rfl⟩

/-! ## What a service says of a failure -/

namespace Server

variable {σ : Type} {s : Server σ} {m : Moment} {r : Request} {session : Session σ} {f : Failure}
  {text : String}

/-- What is made of the reply of an engine that fails. -/
theorem response_of_failsWith {α : Type} {reply : Reply α} (h : reply.FailsWith f text) :
    (∃ e, reply = .failed e ∧
      Response.ofError (.ofRenderError e) = f.response (f.lead ++ text)) ∨
    (∃ left, reply = .crashed left ∧
      (Outcome.crashed left).response = f.response (f.lead ++ text)) := by
  have hlead : "Internal error: " ++ "request handler panicked: " = Failure.breakdown.lead := by
    simp [Failure.lead]
  cases h with
  | submission => exact .inl ⟨_, rfl, rfl⟩
  | status => exact .inl ⟨_, rfl, rfl⟩
  | pollTimeout => exact .inl ⟨_, rfl, rfl⟩
  | configuration => exact .inl ⟨_, rfl, rfl⟩
  | breakdown =>
    refine .inr ⟨_, rfl, ?_⟩
    rw [← hlead, String.append_assoc]
    rfl

/-- A request that the engine fails comes through, and is answered with the text of the engine. -/
theorem exists_route_of_breaks (h : s.Breaks m r session f text) :
    ∃ route, s.Reaches m r session route ∧
      (s.answer m r (entered m r session route) route).1.response =
        f.response (f.lead ++ text) := by
  cases h with
  | @video video plan reaches asks planned fails =>
    refine ⟨videoRoute video, reaches, ?_⟩
    rw [answer_of_asks asks]
    simp only [submitVideo, planned, Engine.submitPlan, entered]
    obtain ⟨e, hreply, hresponse⟩ | ⟨left, hreply, hresponse⟩ := response_of_failsWith fails
    · simp only [hreply]
      exact hresponse
    · simp only [hreply]
      exact hresponse
  | @job segment name id reaches named id_eq fails =>
    refine ⟨.job segment, reaches, ?_⟩
    simp only [answer, report, named, id_eq, Engine.poll, entered]
    obtain ⟨e, hreply, hresponse⟩ | ⟨left, hreply, hresponse⟩ := response_of_failsWith fails
    · simp only [hreply]
      exact hresponse
    · simp only [hreply]
      exact hresponse

/-- The fields that the outer layers set. -/
def outerFields (c : Config) (m : Moment) (r : Request) : Net.Headers :=
  safetyFields ++ [("x-request-id", r.id m.freshId)] ++
    (Origins.ofList c.corsOrigins).afterwards r.headers

/-- What is sent to a caller who may only have asked for the head. -/
def sent (r : Request) (response : Response) : Response :=
  if r.method = "HEAD" then response.withoutContent else response

theorem sent_status (r : Request) (response : Response) :
    (sent r response).status = response.status := by
  unfold sent
  split <;> rfl

theorem sent_content {r : Request} (h : r.method ≠ "HEAD") (response : Response) :
    (sent r response).content = response.content := by
  simp [sent, h]

theorem agreesBut_sent {name : String} {a b : Response} (h : a.AgreesBut name b) (r : Request) :
    (sent r a).AgreesBut name (sent r b) := by
  unfold sent
  split
  · exact h.withoutContent
  · exact h

/-- Only the name of a request is random. -/
theorem agreeBut_outerFields (c : Config) (m n : Moment) (r : Request) :
    AgreeBut "x-request-id" (outerFields c m r) (outerFields c n r) := by
  have hid : AgreeBut "x-request-id" [("x-request-id", r.id m.freshId)]
      [("x-request-id", r.id n.freshId)] :=
    .cons ⟨rfl, fun h => absurd (by decide +kernel : Net.fieldName "x-request-id" = _) h⟩ .nil
  exact List.rel_append (List.rel_append (AgreeBut.refl _ _) hid) (AgreeBut.refl _ _)

/-- A request that the engine fails is answered with the class of the failure, and outside of
production with the text of the engine. -/
theorem handle_of_breaks (h : s.Breaks m r session f text) :
    (s.handle m r session).1 = sent r
      ((f.response (if s.config.isProduction then f.generic else f.lead ++ text)).withHeaders
        (outerFields s.config m r)) := by
  obtain ⟨route, hreaches, hanswer⟩ := exists_route_of_breaks h
  rw [(handle_of_short hreaches.ne_options hreaches.short).1, dispatch_of_reaches hreaches, hanswer,
    shaped, hreaches.route_eq]
  simp only [hreaches.accepted, Failure.response_redacted]
  cases s.config.isProduction <;> rfl

/-- What a caller sees of a failure. -/
theorem shown_of_breaks (h : s.Breaks m r session f text) :
    (s.handle m r session).1.status = f.statusCode ∧
      (r.method ≠ "HEAD" → (s.handle m r session).1.content = .json (Response.errorJson
        (if s.config.isProduction then f.generic else f.lead ++ text) f.code)) := by
  rw [handle_of_breaks h, sent_status, Response.withHeaders_status]
  refine ⟨rfl, fun hhead => ?_⟩
  rw [sent_content hhead, Response.withHeaders_content]
  rfl

end Server

/-! ## What is passed on as it is -/

/-- Only a status that blames the service goes with another wording for the public. -/
def Response.Candid (response : Response) : Prop :=
  response.redaction ≠ none → 500 ≤ response.status

/-- The statuses that blame the caller. -/
def clientStatuses : List Nat := [400, 404, 429]

theorem Response.Candid.redacted_eq {response : Response} (h : response.Candid)
    (hclient : response.status ∈ clientStatuses) : response.redacted = response := by
  refine redacted_of_none (Decidable.byContradiction fun hne => ?_)
  have hblames := h hne
  simp only [clientStatuses, List.mem_cons, List.not_mem_nil, or_false] at hclient
  omega

theorem candid_of_none {response : Response} (h : response.redaction = none) : response.Candid :=
  fun hne => absurd h hne

theorem candid_ofError (e : Error) : (Response.ofError e).Candid := by
  cases e <;> simp [Response.Candid, Response.ofError, Response.ofJson, Error.redaction?,
    Error.generic?, Error.statusCode]

namespace Server

variable {σ : Type} (s : Server σ) (m : Moment) (r : Request) (w : World σ) (session : Session σ)

theorem submitVideo_candid (answer : RenderPlan → SubmittedJob → Json) (video : VideoRequest) :
    (s.submitVideo answer video w).1.response.Candid := by
  unfold submitVideo
  split
  · exact candid_ofError _
  · split
    · exact candid_of_none rfl
    · exact candid_ofError _
    · exact candid_ofError _

theorem withBody_candid {α : Type} [Wire α] {next : α → World σ → Outcome Response × World σ}
    (h : ∀ a, (next a w).1.response.Candid) : (s.withBody r next w).1.response.Candid := by
  unfold withBody
  split
  · exact h _
  · exact candid_ofError _

theorem report_candid (segment : List Char) : (s.report segment w).1.response.Candid := by
  unfold report
  split
  · exact candid_of_none rfl
  · split
    · exact candid_ofError _
    · split
      · exact candid_of_none rfl
      · exact candid_ofError _
      · exact candid_ofError _

theorem previewVideo_candid (video : VideoRequest) :
    (previewVideo video w).1.response.Candid := by
  unfold previewVideo
  split
  · exact candid_ofError _
  · exact candid_of_none rfl

theorem answer_candid (route : Route) : (s.answer m r w route).1.response.Candid := by
  cases route with
  | title => exact s.withBody_candid r w fun _ => s.submitVideo_candid w _ _
  | scenes => exact s.withBody_candid r w fun _ => s.submitVideo_candid w _ _
  | card => exact s.withBody_candid r w fun _ => s.submitVideo_candid w _ _
  | preview => exact s.withBody_candid r w fun video => previewVideo_candid w video
  | job segment => exact s.report_candid w segment
  | schema => exact candid_of_none rfl
  | health => exact candid_of_none rfl
  | readiness => exact candid_of_none rfl
  | metrics => exact candid_of_none rfl

/-- Whatever comes out of the inner layers is candid. -/
theorem dispatchSafely_candid : (s.dispatchSafely m r session).1.Candid := by
  rw [dispatchSafely_response]
  unfold dispatch
  split
  · exact candid_of_none rfl
  · rename_i route _
    dsimp only
    split
    · exact candid_ofError .rateLimited
    · unfold answerMethod
      split
      · exact s.answer_candid m r _ route
      · exact candid_of_none rfl

/-- The service in another environment. -/
def inEnvironment (environment : String) : Server σ :=
  { s with config := { s.config with environment } }

theorem dispatchSafely_inEnvironment (environment : String) :
    (s.inEnvironment environment).dispatchSafely m r session = s.dispatchSafely m r session := rfl

theorem shaped_inEnvironment (environment : String) (response : Response) :
    (s.inEnvironment environment).shaped r response = s.shaped r response := rfl

variable {s m r session}

theorem respond_of_short (hshort : r.announcedSize?.getD 0 ≤ s.config.maxBodySize) :
    (s.respond m r session).1 =
      if s.config.isProduction then (s.dispatchSafely m r session).1.redacted
      else (s.dispatchSafely m r session).1 := by
  unfold respond
  rw [if_neg (Nat.not_lt.mpr hshort)]

/-- What blames the caller is passed on as it is. -/
theorem respond_of_client (hshort : r.announcedSize?.getD 0 ≤ s.config.maxBodySize)
    (hclient : (s.dispatchSafely m r session).1.status ∈ clientStatuses) :
    (s.respond m r session).1 = (s.dispatchSafely m r session).1 := by
  rw [respond_of_short hshort, (s.dispatchSafely_candid m r session).redacted_eq hclient, ite_self]

theorem handle_of_ne_options (hoptions : r.method ≠ "OPTIONS") :
    (s.handle m r session).1 = s.shaped r
      ((s.respond m r (arrived session)).1.withHeaders (outerFields s.config m r)) := by
  unfold handle
  rw [if_neg hoptions]
  rfl

/-- What blames the caller is the same in every environment. -/
theorem handle_inEnvironment (environment : String)
    (hclient : (s.handle m r session).1.status ∈ clientStatuses) :
    ((s.inEnvironment environment).handle m r session).1 = (s.handle m r session).1 := by
  by_cases hoptions : r.method = "OPTIONS"
  · simp only [handle, hoptions, if_true]
    rfl
  rw [handle_of_ne_options hoptions, shaped_status, Response.withHeaders_status] at hclient
  rw [handle_of_ne_options hoptions, handle_of_ne_options hoptions, shaped_inEnvironment]
  have hsame : ((s.inEnvironment environment).respond m r (arrived session)).1 =
      (s.respond m r (arrived session)).1 := by
    by_cases hshort : r.announcedSize?.getD 0 ≤ s.config.maxBodySize
    · have hstatus : (s.respond m r (arrived session)).1.status =
          (s.dispatchSafely m r (arrived session)).1.status := by
        rw [respond_of_short hshort]
        split
        · exact Response.redacted_status _
        · rfl
      rw [hstatus] at hclient
      rw [respond_of_client hshort hclient, ← s.dispatchSafely_inEnvironment m r _ environment]
      exact respond_of_client hshort hclient
    · unfold respond
      rw [if_pos (Nat.not_le.mp hshort)]
      exact congrArg Prod.fst (if_pos (Nat.not_le.mp hshort))
  rw [hsame]
  rfl

end Server

/-! ## All that the settings decide -/

/-- What services with some settings say of failures, to the public and to others. -/
structure Config.Discreet (c : Config) : Prop where
  /-- In production nothing tells two failures of one class apart but the name of the request. -/
  hides : c.isProduction = true → ∀ {σ τ : Type} {s : Server σ} {t : Server τ},
    s.config = c → t.config = c → ∀ {m n : Moment} {r : Request} {before : Session σ}
      {before' : Session τ} {f : Failure} {text text' : String},
    s.Breaks m r before f text → t.Breaks n r before' f text' →
      (s.handle m r before).1.AgreesBut "x-request-id" (t.handle n r before').1
  /-- In production the class is told. -/
  classifies : c.isProduction = true → ∀ {σ : Type} {s : Server σ}, s.config = c →
    ∀ {m : Moment} {r : Request} {before : Session σ} {f : Failure} {text : String},
    s.Breaks m r before f text → (s.handle m r before).1.status = f.statusCode ∧
      (r.method ≠ "HEAD" → (s.handle m r before).1.content =
        .json (Response.errorJson f.generic f.code))
  /-- Elsewhere the class is told and all that the engine says. -/
  tells : c.isProduction = false → ∀ {σ : Type} {s : Server σ}, s.config = c →
    ∀ {m : Moment} {r : Request} {before : Session σ} {f : Failure} {text : String},
    s.Breaks m r before f text → (s.handle m r before).1.status = f.statusCode ∧
      (r.method ≠ "HEAD" → (s.handle m r before).1.content =
        .json (Response.errorJson (f.lead ++ text) f.code))
  /-- What blames the caller comes through the layer that chooses the wording as it is. -/
  passes : ∀ {σ : Type} {s : Server σ}, s.config = c →
    ∀ {m : Moment} {r : Request} {before : Session σ},
    r.announcedSize?.getD 0 ≤ c.maxBodySize →
    (s.dispatchSafely m r before).1.status ∈ clientStatuses →
      (s.respond m r before).1 = (s.dispatchSafely m r before).1
  /-- What blames the caller is the same in every other environment. -/
  passes_everywhere : ∀ {σ : Type} {s : Server σ}, s.config = c →
    ∀ {m : Moment} {r : Request} {before : Session σ} (environment : String),
    (s.handle m r before).1.status ∈ clientStatuses →
      ((s.inEnvironment environment).handle m r before).1 = (s.handle m r before).1

end Service

end Storyboard
