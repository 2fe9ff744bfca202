import Storyboard.Proofs.Service.Jobs
import Storyboard.Proofs.Service.Videos
import Storyboard.Proofs.Url.Percent

/-!
# Following a job by the name one was told

Whoever asked for a video is told the name of the job, which the engine made up, and may ask for the
job under that name. The engine is free in its choice; the service lets through to it only names of
up to 128 letters, digits, hyphens and underscores. These two facts meet here: the name that a caller
was told leads to the engine exactly if it is such a name.

The name goes into the path as one segment, in which any of its characters may be percent-encoded.
The words that other routes stand at cannot be asked for as they are, but with a character encoded
they can.
-/

namespace Storyboard.Service

/-! ## Names -/

/-- A text is a name under which the engine can be asked for a job. -/
structure IsName (name : String) : Prop where
  /-- It has characters. -/
  ne_empty : name ≠ ""
  /-- It has at most 128 of them. -/
  short : name.length ≤ 128
  /-- They are letters and digits, hyphens and underscores. -/
  plain : ∀ c ∈ name.toList, c.isAlphanum = true ∨ c = '-' ∨ c = '_'

theorem isName_iff {name : String} :
    IsName name ↔ name ≠ "" ∧ name.length ≤ longestName ∧ name.toList.all isNameChar = true := by
  have hchars : name.toList.all isNameChar = true ↔
      ∀ c ∈ name.toList, c.isAlphanum = true ∨ c = '-' ∨ c = '_' := by
    simp [isNameChar, List.all_eq_true, or_assoc]
  rw [hchars]
  exact ⟨fun h => ⟨h.ne_empty, h.short, h.plain⟩, fun h => ⟨h.1, h.2.1, h.2.2⟩⟩

instance (name : String) : Decidable (IsName name) := decidable_of_iff _ isName_iff.symm

theorem jobId?_eq_some_iff {name : String} {id : JobId} :
    jobId? name.toList = some id ↔ IsName name ∧ id = ⟨name⟩ := by
  have hguard : (name.toList ≠ [] ∧ name.toList.length ≤ longestName ∧
      name.toList.all isNameChar = true) ↔ IsName name := by
    rw [isName_iff, String.length_toList]
    simp
  unfold jobId?
  by_cases hname : IsName name
  · rw [if_pos (hguard.mpr hname), String.ofList_toList]
    simp [hname, eq_comm]
  · rw [if_neg (hname ∘ hguard.mp)]
    simp [hname]

/-- The characters of names are visible ones of ASCII, and neither slashes nor percent signs. -/
theorem IsName.toNat_bounds {name : String} (h : IsName name) :
    ∀ c ∈ name.toList, 0x20 < c.toNat ∧ c.toNat < 0x7F ∧ c.toNat ≠ 37 ∧ c ≠ '/' := by
  intro c hc
  rcases h.plain c hc with halphanum | rfl | rfl
  · delta Char.isAlphanum Char.isAlpha Char.isUpper Char.isLower Char.isDigit at halphanum
    simp only [Bool.or_eq_true, Bool.and_eq_true, decide_eq_true_eq, ge_iff_le,
      UInt32.le_iff_toNat_le, Char.isValue, Char.reduceVal, UInt32.reduceToNat,
      Char.toNat_val] at halphanum
    have hslash : c.toNat ≠ 47 := by omega
    exact ⟨by omega, by omega, by omega, fun heq => hslash (heq ▸ rfl)⟩
  · decide
  · decide

/-! ## Segments -/

/-- A segment of a path stands for a name. -/
structure StandsFor (segment : List Char) (name : String) : Prop where
  /-- It is not empty. -/
  ne_nil : segment ≠ []
  /-- It is one segment. -/
  no_slash : '/' ∉ segment
  /-- No other route stands there. -/
  not_fixed : ∀ p ∈ Route.fixed, p.1.toList ≠ segment
  /-- With its percent signs undone it is the name. -/
  text_eq : segmentText? segment = some name.toList

/-- For every name there is a segment, whatever characters the name has. -/
theorem standsFor_encoded {name : String} (h : name ≠ "") :
    StandsFor (Url.encoded name.toList) name := by
  have hhead : (Url.encoded name.toList).head? = some '%' := Url.head?_encoded (by simpa using h)
  refine ⟨?_, Url.slash_not_mem_encoded _, ?_, ?_⟩
  · intro hnil
    rw [hnil] at hhead
    exact absurd hhead (by simp)
  · intro p hp hfixed
    rw [← hfixed] at hhead
    have hplain : ∀ p ∈ Route.fixed, p.1.toList.head? ≠ some '%' := by decide
    exact hplain p hp hhead
  · rw [segmentText?, Url.percentDecode_encoded, Text.ofBytes?_bytes]

/-- A name stands for itself, unless another route stands there. -/
theorem IsName.standsFor {name : String} (h : IsName name) (hfixed : ∀ p ∈ Route.fixed, p.1 ≠ name) :
    StandsFor name.toList name := by
  have hbounds := h.toNat_bounds
  refine ⟨by simpa using h.ne_empty, fun hslash => (hbounds _ hslash).2.2.2 rfl, ?_, ?_⟩
  · intro p hp hsame
    exact hfixed p hp (String.toList_injective hsame)
  · have hpercent : 37 ∉ Text.bytes name.toList := by
      rw [Text.bytes_of_lt fun c hc => Nat.lt_trans (hbounds c hc).2.1 (by decide), List.mem_map]
      rintro ⟨c, hc, hchar⟩
      exact (hbounds c hc).2.2.1 hchar
    rw [segmentText?, Url.percentDecode_of_not_mem hpercent, Text.ofBytes?_bytes]

theorem StandsFor.jobAt_eq_some {segment : List Char} {id : JobId} (h : StandsFor segment id.text)
    (hname : IsName id.text) : jobAt? segment = some id := by
  rw [jobAt?, h.text_eq, Option.bind_some]
  exact jobId?_eq_some_iff.mpr ⟨hname, rfl⟩

theorem jobId?_eq_none {name : String} (hname : ¬IsName name) : jobId? name.toList = none := by
  exact Option.eq_none_iff_forall_not_mem.mpr fun id hid => hname (jobId?_eq_some_iff.mp hid).1

/-! ## Questions -/

/-- A request asks for what stands at a segment below `/api/render`. -/
structure Request.Gets (r : Request) (segment : List Char) : Prop where
  /-- It gets something. -/
  method_eq : r.method = "GET"
  /-- It gets it there. -/
  path_eq : r.path = "/api/render/".toList ++ segment

namespace Server

variable {σ : Type} {s : Server σ} {m : Moment} {r : Request} {session : Session σ}
  {segment : List Char} {name : String}

theorem route?_of_gets (hgets : r.Gets segment) (hsegment : StandsFor segment name) :
    s.route? r = some (.job segment) := by
  rw [route?_eq_some_iff (by simp), hgets.path_eq]
  exact Route.ofPath?_job hsegment.ne_nil hsegment.no_slash hsegment.not_fixed

theorem reaches_of_gets (hgets : r.Gets segment) (hsegment : StandsFor segment name)
    (hin : s.LetsIn m r session) : s.Reaches m r session (.job segment) :=
  hin.reaches rfl (route?_of_gets hgets hsegment) (by simp [hgets.method_eq])
    (by rw [hgets.method_eq]; rfl)

/-- A question is passed on to the engine, which is asked for just the given job. -/
structure PassesOn (s : Server σ) (m : Moment) (r : Request) (session : Session σ) (id : JobId) :
    Prop where
  /-- The engine has been asked. -/
  engine_eq : (s.handle m r session).2.world.engine = (s.engine.status id session.world.engine).state
  /-- The report of the engine is the answer. -/
  answered : ∀ job, (s.engine.status id session.world.engine).reply = .ok job →
    (s.handle m r session).1.status = 200 ∧ (s.handle m r session).1.content = .json (jobJson job)

/-- A question is refused as one for something that is no job. -/
structure TurnsDown (s : Server σ) (m : Moment) (r : Request) (session : Session σ) : Prop where
  /-- The engine has not been asked. -/
  engine_eq : (s.handle m r session).2.world.engine = session.world.engine
  /-- The answer tells of a fault of the caller. -/
  status_eq : (s.handle m r session).1.status = 400
  /-- It says what is wrong. -/
  content_eq : (s.handle m r session).1.content =
    .json (Response.errorJson "Validation error: invalid job id" "validation_error")

theorem passesOn_of_isName {id : JobId} (hgets : r.Gets segment)
    (hsegment : StandsFor segment id.text) (hin : s.LetsIn m r session) (hname : IsName id.text) :
    s.PassesOn m r session id := by
  obtain ⟨hasked, hanswered⟩ :=
    handle_of_jobAt (reaches_of_gets hgets hsegment hin) (hsegment.jobAt_eq_some hname)
  refine ⟨hasked, fun job hreply => ?_⟩
  obtain ⟨hstatus, hcontent⟩ := hanswered job hreply
  exact ⟨hstatus, hcontent (by simp [hgets.method_eq])⟩

theorem turnsDown_of_not_isName (hgets : r.Gets segment) (hsegment : StandsFor segment name)
    (hin : s.LetsIn m r session) (hname : ¬IsName name) : s.TurnsDown m r session := by
  have hreaches := reaches_of_gets hgets hsegment hin
  have hreport : s.report segment (entered m r session (.job segment)) =
      refuse (.validation "invalid job id") (entered m r session (.job segment)) := by
    unfold report
    simp only [hsegment.text_eq, jobId?_eq_none hname]
  have hdone : (s.answer m r (entered m r session (.job segment)) (.job segment)).1 =
      .done (.ofError (.validation "invalid job id")) := congrArg Prod.fst hreport
  obtain ⟨hstatus, hcontent⟩ :=
    handle_of_done hreaches (by simp [hgets.method_eq]) rfl hdone
  refine ⟨(handle_of_reaches hreaches).2.2.trans ?_, hstatus, hcontent⟩
  exact congrArg (fun x => x.2.engine) hreport

end Server

/-! ## Answers to requests for videos -/

/-- The name that a response gives to a new job. -/
def Response.jobId? (response : Response) : Option String :=
  match response.content with
  | .json value => (value.field? "jobId").bind Json.text?
  | _ => none

theorem videoJson_jobId (video : VideoRequest) (plan : RenderPlan) (job : SubmittedJob) :
    ((videoJson video plan job).field? "jobId").bind Json.text? = some job.jobId.text := by
  cases video <;> rfl

namespace Server

variable {config : Config} {engine : EngineConfig} {keepsCounts : Bool} {m : Moment} {r : Request}
  {session : Session (Paced Network)}

/-- A caller who is told the name of a new job is told the one that the engine gave to it. -/
theorem overRemote_names (hposted : r.method = "POST")
    (hpath : r.path ∈ videoPaths.map String.toList)
    (hok : ((overRemote config engine keepsCounts).handle m r session).1.status = 200) :
    ∃ code body id, session.world.engine.inner.Brings code body ∧ Remote.Names code body id ∧
      ((overRemote config engine keepsCounts).handle m r session).1.jobId? = some id.text := by
  obtain ⟨video, plan, id, hreply, hcontent⟩ := exists_submit_of_ok hposted hpath hok
  have hsubmit : (Remote.submit engine ⟨plan.timeline, plan.output, engine.callbackUrl⟩
      session.world.engine.acquire.inner).reply = .ok id := hreply
  rw [Paced.acquire_inner] at hsubmit
  obtain ⟨code, body, hbrings, hnames⟩ := Remote.names_of_submit hsubmit
  refine ⟨code, body, id, hbrings, hnames, ?_⟩
  rw [Response.jobId?, hcontent]
  exact videoJson_jobId video plan ⟨id, .queued⟩

/-- Whoever asked for a video and was told the name of a job can write that name as a segment of a
path, and finds the reports on jobs there. If the name is one of up to 128 letters, digits, hyphens
and underscores, the engine is asked for just this job; otherwise the question is refused. -/
theorem overRemote_tracks (config : Config) (engine : EngineConfig) (keepsCounts : Bool)
    (hposted : r.method = "POST") (hpath : r.path ∈ videoPaths.map String.toList)
    (hok : ((overRemote config engine keepsCounts).handle m r session).1.status = 200) :
    ∃ code body id, session.world.engine.inner.Brings code body ∧ Remote.Names code body id ∧
      ((overRemote config engine keepsCounts).handle m r session).1.jobId? = some id.text ∧
      (id.text ≠ "" → ∃ segment, StandsFor segment id.text) ∧
      ∀ segment moment question after, StandsFor segment id.text →
        question.Gets segment →
        (overRemote config engine keepsCounts).LetsIn moment question after →
        (overRemote config engine keepsCounts).route? question = some (.job segment) ∧
        (IsName id.text → jobAt? segment = some id ∧
          (overRemote config engine keepsCounts).PassesOn moment question after id) ∧
        (¬IsName id.text → jobAt? segment = none ∧
          (overRemote config engine keepsCounts).TurnsDown moment question after) := by
  -- What is said of the later question holds of any session, and so of those that follow this one.
  obtain ⟨code, body, id, hbrings, hnames, hid⟩ := overRemote_names hposted hpath hok
  refine ⟨code, body, id, hbrings, hnames, hid, fun hne => ⟨_, standsFor_encoded hne⟩, ?_⟩
  intro segment moment question after hsegment hgets hin
  refine ⟨route?_of_gets hgets hsegment, fun hname => ⟨hsegment.jobAt_eq_some hname, ?_⟩,
    fun hname => ⟨?_, ?_⟩⟩
  · exact passesOn_of_isName hgets hsegment hin hname
  · rw [jobAt?, hsegment.text_eq, Option.bind_some, jobId?_eq_none hname]
  · exact turnsDown_of_not_isName hgets hsegment hin hname

/-- A title card whose job the engine calls `job-1`, and then a question for that job. -/
theorem overRemote_tracks_named :
    let engine : EngineConfig := { baseUrl := "http://[::1]:4000", apiKey := some "k" }
    let s := overRemote {} engine false
    let network : Network :=
      { deliveries := [.answered 200 (Remote.enveloped [("id", .text "job-1")])] }
    let session := s.start (remoteStart engine network)
    let r : Request := {
      method := "POST", target := "/api/render/title"
      headers := [("content-type", "application/json")]
      body := Text.bytes (Json.toText (.object [("title", .text "Hi")])).toList }
    let question : Request := { method := "GET", target := "/api/render/job-1" }
    (s.handle ⟨⟨1704067200, 0⟩, 0, "first"⟩ r session).1.jobId? = some "job-1" ∧
      s.PassesOn ⟨⟨1704067201, 0⟩, 0, "second"⟩ question
        (s.handle ⟨⟨1704067200, 0⟩, 0, "first"⟩ r session).2 ⟨"job-1"⟩ := by
  intro engine s network session r question
  have hok : (s.handle ⟨⟨1704067200, 0⟩, 0, "first"⟩ r session).1.status = 200 := by
    decide +kernel
  obtain ⟨code, body, id, -, -, hid, -, hquestions⟩ :=
    overRemote_tracks {} engine false (by decide) (by decide) hok
  have htold : (s.handle ⟨⟨1704067200, 0⟩, 0, "first"⟩ r session).1.jobId? = some "job-1" := by
    decide +kernel
  obtain rfl : id = ⟨"job-1"⟩ := by
    cases id
    exact congrArg JobId.mk (Option.some.inj (hid.symm.trans htold))
  have hname : IsName "job-1" := by decide
  have hsegment : StandsFor "job-1".toList "job-1" := hname.standsFor (by decide)
  have hin : s.LetsIn ⟨⟨1704067201, 0⟩, 0, "second"⟩ question
      (s.handle ⟨⟨1704067200, 0⟩, 0, "first"⟩ r session).2 := by
    refine ⟨by decide, fun a ha => ?_⟩
    rw [show question.client? = none from rfl] at ha
    exact absurd ha (by simp)
  exact ⟨htold, ((hquestions _ _ question _ hsegment ⟨rfl, by decide⟩ hin).2.1 hname).2⟩

/-- Jobs that the engine calls `a/b`, `title`, and nothing at all: the caller is told so each time,
and asks for them in vain. -/
theorem overRemote_tracks_not_all :
    let engine : EngineConfig := { baseUrl := "http://[::1]:4000", apiKey := some "k" }
    let s := overRemote {} engine false
    let r : Request := {
      method := "POST", target := "/api/render/title"
      headers := [("content-type", "application/json")]
      body := Text.bytes (Json.toText (.object [("title", .text "Hi")])).toList }
    let network (name : String) : Network :=
      { deliveries := [.answered 200 (Remote.enveloped [("id", .text name)])] }
    let told (name : String) :=
      s.handle ⟨⟨1704067200, 0⟩, 0, "first"⟩ r (s.start (remoteStart engine (network name)))
    let asked (name target : String) :=
      s.handle ⟨⟨1704067201, 0⟩, 0, "second"⟩ { method := "GET", target } (told name).2
    (∀ name ∈ ["a/b", "title", ""],
      (told name).1.status = 200 ∧ (told name).1.jobId? = some name) ∧
    (segmentText? "a%2Fb".toList = some "a/b".toList ∧ jobAt? "a%2Fb".toList = none ∧
      (asked "a/b" "/api/render/a%2Fb").1.status = 400 ∧
      (asked "a/b" "/api/render/a%2Fb").2.world.engine.inner.sent.length =
        (told "a/b").2.world.engine.inner.sent.length) ∧
    (asked "title" "/api/render/title").1.status = 405 ∧
    (asked "" "/api/render/").1.status = 404 := by
  decide +kernel

end Server

end Storyboard.Service
