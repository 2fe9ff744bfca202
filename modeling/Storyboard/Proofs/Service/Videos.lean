import Storyboard.Proofs.Engine.Scripted
import Storyboard.Proofs.Service.Layers
import Storyboard.Proofs.Service.Paths

/-!
# Requests for videos

When a request for a video is granted, said of the request alone and of the moment at which it
comes: `Server.Grants` names the method, the path, the size, the body, the limiter, the plan and the
engine, and nothing else matters. A request that is granted adds one video to the record of the
scripted engine, and its answer tells the name of the job; any other request leaves the record.
-/

namespace Storyboard.Service

/-! ## Asking -/

/-- The paths at which videos are asked for. -/
def videoPaths : List String :=
  ["/api/render/title", "/api/render/scenes", "/api/render/intro-outro"]

/-- A request asks for a video: a body of at most `limit` bytes is read as what its path is for. -/
inductive Request.Asks (r : Request) (limit : Nat) : VideoRequest → Prop
  /-- A title card is asked for. -/
  | title {v : TitleRequest} (path_eq : r.path = "/api/render/title".toList)
      (read_eq : r.read Wire.reader limit = .ok v) : r.Asks limit (.singleTitle v)
  /-- A sequence of scenes is asked for. -/
  | scenes {v : ScenesRequest} (path_eq : r.path = "/api/render/scenes".toList)
      (read_eq : r.read Wire.reader limit = .ok v) : r.Asks limit (.scenes v)
  /-- An opening or closing card is asked for. -/
  | card {v : CardRequest} (path_eq : r.path = "/api/render/intro-outro".toList)
      (read_eq : r.read Wire.reader limit = .ok v) : r.Asks limit (.card v)

/-- A video that is granted. -/
structure Grant where
  /-- What was asked for. -/
  video : VideoRequest
  /-- Its plan. -/
  plan : RenderPlan

namespace Grant

/-- What the engine is handed. -/
def submission (callback : Option String) (g : Grant) : RenderSubmission :=
  ⟨g.plan.timeline, g.plan.output, callback⟩

/-- What the caller is told, if the job has the given number. -/
def report (g : Grant) (number : Nat) : Json :=
  let job : List (String × Json) :=
    [("jobId", .text ("job-" ++ Stamp.padded 4 number)), ("status", .text "queued")]
  match g.video with
  | .singleTitle _ => .object job
  | .scenes _ =>
    .object (job ++ [("sceneCount", .nat g.plan.sceneCount),
      ("totalDuration", .double g.plan.totalDuration.seconds)])
  | .card r =>
    .object (job ++ [("kind", .text (Vocabulary.word r.kind)),
      ("duration", .double g.plan.totalDuration.seconds),
      ("aspectRatio", .text g.plan.output.aspectRatio.text)])

end Grant

/-- A service grants a request. -/
structure Server.Grants (s : Server Scripted) (m : Moment) (r : Request) (session : Session Scripted)
    (g : Grant) : Prop where
  /-- The request posts something. -/
  posted : r.method = "POST"
  /-- It does not announce too long a body. -/
  short : r.announcedSize?.getD 0 ≤ s.config.maxBodySize
  /-- It asks for the video. -/
  asks : r.Asks s.config.maxBodySize g.video
  /-- The limiter has a permit for where it comes from, if that is known. -/
  admitted : ∀ a, r.client? = some a → (session.limiter.check m.elapsed a).1 = true
  /-- The video can be planned. -/
  planned : g.video.plan = .ok g.plan
  /-- The engine accepts. -/
  willing : session.world.engine.IsWilling

/-! ## Routes of videos -/

/-- The route of a video. -/
def videoRoute : VideoRequest → Route
  | .singleTitle _ => .title
  | .scenes _ => .scenes
  | .card _ => .card

/-- What is answered to a request for a video. -/
def videoJson : VideoRequest → RenderPlan → SubmittedJob → Json
  | .singleTitle _ => titleJson
  | .scenes _ => scenesJson
  | .card r => cardJson r.kind

/-- The routes at which videos are asked for. -/
def videoRoutes : List Route := [.title, .scenes, .card]

theorem ofPath?_title_iff {path : List Char} :
    Route.ofPath? path = some .title ↔ path = "/api/render/title".toList :=
  Route.ofPath?_eq_fixed_iff (by decide : ("title", Route.title) ∈ Route.fixed)

theorem ofPath?_scenes_iff {path : List Char} :
    Route.ofPath? path = some .scenes ↔ path = "/api/render/scenes".toList :=
  Route.ofPath?_eq_fixed_iff (by decide : ("scenes", Route.scenes) ∈ Route.fixed)

theorem ofPath?_card_iff {path : List Char} :
    Route.ofPath? path = some .card ↔ path = "/api/render/intro-outro".toList :=
  Route.ofPath?_eq_fixed_iff (by decide : ("intro-outro", Route.card) ∈ Route.fixed)

theorem mem_videoPaths_iff {path : List Char} :
    path ∈ videoPaths.map String.toList ↔ ∃ route ∈ videoRoutes, Route.ofPath? path = some route := by
  simp only [videoPaths, videoRoutes, List.map_cons, List.map_nil, List.mem_cons, List.not_mem_nil,
    or_false, exists_eq_or_imp, exists_eq_left, ofPath?_title_iff, ofPath?_scenes_iff,
    ofPath?_card_iff]

namespace Server

variable {σ : Type} {s : Server σ} {m : Moment} {r : Request} {session : Session σ} {w : World σ}
  {route : Route} {video : VideoRequest}

theorem route?_eq_some_iff (h : route ≠ .metrics) :
    s.route? r = some route ↔ Route.ofPath? r.path = some route := by
  unfold route?
  split
  · rename_i hmetrics
    rw [hmetrics]
    split <;> simp [Ne.symm h]
  · rfl

theorem ne_metrics_of_mem (h : route ∈ videoRoutes) : route ≠ .metrics := by
  rintro rfl
  exact absurd h (by decide)

theorem admits_eq_none_iff (h : route.isLimited = true) {l : Limiter} :
    (admits m r route l).1 = none ↔ ∀ a, r.client? = some a → (l.check m.elapsed a).1 = true := by
  unfold admits
  rw [if_pos h]
  cases r.client? with
  | none => simp
  | some a => simp

/-- Nothing about a request but its path and its method keeps it from an answer below `/api`. -/
structure LetsIn (s : Server σ) (m : Moment) (r : Request) (session : Session σ) : Prop where
  /-- It does not announce too long a body. -/
  short : r.announcedSize?.getD 0 ≤ s.config.maxBodySize
  /-- The limiter has a permit for where it comes from, if that is known. -/
  admitted : ∀ a, r.client? = some a → (session.limiter.check m.elapsed a).1 = true

theorem LetsIn.reaches (h : s.LetsIn m r session) (hlimited : route.isLimited = true)
    (hroute : s.route? r = some route) (hoptions : r.method ≠ "OPTIONS")
    (haccepted : route.accepts r.method = true) : s.Reaches m r session route where
  ne_options := hoptions
  short := h.short
  route_eq := hroute
  admitted := (admits_eq_none_iff hlimited).mpr h.admitted
  accepted := haccepted

theorem videoRoute_mem (video : VideoRequest) : videoRoute video ∈ videoRoutes := by
  cases video <;> simp [videoRoute, videoRoutes]

theorem ofPath?_of_asks {limit : Nat} (h : r.Asks limit video) :
    Route.ofPath? r.path = some (videoRoute video) := by
  cases h with
  | title path_eq => exact ofPath?_title_iff.mpr path_eq
  | scenes path_eq => exact ofPath?_scenes_iff.mpr path_eq
  | card path_eq => exact ofPath?_card_iff.mpr path_eq

theorem isLimited_of_mem (h : route ∈ videoRoutes) : route.isLimited = true := by
  simp only [videoRoutes, List.mem_cons, List.not_mem_nil, or_false] at h
  rcases h with rfl | rfl | rfl <;> rfl

theorem isPosted_of_mem (h : route ∈ videoRoutes) : route.isPosted = true := by
  simp only [videoRoutes, List.mem_cons, List.not_mem_nil, or_false] at h
  rcases h with rfl | rfl | rfl <;> rfl

theorem posted_of_reaches (h : s.Reaches m r session route) (hroute : route ∈ videoRoutes) :
    r.method = "POST" := by
  simpa [Route.accepts, isPosted_of_mem hroute] using h.accepted

/-- A request for a video comes through unless it is too long or one too many. -/
theorem reaches_of_asks (hposted : r.method = "POST")
    (hshort : r.announcedSize?.getD 0 ≤ s.config.maxBodySize)
    (hasks : r.Asks s.config.maxBodySize video)
    (hadmitted : ∀ a, r.client? = some a → (session.limiter.check m.elapsed a).1 = true) :
    s.Reaches m r session (videoRoute video) := by
  have hmem := videoRoute_mem video
  refine LetsIn.reaches ⟨hshort, hadmitted⟩ (isLimited_of_mem hmem) ?_ (by simp [hposted]) ?_
  · exact (route?_eq_some_iff (ne_metrics_of_mem hmem)).mpr (ofPath?_of_asks hasks)
  · rw [Route.accepts, isPosted_of_mem hmem, hposted]
    rfl

/-! ## Answers at the routes of videos -/

theorem answer_of_asks (h : r.Asks s.config.maxBodySize video) :
    s.answer m r w (videoRoute video) = s.submitVideo (videoJson video) video w := by
  cases h with
  | title _ read_eq => simp only [videoRoute, answer, withBody, read_eq, videoJson]
  | scenes _ read_eq => simp only [videoRoute, answer, withBody, read_eq, videoJson]
  | card _ read_eq => simp only [videoRoute, answer, withBody, read_eq, videoJson]

theorem withBody_of_unread {α : Type} [Wire α]
    {next : α → World σ → Outcome Response × World σ}
    (h : ∀ a : α, r.read Wire.reader s.config.maxBodySize ≠ .ok a) :
    ∃ message, s.withBody r next w = refuse (.validation message) w := by
  unfold withBody
  cases hread : r.read (Wire.reader : Json.Reader α) s.config.maxBodySize with
  | error e => exact ⟨_, rfl⟩
  | ok a => exact absurd hread (h a)

/-- A body that asks for nothing is refused where videos are asked for. -/
theorem answer_of_not_asks (hroute : route ∈ videoRoutes) (hpath : Route.ofPath? r.path = some route)
    (h : ∀ video, ¬r.Asks s.config.maxBodySize video) :
    ∃ message, s.answer m r w route = refuse (.validation message) w := by
  simp only [videoRoutes, List.mem_cons, List.not_mem_nil, or_false] at hroute
  rcases hroute with rfl | rfl | rfl
  · exact withBody_of_unread fun v hread => h _ (.title (ofPath?_title_iff.mp hpath) hread)
  · exact withBody_of_unread fun v hread => h _ (.scenes (ofPath?_scenes_iff.mp hpath) hread)
  · exact withBody_of_unread fun v hread => h _ (.card (ofPath?_card_iff.mp hpath) hread)

/-- A request that comes through to where videos are asked for asks for one, which is handed on, or
is refused. -/
theorem answer_of_mem (hreaches : s.Reaches m r session route) (hroute : route ∈ videoRoutes)
    (w : World σ) :
    (∃ video, r.Asks s.config.maxBodySize video ∧ videoRoute video = route ∧
      s.answer m r w route = s.submitVideo (videoJson video) video w) ∨
    (∀ video, ¬r.Asks s.config.maxBodySize video) ∧
      ∃ message, s.answer m r w route = refuse (.validation message) w := by
  have hpath := (route?_eq_some_iff (ne_metrics_of_mem hroute)).mp hreaches.route_eq
  by_cases hasks : ∃ video, r.Asks s.config.maxBodySize video
  · obtain ⟨video, hasks⟩ := hasks
    obtain rfl : videoRoute video = route :=
      Option.some.inj ((ofPath?_of_asks hasks).symm.trans hpath)
    exact .inl ⟨video, hasks, rfl, answer_of_asks hasks⟩
  · exact .inr ⟨not_exists.mp hasks, answer_of_not_asks hroute hpath (not_exists.mp hasks)⟩

/-- At all other routes the engine is at most asked for a job, which the path names. -/
theorem answer_elsewhere (h : route ∉ videoRoutes) :
    ((s.answer m r w route).2.engine = w.engine ∧ (s.answer m r w route).2.events = w.events) ∨
      ∃ segment id, route = .job segment ∧ (segmentText? segment).bind jobId? = some id ∧
        (s.answer m r w route).2.engine = (s.engine.status id w.engine).state ∧
        (s.answer m r w route).2.events = (s.engine.poll id w).2.events := by
  cases route with
  | title => exact absurd (by decide) h
  | scenes => exact absurd (by decide) h
  | card => exact absurd (by decide) h
  | preview =>
    simp only [answer, withBody, previewVideo]
    split
    · split <;> exact .inl ⟨rfl, rfl⟩
    · exact .inl ⟨rfl, rfl⟩
  | schema => exact .inl ⟨rfl, rfl⟩
  | job segment =>
    simp only [answer, report]
    split
    · exact .inl ⟨rfl, rfl⟩
    · rename_i name hname
      split
      · exact .inl ⟨rfl, rfl⟩
      · rename_i id hid
        refine .inr ⟨segment, id, rfl, Option.bind_eq_some_iff.mpr ⟨name, hname, hid⟩, ?_⟩
        simp only [Engine.poll]
        rcases s.engine.status id w.engine with ⟨_ | _ | _, state, logs⟩ <;> exact ⟨rfl, rfl⟩
  | health => exact .inl ⟨rfl, rfl⟩
  | readiness => exact .inl ⟨rfl, rfl⟩
  | metrics => exact .inl ⟨rfl, rfl⟩

theorem statusCode_ne_ok (e : Error) : e.statusCode ≠ 200 := by
  cases e <;> simp [Error.statusCode]

/-- What is refused has failed, and the engine does not get to know of it. -/
theorem refuse_fails (e : Error) (w : World σ) :
    (refuse e w).2.engine = w.engine ∧ (refuse e w).1.response.status ≠ 200 :=
  ⟨rfl, statusCode_ne_ok e⟩

end Server

/-! ## Answers that name a job -/

namespace Server

variable {σ : Type} {s : Server σ} {m : Moment} {r : Request} {session : Session σ} {w : World σ}
  {video : VideoRequest}

/-- A video is answered with success only if the engine has accepted it. -/
theorem submitVideo_of_ok {answer : RenderPlan → SubmittedJob → Json}
    (hok : (s.submitVideo answer video w).1.response.status = 200) :
    ∃ plan id, video.plan = .ok plan ∧
      (s.engine.submit ⟨plan.timeline, plan.output, s.callback⟩ w.engine).reply = .ok id ∧
      (s.submitVideo answer video w).1 = .done (.ofJson 200 (answer plan ⟨id, .queued⟩)) := by
  unfold submitVideo at hok ⊢
  cases hplan : video.plan with
  | error e =>
    simp only [hplan] at hok
    exact absurd hok (statusCode_ne_ok (.ofRejection e))
  | ok plan =>
    simp only [hplan, Engine.submitPlan] at hok
    rcases hx : s.engine.submit ⟨plan.timeline, plan.output, s.callback⟩ w.engine with
      ⟨id | e | breakdown, state, logs⟩
    · simp only [Engine.submitPlan, hx]
      exact ⟨plan, id, rfl, by rw [hx], rfl⟩
    · simp only [hx] at hok
      exact absurd hok (statusCode_ne_ok (.ofRenderError e))
    · simp only [hx] at hok
      exact absurd hok (statusCode_ne_ok (.ofBreakdown breakdown))

/-- A request for a video that is answered with success is told of the job that the engine has made
of it. -/
theorem exists_submit_of_ok (hposted : r.method = "POST")
    (hpath : r.path ∈ videoPaths.map String.toList) (hok : (s.handle m r session).1.status = 200) :
    ∃ video plan id, (s.engine.submit ⟨plan.timeline, plan.output, s.callback⟩
        session.world.engine).reply = .ok id ∧
      (s.handle m r session).1.content = .json (videoJson video plan ⟨id, .queued⟩) := by
  obtain ⟨route, hroute, hat⟩ := mem_videoPaths_iff.mp hpath
  have hroute? : s.route? r = some route :=
    (route?_eq_some_iff (ne_metrics_of_mem hroute)).mpr hat
  by_cases hreaches : ∃ route, s.Reaches m r session route
  · obtain ⟨other, hreaches⟩ := hreaches
    obtain rfl : other = route := Option.some.inj (hreaches.route_eq.symm.trans hroute?)
    have hdone := (handle_of_reaches hreaches).1.symm.trans hok
    rcases answer_of_mem hreaches hroute (entered m r session other) with
      ⟨video, -, -, hanswer⟩ | ⟨-, message, hanswer⟩
    · rw [hanswer] at hdone
      obtain ⟨plan, id, -, hreply, hsubmitted⟩ := submitVideo_of_ok hdone
      exact ⟨video, plan, id, hreply, (handle_of_done hreaches (by simp [hposted]) rfl
        ((congrArg Prod.fst hanswer).trans hsubmitted)).2⟩
    · rw [hanswer] at hdone
      exact absurd hdone (statusCode_ne_ok (.validation message))
  · have hfailed := (handle_of_not_reaches (not_exists.mp hreaches)).2 (by simp [hposted])
    rw [hok] at hfailed
    exact absurd hfailed (by decide)

end Server

/-! ## The scripted engine behind a service -/

namespace Server

variable {s : Server Scripted} {m : Moment} {r : Request} {session : Session Scripted}
  {w : World Scripted} {route : Route} {video : VideoRequest}

/-- A video that can be planned is accepted by a willing engine. -/
theorem submitVideo_of_willing (hs : s.engine = Scripted.engine) (hw : w.engine.IsWilling)
    {plan : RenderPlan} (hplan : video.plan = .ok plan)
    (answer : RenderPlan → SubmittedJob → Json) :
    (s.submitVideo answer video w).1 = .done (.ofJson 200
        (answer plan ⟨Scripted.jobName (w.engine.accepted + 1), .queued⟩)) ∧
      (s.submitVideo answer video w).2.engine =
        w.engine.accepting ⟨plan.timeline, plan.output, s.callback⟩ := by
  have hsubmit := Scripted.submit_of_willing hw ⟨plan.timeline, plan.output, s.callback⟩
  unfold submitVideo
  simp only [hplan, Engine.submitPlan, hs, Scripted.engine, hsubmit]
  exact ⟨trivial, rfl⟩

/-- Otherwise it comes to nothing. -/
theorem submitVideo_of_not_willing (hs : s.engine = Scripted.engine)
    (h : ∀ plan, video.plan = .ok plan → ¬w.engine.IsWilling)
    (answer : RenderPlan → SubmittedJob → Json) :
    (s.submitVideo answer video w).2.engine = w.engine ∧
      (s.submitVideo answer video w).1.response.status ≠ 200 := by
  unfold submitVideo
  cases hplan : video.plan with
  | error e => exact refuse_fails (.ofRejection e) (w.count (.videoRejected video.kind))
  | ok plan =>
    obtain ⟨hstate, hreply⟩ :=
      Scripted.submit_of_not_willing (h plan hplan) ⟨plan.timeline, plan.output, s.callback⟩
    simp only [Engine.submitPlan, hs, Scripted.engine]
    rcases hx : Scripted.submit ⟨plan.timeline, plan.output, s.callback⟩ w.engine with
      ⟨_ | e | breakdown, state, logs⟩
    · exact absurd (congrArg Exchange.reply hx) (hreply _)
    · rw [hx] at hstate
      exact ⟨hstate, statusCode_ne_ok (.ofRenderError e)⟩
    · rw [hx] at hstate
      exact ⟨hstate, statusCode_ne_ok (.ofBreakdown breakdown)⟩

/-- At all other routes nothing is handed to the engine. -/
theorem answer_sameRecord (hs : s.engine = Scripted.engine) (h : route ∉ videoRoutes) :
    w.engine.SameRecord (s.answer m r w route).2.engine := by
  rcases @answer_elsewhere _ s m r w route h with ⟨hengine, -⟩ | ⟨-, id, -, -, hengine, -⟩
  · exact .of_eq hengine
  · rw [hengine, hs]
    exact Scripted.status_sameRecord id

theorem reaches_of_grants {g : Grant} (h : s.Grants m r session g) :
    s.Reaches m r session (videoRoute g.video) :=
  reaches_of_asks h.posted h.short h.asks h.admitted

theorem grants_of_reaches (h : s.Reaches m r session route) (hroute : route ∈ videoRoutes)
    (hasks : r.Asks s.config.maxBodySize video) {plan : RenderPlan} (hplan : video.plan = .ok plan)
    (hwilling : session.world.engine.IsWilling) : s.Grants m r session ⟨video, plan⟩ where
  posted := posted_of_reaches h hroute
  short := h.short
  asks := hasks
  admitted := (admits_eq_none_iff (isLimited_of_mem hroute)).mp h.admitted
  planned := hplan
  willing := hwilling

theorem videoJson_eq_report (g : Grant) (number : Nat) :
    videoJson g.video g.plan ⟨Scripted.jobName number, .queued⟩ = g.report number := by
  cases hv : g.video <;>
    simp [videoJson, Grant.report, hv, titleJson, scenesJson, cardJson, Wire.toJson, Wire.member,
      Scripted.jobName, Vocabulary.word]

/-- A request that is granted adds its video to the record, and its answer names the job. -/
theorem handle_of_grants (hs : s.engine = Scripted.engine) {g : Grant}
    (h : s.Grants m r session g) :
    (s.handle m r session).1.status = 200 ∧
      (s.handle m r session).1.content =
        .json (g.report (session.world.engine.accepted + 1)) ∧
      (s.handle m r session).2.world.engine =
        session.world.engine.accepting (g.submission s.callback) := by
  have hreaches := reaches_of_grants h
  obtain ⟨-, -, hengine⟩ := handle_of_reaches hreaches
  obtain ⟨hdone, haccepting⟩ := @submitVideo_of_willing s (entered m r session (videoRoute g.video))
    g.video hs h.willing g.plan h.planned (videoJson g.video)
  rw [← answer_of_asks h.asks] at hdone haccepting
  obtain ⟨hstatus, hcontent⟩ := handle_of_done hreaches (by simp [h.posted]) rfl hdone
  refine ⟨hstatus, ?_, hengine.trans haccepting⟩
  rw [hcontent, ← videoJson_eq_report g]
  rfl

/-- A request that is not granted leaves the record; and if it was to be, its status says that it
failed. -/
theorem handle_of_not_grants (hs : s.engine = Scripted.engine)
    (h : ∀ g, ¬s.Grants m r session g) :
    session.world.engine.SameRecord (s.handle m r session).2.world.engine ∧
      (r.method = "POST" → r.path ∈ videoPaths.map String.toList →
        (s.handle m r session).1.status ≠ 200) := by
  by_cases hreaches : ∃ route, s.Reaches m r session route
  · obtain ⟨route, hreaches⟩ := hreaches
    obtain ⟨hstatus, -, hengine⟩ := handle_of_reaches hreaches
    rw [hstatus, hengine]
    by_cases hroute : route ∈ videoRoutes
    · rcases answer_of_mem hreaches hroute (entered m r session route) with
        ⟨video, hasks, -, hanswer⟩ | ⟨-, message, hanswer⟩
      · rw [hanswer]
        obtain ⟨hleft, hfailed⟩ := @submitVideo_of_not_willing s (entered m r session route) video hs
          (fun plan hplan hwilling =>
            h _ (grants_of_reaches hreaches hroute hasks hplan hwilling)) (videoJson video)
        exact ⟨.of_eq hleft, fun _ _ => hfailed⟩
      · rw [hanswer]
        exact ⟨.refl _, fun _ _ => (refuse_fails _ _).2⟩
    · have hleft := @answer_sameRecord s m r (entered m r session route) route hs hroute
      refine ⟨hleft, fun _ hvideo => ?_⟩
      obtain ⟨other, hother, hpath⟩ := mem_videoPaths_iff.mp hvideo
      have hroute' : s.route? r = some other :=
        (route?_eq_some_iff (ne_metrics_of_mem hother)).mpr hpath
      have hsame : route = other := Option.some.inj (hreaches.route_eq.symm.trans hroute')
      exact absurd (hsame ▸ hother) hroute
  · obtain ⟨hengine, hstatus⟩ := handle_of_not_reaches (not_exists.mp hreaches)
    refine ⟨.of_eq hengine, fun hposted _ hok => ?_⟩
    have hfailed := hstatus (by simp [hposted])
    rw [hok] at hfailed
    exact absurd hfailed (by decide)

end Server

end Storyboard.Service
