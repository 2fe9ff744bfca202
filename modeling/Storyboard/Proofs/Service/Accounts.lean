import Storyboard.Proofs.Request.Planning
import Storyboard.Proofs.Service.Counting
import Storyboard.Proofs.Service.Trial

/-!
# Accounts of the service

What is counted of a service on trial agrees with what has happened. An account is kept of a trial
that knows nothing of events: the videos that were brought to the service with what came of each,
and the answers that were given. Every request adds to the account and notes down events, and what
it adds to one is what it adds to the other, whether it is turned back by a layer, refused for its
body, rejected for its video, or ends in a breakdown of the engine.

`Server.handle_adds` is the step, `Server.run_agrees` the run, and `Server.onTrial_balances` puts
the numbers that are shown in place of the events.
-/

namespace Storyboard.Service

/-! ## Attempts -/

/-- The video that the body of a request asks for. -/
def Request.video? (r : Request) (limit : Nat) : Option VideoRequest :=
  match Route.ofPath? r.path with
  | some .title => (r.read Wire.reader limit).toOption.map .singleTitle
  | some .scenes => (r.read Wire.reader limit).toOption.map .scenes
  | some .card => (r.read Wire.reader limit).toOption.map .card
  | _ => none

/-- What comes of a video that is brought to the service. -/
inductive Fate
  /-- There is no plan of it, and the engine does not get to know of it. -/
  | unplanned
  /-- The engine accepts it. -/
  | accepted
  /-- The engine answers with an error. -/
  | refused
  /-- The engine breaks down over it. -/
  | broken
deriving DecidableEq, Repr

/-- A video that is brought to the service, and what comes of it. -/
structure Attempt where
  /-- The video. -/
  video : VideoRequest
  /-- What comes of it. -/
  fate : Fate

namespace Attempt

/-- What is handed to the engine for a video. -/
def submission? (callback : Option String) (a : Attempt) : Option RenderSubmission :=
  a.video.plan.toOption.map fun plan => ⟨plan.timeline, plan.output, callback⟩

/-- What the engine has accepted. -/
def accepted? (callback : Option String) (a : Attempt) : Option RenderSubmission :=
  if a.fate = .accepted then a.submission? callback else none

/-- Whether a video is of a kind and came to an end. -/
def endsAs (kind : VideoKind) (fate : Fate) (a : Attempt) : Bool :=
  a.video.kind = kind ∧ a.fate = fate

/-- The events of a video. -/
def events (a : Attempt) : List Event :=
  match a.fate with
  | .unplanned => [.videoRejected a.video.kind]
  | .accepted => [.submission a.video.kind true, .videoAccepted a.video.kind]
  | .refused => [.submission a.video.kind false]
  | .broken => []

end Attempt

/-- Whether an event is about a video. -/
def isVideoEvent : Event → Bool
  | .submission .. | .videoAccepted _ | .videoRejected _ => true
  | .poll _ | .arrived | .answered .. | .turnedAway _ => false

namespace Server

variable {σ : Type} (s : Server σ) (m : Moment) (r : Request) (session : Session σ)

/-- What comes of a video that the service hands on. -/
def fate (video : VideoRequest) (engine : σ) : Fate :=
  match video.plan with
  | .error _ => .unplanned
  | .ok plan =>
    match (s.engine.submit ⟨plan.timeline, plan.output, s.callback⟩ engine).reply with
    | .ok _ => .accepted
    | .failed _ => .refused
    | .crashed _ => .broken

/-- The video that a request brings to the service, if it is posted, not announced as too long, let
in by the limiter, and readable. -/
def video? : Option VideoRequest :=
  if r.method = "POST" ∧ r.announcedSize?.getD 0 ≤ s.config.maxBodySize ∧
      (r.client?.all fun a => (session.limiter.check m.elapsed a).1) = true then
    r.video? s.config.maxBodySize
  else none

/-- The attempt that a request is. -/
def attempt? : Option Attempt :=
  (s.video? m r session).map fun video => ⟨video, s.fate video session.world.engine⟩

end Server

theorem Request.video?_eq_some_iff {r : Request} {limit : Nat} {video : VideoRequest} :
    r.video? limit = some video ↔ r.Asks limit video := by
  constructor
  · intro h
    unfold video? at h
    split at h
    · rename_i hpath
      obtain ⟨v, hread, rfl⟩ := Option.map_eq_some_iff.mp h
      exact .title (ofPath?_title_iff.mp hpath) (toOption_eq_some_iff.mp hread)
    · rename_i hpath
      obtain ⟨v, hread, rfl⟩ := Option.map_eq_some_iff.mp h
      exact .scenes (ofPath?_scenes_iff.mp hpath) (toOption_eq_some_iff.mp hread)
    · rename_i hpath
      obtain ⟨v, hread, rfl⟩ := Option.map_eq_some_iff.mp h
      exact .card (ofPath?_card_iff.mp hpath) (toOption_eq_some_iff.mp hread)
    · exact absurd h (by simp)
  · intro h
    unfold video?
    rw [Server.ofPath?_of_asks h]
    cases h with
    | title _ hread => simp [videoRoute, hread, Except.toOption]
    | scenes _ hread => simp [videoRoute, hread, Except.toOption]
    | card _ hread => simp [videoRoute, hread, Except.toOption]

/-! ## What a request adds -/

/-- What a request adds to the account and to the state of the engine is what it notes down. -/
structure Adds (callback : Option String) (attempt : Option Attempt) (noted : List Event)
    (before after : Scripted) : Prop where
  /-- Of its video just what came of it is noted down. -/
  videos : noted.filter isVideoEvent = attempt.toList.flatMap Attempt.events
  /-- The record grows by its video if that was accepted. -/
  record : after.submissions = before.submissions ++
    attempt.toList.filterMap (Attempt.accepted? callback)
  /-- Every question for a job is noted down. -/
  polls : after.statusCalls = before.statusCalls + noted.countP Event.isPoll
  /-- Nothing is taken for an arrival. -/
  arrivals : noted.count .arrived = 0
  /-- Nothing is taken for an answer. -/
  answers : noted.filterMap Event.answer? = []

theorem Adds.nothing (callback : Option String) (e : Scripted) : Adds callback none [] e e :=
  ⟨rfl, by simp, rfl, rfl, rfl⟩

/-- The plan of a video is of the kind that was asked for. -/
theorem kind_of_plan {video : VideoRequest} {plan : RenderPlan} (h : video.plan = .ok plan) :
    plan.kind = video.kind := by
  obtain ⟨v, hv, hplan⟩ := bind_eq_ok_iff.mp h
  obtain ⟨visual, -, hrest⟩ := bind_eq_ok_iff.mp hplan
  obtain ⟨timeline, -, hmade⟩ := bind_eq_ok_iff.mp hrest
  obtain rfl := Except.ok.inj hmade
  have hlabel : Vocabulary.word v.kind = video.label := (resolve_answers hv).label_eq
  refine VideoKind.word_inj.mp (hlabel.trans ?_)
  cases video with
  | singleTitle _ => rfl
  | scenes _ => rfl
  | card r => cases hkind : r.kind <;> simp [VideoRequest.label, VideoRequest.kind, hkind,
      CardKind.videoKind, Vocabulary.word]

namespace Server

section Requests

variable {s : Server Scripted} {m : Moment} {r : Request} {session : Session Scripted}
  {w : World Scripted} {video : VideoRequest}

theorem video?_eq_some_iff : s.video? m r session = some video ↔
    s.Reaches m r session (videoRoute video) ∧ r.Asks s.config.maxBodySize video := by
  have hmem := videoRoute_mem video
  unfold video?
  rw [Option.ite_none_right_eq_some, Request.video?_eq_some_iff]
  constructor
  · rintro ⟨⟨hposted, hshort, hadmitted⟩, hasks⟩
    refine ⟨reaches_of_asks hposted hshort hasks fun a ha => ?_, hasks⟩
    simpa [ha] using hadmitted
  · rintro ⟨hreaches, hasks⟩
    refine ⟨⟨posted_of_reaches hreaches hmem, hreaches.short, ?_⟩, hasks⟩
    have hadmitted := (admits_eq_none_iff (isLimited_of_mem hmem)).mp hreaches.admitted
    cases hclient : r.client? with
    | none => rfl
    | some a => exact hadmitted a hclient

theorem attempt?_of_asks (hreaches : s.Reaches m r session (videoRoute video))
    (hasks : r.Asks s.config.maxBodySize video) :
    s.attempt? m r session = some ⟨video, s.fate video session.world.engine⟩ := by
  unfold attempt?
  rw [video?_eq_some_iff.mpr ⟨hreaches, hasks⟩]
  rfl

theorem attempt?_eq_none (h : ∀ video, s.Reaches m r session (videoRoute video) →
    ¬r.Asks s.config.maxBodySize video) : s.attempt? m r session = none := by
  unfold attempt?
  cases hvideo : s.video? m r session with
  | none => rfl
  | some video =>
    obtain ⟨hreaches, hasks⟩ := video?_eq_some_iff.mp hvideo
    exact absurd hasks (h video hreaches)

/-- A video that is handed on. -/
theorem submitVideo_adds (hs : s.engine = Scripted.engine)
    (answer : RenderPlan → SubmittedJob → Json) :
    ∃ noted, (s.submitVideo answer video w).2.events = w.events ++ noted ∧
      Adds s.callback (some ⟨video, s.fate video w.engine⟩) noted w.engine
        (s.submitVideo answer video w).2.engine := by
  unfold submitVideo fate
  cases hplan : video.plan with
  | error e =>
    refine ⟨[.videoRejected video.kind], rfl, ?_⟩
    exact ⟨rfl, by simp [refuse, fail, World.count, Attempt.accepted?], rfl, rfl, rfl⟩
  | ok plan =>
    have hkind := kind_of_plan hplan
    by_cases hwilling : w.engine.IsWilling
    · have hsubmit :=
        Scripted.submit_of_willing hwilling ⟨plan.timeline, plan.output, s.callback⟩
      simp only [Engine.submitPlan, hs, Scripted.engine, hsubmit, hkind]
      refine ⟨[.submission video.kind true, .videoAccepted video.kind], ?_, ?_⟩
      · simp [World.count, World.after]
      · exact ⟨rfl, by simp [World.count, World.after, Scripted.accepting, Attempt.accepted?,
          Attempt.submission?, hplan, Except.toOption], rfl, rfl, rfl⟩
    · obtain ⟨hstate, hreply⟩ :=
        Scripted.submit_of_not_willing hwilling ⟨plan.timeline, plan.output, s.callback⟩
      simp only [Engine.submitPlan, hs, Scripted.engine]
      rcases hx : Scripted.submit ⟨plan.timeline, plan.output, s.callback⟩ w.engine with
        ⟨_ | e | breakdown, state, logs⟩
      · exact absurd (congrArg Exchange.reply hx) (hreply _)
      · rw [hx] at hstate
        obtain rfl : state = w.engine := hstate
        refine ⟨[.submission plan.kind false], rfl, ?_⟩
        exact ⟨by rw [hkind]; rfl, by simp [refuse, fail, World.count, World.after, World.log,
          Attempt.accepted?], rfl, rfl, rfl⟩
      · rw [hx] at hstate
        obtain rfl : state = w.engine := hstate
        refine ⟨[], by simp [World.after], ?_⟩
        exact ⟨rfl, by simp [World.after, Attempt.accepted?], rfl, rfl, rfl⟩

/-- A question for a job. -/
theorem poll_adds (hs : s.engine = Scripted.engine) (id : JobId) :
    ∃ noted, (s.engine.poll id w).2.events = w.events ++ noted ∧
      Adds s.callback none noted w.engine (s.engine.status id w.engine).state := by
  have hrecord := (@Scripted.status_sameRecord w.engine id).submissions_eq
  obtain ⟨hcalls, hcrash⟩ := @Scripted.status_counts w.engine id
  have hadds (status : Option RenderStatus) :
      Adds s.callback none [.poll status] w.engine (Scripted.status id w.engine).state :=
    ⟨rfl, hrecord.trans (List.append_nil _).symm, hcalls, rfl, rfl⟩
  simp only [Engine.poll, hs, Scripted.engine]
  rcases hx : Scripted.status id w.engine with ⟨job | e | breakdown, state, logs⟩
  · exact ⟨[.poll (some job.status)], rfl, hx ▸ hadds (some job.status)⟩
  · exact ⟨[.poll none], rfl, hx ▸ hadds none⟩
  · exact absurd (congrArg Exchange.reply hx) (hcrash breakdown)

/-- At the routes that are not for videos. -/
theorem answer_adds (hs : s.engine = Scripted.engine) {route : Route} (h : route ∉ videoRoutes) :
    ∃ noted, (s.answer m r w route).2.events = w.events ++ noted ∧
      Adds s.callback none noted w.engine (s.answer m r w route).2.engine := by
  rcases @answer_elsewhere _ s m r w route h with
    ⟨hengine, hevents⟩ | ⟨-, id, -, -, hengine, hevents⟩
  · rw [hengine, hevents]
    exact ⟨[], (List.append_nil _).symm, .nothing _ _⟩
  · rw [hengine, hevents]
    exact poll_adds hs id

/-- A request that is no question for the outermost layer is counted when it comes in and when it is
answered, and in between it adds to the account what it notes down. -/
theorem handle_adds (hs : s.engine = Scripted.engine) (hoptions : r.method ≠ "OPTIONS") :
    ∃ noted, (s.handle m r session).2.world.events = session.world.events ++ .arrived :: noted ++
        [.answered r.method (String.ofList r.path) (s.handle m r session).1.status] ∧
      Adds s.callback (s.attempt? m r session) noted session.world.engine
        (s.handle m r session).2.world.engine := by
  by_cases hreaches : ∃ route, s.Reaches m r session route
  · obtain ⟨route, hreaches⟩ := hreaches
    rw [handle_events_of_reaches hreaches, (handle_of_reaches hreaches).2.2]
    suffices hadds : ∃ noted,
        (s.answer m r (entered m r session route) route).2.events =
          (entered m r session route).events ++ noted ∧
        Adds s.callback (s.attempt? m r session) noted (entered m r session route).engine
          (s.answer m r (entered m r session route) route).2.engine by
      obtain ⟨noted, hevents, hadds⟩ := hadds
      exact ⟨noted, by rw [hevents]; simp [entered], hadds⟩
    by_cases hroute : route ∈ videoRoutes
    · rcases answer_of_mem hreaches hroute (entered m r session route) with
        ⟨video, hasks, rfl, hanswer⟩ | ⟨hnone, message, hanswer⟩
      · rw [hanswer, attempt?_of_asks hreaches hasks]
        exact submitVideo_adds hs (videoJson video)
      · rw [hanswer, attempt?_eq_none fun video _ => hnone video]
        exact ⟨[], (List.append_nil _).symm, .nothing _ _⟩
    · rw [attempt?_eq_none fun video hvideo _ => hroute ?_]
      · exact answer_adds hs hroute
      · rw [← Option.some.inj (hvideo.route_eq.symm.trans hreaches.route_eq)]
        exact videoRoute_mem video
  · have hnone := not_exists.mp hreaches
    rw [(handle_of_not_reaches hnone).1, attempt?_eq_none fun video hvideo => absurd hvideo (hnone _)]
    obtain ⟨turned, hturned, hevents⟩ := handle_events_of_not_reaches hoptions hnone
    refine ⟨turned, hevents, ?_⟩
    generalize (s.handle m r session).1.status = code at hturned
    cases hturned with
    | unfit => exact .nothing _ _
    | limited => exact ⟨rfl, by simp, rfl, rfl, rfl⟩

theorem attempt?_of_options (hoptions : r.method = "OPTIONS") : s.attempt? m r session = none :=
  attempt?_eq_none fun _ hreaches => absurd hoptions hreaches.ne_options

end Requests

/-! ## Accounts of trials -/

/-- A request and what it met. -/
structure Visit where
  /-- When it came. -/
  moment : Moment
  /-- The request. -/
  request : Request
  /-- The session that it found. -/
  session : Session Scripted

section Trials

variable (s : Server Scripted)

/-- The requests of a trial. -/
def visits : Session Scripted → List Happening → List Visit
  | _, [] => []
  | session, h :: rest =>
    match h with
    | .request m r => ⟨m, r, session⟩ :: visits (s.after session h) rest
    | _ => visits (s.after session h) rest

/-- The videos that are brought to the service in a trial, in order. -/
def attempts (session : Session Scripted) (past : List Happening) : List Attempt :=
  (s.visits session past).filterMap fun v => s.attempt? v.moment v.request v.session

/-- The method, the path and the status of every answer in a trial, in order. The outermost layer
answers for itself. -/
def answers (session : Session Scripted) (past : List Happening) : List (String × String × Nat) :=
  ((s.visits session past).filter fun v => v.request.method ≠ "OPTIONS").map fun v =>
    (v.request.method, String.ofList v.request.path,
      (s.handle v.moment v.request v.session).1.status)

/-- The notes of a session and the state of the engine agree with an account. -/
structure Agrees (attempts : List Attempt) (answers : List (String × String × Nat))
    (session : Session Scripted) : Prop where
  /-- What is noted down of videos is what came of them. -/
  videos : session.world.events.filter isVideoEvent = attempts.flatMap Attempt.events
  /-- The record holds what was accepted. -/
  record : session.world.engine.submissions = attempts.filterMap (Attempt.accepted? s.callback)
  /-- The questions for jobs are noted down. -/
  polls : session.world.events.countP Event.isPoll = session.world.engine.statusCalls
  /-- There were as many arrivals as answers. -/
  arrivals : session.world.events.count .arrived = answers.length
  /-- The answers are noted down. -/
  answers_eq : session.world.events.filterMap Event.answer? = answers

variable {s} {session : Session Scripted} {as : List Attempt} {bs : List (String × String × Nat)}

/-- What a request adds keeps the agreement. -/
theorem Agrees.adds {m : Moment} {r : Request} (hs : s.engine = Scripted.engine)
    (h : s.Agrees as bs session) (hoptions : r.method ≠ "OPTIONS") :
    s.Agrees (as ++ (s.attempt? m r session).toList)
      (bs ++ [(r.method, String.ofList r.path, (s.handle m r session).1.status)])
      (s.handle m r session).2 := by
  obtain ⟨noted, hevents, hadds⟩ := @handle_adds s m r session hs hoptions
  refine ⟨?_, ?_, ?_, ?_, ?_⟩
  · -- videos
    rw [hevents]
    simp [isVideoEvent, hadds.videos, h.videos]
  · -- record
    rw [hadds.record, h.record, List.filterMap_append]
  · -- polls
    rw [hevents, hadds.polls, ← h.polls]
    simp [Event.isPoll]
  · -- arrivals
    rw [hevents]
    simp [hadds.arrivals, h.arrivals]
  · -- answers_eq
    rw [hevents]
    simp [List.filterMap_cons, Event.answer?, hadds.answers, h.answers_eq]

/-- What is no request and is not noted down leaves the account. -/
theorem Agrees.of_unnoted {x : Happening} (h : s.Agrees as bs session)
    (hvisits : s.visits session [x] = [])
    (hevents : (s.after session x).world.events = session.world.events)
    (hrecord : (s.after session x).world.engine.submissions = session.world.engine.submissions)
    (hcalls : (s.after session x).world.engine.statusCalls = session.world.engine.statusCalls) :
    s.Agrees (as ++ s.attempts session [x]) (bs ++ s.answers session [x]) (s.after session x) := by
  rw [attempts, answers, hvisits]
  simp only [List.filterMap_nil, List.filter_nil, List.map_nil, List.append_nil]
  exact
    { videos := hevents ▸ h.videos
      record := hrecord.trans h.record
      polls := by rw [hevents, hcalls, h.polls]
      arrivals := hevents ▸ h.arrivals
      answers_eq := hevents ▸ h.answers_eq }

/-- Whatever happens, the agreement is kept with what it adds to the account. -/
theorem Agrees.after (hs : s.engine = Scripted.engine) (h : s.Agrees as bs session)
    (x : Happening) : s.Agrees (as ++ s.attempts session [x]) (bs ++ s.answers session [x])
      (s.after session x) := by
  cases x with
  | request m r =>
    by_cases hoptions : r.method = "OPTIONS"
    · have hsame : (s.handle m r session).2 = session := by simp [handle, hoptions]
      have has : s.attempts session [.request m r] = [] := by
        simp [attempts, visits, attempt?_of_options hoptions]
      have hbs : s.answers session [.request m r] = [] := by simp [answers, visits, hoptions]
      rw [has, hbs, List.append_nil, List.append_nil, Server.after, hsame]
      exact h
    · have has : s.attempts session [.request m r] = (s.attempt? m r session).toList := by
        rw [attempts, visits, visits, List.filterMap_cons]
        cases s.attempt? m r session <;> rfl
      have hbs : s.answers session [.request m r] =
          [(r.method, String.ofList r.path, (s.handle m r session).1.status)] := by
        simp [answers, visits, hoptions]
      rw [has, hbs]
      exact h.adds hs hoptions
  | clock now => exact h.of_unnoted rfl rfl rfl rfl
  | reject status message => exact h.of_unnoted rfl rfl rfl rfl
  | crash message => exact h.of_unnoted rfl rfl rfl rfl
  | setStatus id status => exact h.of_unnoted rfl rfl rfl rfl
  | script id statuses => exact h.of_unnoted rfl rfl rfl rfl

theorem visits_cons (x : Happening) (rest : List Happening) :
    s.visits session (x :: rest) = s.visits session [x] ++ s.visits (s.after session x) rest := by
  cases x <;> rfl

/-- However a trial goes, the notes agree with its account. -/
theorem run_agrees (hs : s.engine = Scripted.engine) (past : List Happening)
    (h : s.Agrees as bs session) :
    s.Agrees (as ++ s.attempts session past) (bs ++ s.answers session past)
      (s.run session past) := by
  induction past generalizing session as bs with
  | nil => simpa [attempts, answers, visits, run] using h
  | cons x rest ih =>
    have hrest := ih (h.after hs x)
    rw [List.append_assoc, List.append_assoc] at hrest
    have has : s.attempts session (x :: rest) =
        s.attempts session [x] ++ s.attempts (s.after session x) rest := by
      rw [attempts, visits_cons, List.filterMap_append]
      rfl
    have hbs : s.answers session (x :: rest) =
        s.answers session [x] ++ s.answers (s.after session x) rest := by
      rw [answers, visits_cons, List.filter_append, List.map_append]
      rfl
    rw [has, hbs]
    exact hrest

theorem start_agrees : s.Agrees [] [] (s.start {}) := ⟨rfl, rfl, rfl, rfl, rfl⟩

end Trials

end Server

/-! ## What is shown -/

/-- Whether something that happens is a request that gets as far as being counted. -/
def Happening.isCounted : Happening → Bool
  | .request _ r => r.method ≠ "OPTIONS"
  | _ => false

namespace Server

variable {s : Server Scripted} {session : Session Scripted} {past : List Happening}

/-- What is shown after a trial agrees with what has happened in it. -/
structure Balances (s : Server Scripted) (past : List Happening) (events : List Event)
    (engine : Scripted) (attempts : List Attempt) (answers : List (String × String × Nat)) :
    Prop where
  /-- Of each kind, the requests that were granted are the videos that the engine accepted. -/
  granted : ∀ kind,
    Metrics.sum events "vgen_render_requests_total" [("kind", Vocabulary.word kind)] =
      attempts.countP (Attempt.endsAs kind .accepted)
  /-- So are the videos that were handed over with success. -/
  accepted : ∀ kind,
    Metrics.sum events "render_submissions_total"
      [("kind", Vocabulary.word kind), ("outcome", "success")] =
      attempts.countP (Attempt.endsAs kind .accepted)
  /-- The others that were handed over are those that the engine answered with an error. -/
  refused : ∀ kind,
    Metrics.sum events "render_submissions_total"
      [("kind", Vocabulary.word kind), ("outcome", "failure")] =
      attempts.countP (Attempt.endsAs kind .refused)
  /-- Of each kind, the requests that were rejected are the videos that could not be planned. -/
  rejected : ∀ kind,
    Metrics.sum events "vgen_render_rejections_total" [("kind", Vocabulary.word kind)] =
      attempts.countP (Attempt.endsAs kind .unplanned)
  /-- The accepted videos are those that the engine has on record. -/
  record : engine.submissions = attempts.filterMap (Attempt.accepted? s.callback)
  /-- The looks at jobs are the questions that the engine was asked. -/
  polled : Metrics.sum events "render_status_polls_total" [] = engine.statusCalls
  /-- Every request is counted but those that the outermost layer answers. -/
  counted : Metrics.sum events "vgen_http_requests_total" [] = past.countP Happening.isCounted
  /-- Each is counted once, under the method, the path and the status of its answer. -/
  answered : ∀ labels, Metrics.total events ⟨"vgen_http_requests_total", labels⟩ =
    answers.countP fun a => answerLabels a.1 a.2.1 a.2.2 = labels
  /-- No request is left that is not answered. -/
  settled : events.count .arrived = events.countP Metrics.isAnswer ∧ Metrics.inFlight events = 0

theorem length_answers : (s.answers session past).length = past.countP Happening.isCounted := by
  induction past generalizing session with
  | nil => rfl
  | cons x rest ih =>
    have hrest := @ih (s.after session x)
    cases x with
    | request m r =>
      by_cases hoptions : r.method = "OPTIONS" <;>
        simpa [answers, visits, Happening.isCounted, hoptions] using hrest
    | _ => simpa [answers, visits, Happening.isCounted] using hrest

/-- An event tells of one fate of the videos of a kind. -/
inductive TellsOf (kind : VideoKind) : Event → Fate → Prop
  /-- The request was granted. -/
  | granted : TellsOf kind (.videoAccepted kind) .accepted
  /-- The video was handed over with success. -/
  | accepted : TellsOf kind (.submission kind true) .accepted
  /-- It was handed over in vain. -/
  | refused : TellsOf kind (.submission kind false) .refused
  /-- The request was rejected. -/
  | rejected : TellsOf kind (.videoRejected kind) .unplanned

theorem TellsOf.count_events {kind : VideoKind} {e : Event} {fate : Fate}
    (h : TellsOf kind e fate) (a : Attempt) :
    a.events.count e = if a.endsAs kind fate then 1 else 0 := by
  cases h <;> rcases a with ⟨video, _ | _ | _ | _⟩ <;>
    simp [Attempt.events, Attempt.endsAs, List.count_cons]

/-- An event occurs as often as the fate that it tells of. -/
theorem Agrees.count_eq {as : List Attempt} {bs : List (String × String × Nat)}
    (h : s.Agrees as bs session) {e : Event} {kind : VideoKind} {fate : Fate}
    (he : TellsOf kind e fate) :
    session.world.events.count e = as.countP (Attempt.endsAs kind fate) := by
  have hvideo : isVideoEvent e = true := by cases he <;> rfl
  rw [← List.count_filter hvideo, h.videos]
  exact countP_flatMap_of_ite he.count_events as

theorem countP_isAnswer (events : List Event) :
    events.countP Metrics.isAnswer = (events.filterMap Event.answer?).length := by
  rw [List.length_filterMap_eq_countP]
  refine List.countP_congr fun e _ => ?_
  cases e <;> simp [Metrics.isAnswer, Event.answer?]

theorem Agrees.balances (h : s.Agrees (s.attempts (s.start {}) past) (s.answers (s.start {}) past)
      session) :
    s.Balances past session.world.events session.world.engine (s.attempts (s.start {}) past)
      (s.answers (s.start {}) past) := by
  have hsettled : session.world.events.count .arrived =
      session.world.events.countP Metrics.isAnswer := by
    rw [countP_isAnswer, h.answers_eq, h.arrivals]
  exact
    { granted := fun kind => (Metrics.sum_requests kind).trans (h.count_eq .granted)
      accepted := fun kind => (Metrics.sum_submissions kind true).trans (h.count_eq .accepted)
      refused := fun kind => (Metrics.sum_submissions kind false).trans (h.count_eq .refused)
      rejected := fun kind => (Metrics.sum_rejections kind).trans (h.count_eq .rejected)
      record := h.record
      polled := Metrics.sum_polls.trans h.polls
      counted := by rw [Metrics.sum_answers, h.answers_eq, length_answers]
      answered := fun labels => by rw [Metrics.total_answers, h.answers_eq]
      settled := ⟨hsettled, by rw [Metrics.inFlight, hsettled, Nat.sub_self]⟩ }

end Server

end Storyboard.Service
