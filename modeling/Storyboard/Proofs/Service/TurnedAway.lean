import Storyboard.Proofs.Service.Counting
import Storyboard.Proofs.Service.Labels
import Storyboard.Proofs.Service.Trial

/-!
# Requests that are turned away

A request that is one too many is counted twice. The layer that counts all answers stands outermost
and labels an answer with the whole path; the limiter stands below `/api`, sees only the rest of the
path, and labels what it turns away with that. It takes the `/api` in front of a label of the limiter
to get the label of the answers, so under one and the same label the two counts never agree, unless
both are zero.

`Server.Tallied` relates the events that both note down, in order; `Server.handle_tallied` is the
step that keeps it and `Server.serveAll_tallied` the run.
-/

namespace Storyboard

/-! ## Labels -/

namespace Event

/-- The label of a request that the limiter has turned away. -/
def hitLabel? : Event → Option String
  | .turnedAway path => some (String.ofList (Service.pathLabel path.toList))
  | _ => none

/-- The label of the path of a request that was answered to be one too many. -/
def excessLabel? : Event → Option String
  | .answered _ path code =>
    if code = 429 then some (String.ofList (Service.pathLabel path.toList)) else none
  | _ => none

end Event

namespace Service

/-! ## What a route notes down -/

/-- These events say nothing of requests that are one too many. -/
structure Quiet (noted : List Event) : Prop where
  hits_eq : noted.filterMap Event.hitLabel? = []
  excess_eq : noted.filterMap Event.excessLabel? = []

namespace Server

section Routes

variable {σ : Type} {s : Server σ} {m : Moment} {r : Request} {w : World σ}

/-- What comes of a request says nothing of requests that are one too many. -/
structure Calm (w : World σ) (x : Outcome Response × World σ) : Prop where
  /-- The answer does not. -/
  status_ne : x.1.response.status ≠ 429
  /-- Nor does anything that is noted down. -/
  quiet : ∃ noted, x.2.events = w.events ++ noted ∧ Quiet noted

theorem calm_refuse {e : Error} (noted : List Event) (hquiet : Quiet noted)
    (he : e.statusCode ≠ 429) {after : World σ} (hevents : after.events = w.events ++ noted) :
    Calm w (refuse e after) := ⟨he, noted, hevents, hquiet⟩

theorem statusCode_ofRenderError_ne (e : RenderError) :
    (Error.ofRenderError e).statusCode ≠ 429 := by
  cases e <;> simp [Error.ofRenderError, Error.statusCode]

theorem withBody_calm {α : Type} [Wire α] {next : α → World σ → Outcome Response × World σ}
    (h : ∀ a, Calm w (next a w)) : Calm w (s.withBody r next w) := by
  unfold withBody
  split
  · exact h _
  · exact calm_refuse [] ⟨rfl, rfl⟩ (by simp [Error.statusCode]) (List.append_nil _).symm

theorem submitVideo_calm (answer : RenderPlan → SubmittedJob → Json) (video : VideoRequest) :
    Calm w (s.submitVideo answer video w) := by
  unfold submitVideo
  cases video.plan with
  | error e =>
    exact calm_refuse [.videoRejected video.kind] ⟨rfl, rfl⟩
      (by simp [Error.ofRejection, Error.statusCode]) rfl
  | ok plan =>
    simp only [Engine.submitPlan]
    rcases s.engine.submit ⟨plan.timeline, plan.output, s.callback⟩ w.engine with
      ⟨id | e | breakdown, state, logs⟩
    · refine ⟨by simp [Outcome.response, Response.ofJson],
        [.submission plan.kind true, .videoAccepted video.kind], ?_, rfl, rfl⟩
      simp [World.count, World.after]
    · exact calm_refuse [.submission plan.kind false] ⟨rfl, rfl⟩ (statusCode_ofRenderError_ne e)
        rfl
    · exact ⟨by simp, [], (List.append_nil _).symm, rfl, rfl⟩

theorem previewVideo_calm (video : VideoRequest) : Calm w (previewVideo video w) := by
  unfold previewVideo
  split
  · exact calm_refuse [] ⟨rfl, rfl⟩ (by simp [Error.ofRejection, Error.statusCode])
      (List.append_nil _).symm
  · exact ⟨by simp [Outcome.response, Response.ofJson], [], (List.append_nil _).symm, rfl, rfl⟩

theorem report_calm (segment : List Char) : Calm w (s.report segment w) := by
  unfold report
  split
  · exact ⟨by simp [Outcome.response, Response.ofText], [], (List.append_nil _).symm, rfl, rfl⟩
  · split
    · exact calm_refuse [] ⟨rfl, rfl⟩ (by simp [Error.statusCode]) (List.append_nil _).symm
    · rename_i id hid
      simp only [Engine.poll]
      rcases s.engine.status id w.engine with ⟨job | e | breakdown, state, logs⟩
      · exact ⟨by simp [Outcome.response, Response.ofJson], [.poll (some job.status)], rfl, rfl,
          rfl⟩
      · exact calm_refuse [.poll none] ⟨rfl, rfl⟩ (statusCode_ofRenderError_ne e) rfl
      · exact ⟨by simp, [], (List.append_nil _).symm, rfl, rfl⟩

theorem answer_calm (route : Route) : Calm w (s.answer m r w route) := by
  have hstill {response : Response} (h : response.status ≠ 429) :
      Calm w (.done response, w) := ⟨h, [], (List.append_nil _).symm, rfl, rfl⟩
  cases route with
  | title => exact withBody_calm fun _ => submitVideo_calm _ _
  | scenes => exact withBody_calm fun _ => submitVideo_calm _ _
  | card => exact withBody_calm fun _ => submitVideo_calm _ _
  | preview => exact withBody_calm fun video => previewVideo_calm video
  | job segment => exact report_calm segment
  | schema => exact hstill (by simp [Response.ofJson])
  | health => exact hstill (by simp [Response.ofJson])
  | readiness =>
    refine hstill ?_
    simp only [Response.ofJson]
    split <;> simp
  | metrics => exact hstill (by simp [Response.ofText])

end Routes

/-! ## Both counts -/

/-- For every request that was turned away below `/api/render`, the limiter has noted down what is
left of its path below `/api`, and the layer that counts answers its whole path, in the same
order. -/
structure Tallied (events : List Event) (lasts : List String) : Prop where
  hits_eq : events.filterMap Event.hitLabel? = lasts.map ("/render/" ++ ·)
  excess_eq : events.filterMap Event.excessLabel? = lasts.map ("/api/render/" ++ ·)

section Requests

variable {σ : Type} {s : Server σ} {m : Moment} {r : Request} {session : Session σ}
  {events : List Event} {lasts : List String}

theorem Tallied.quiet {noted : List Event} (h : Tallied events lasts) (hquiet : Quiet noted) :
    Tallied (events ++ noted) lasts := by
  constructor
  · rw [List.filterMap_append, hquiet.hits_eq, List.append_nil, h.hits_eq]
  · rw [List.filterMap_append, hquiet.excess_eq, List.append_nil, h.excess_eq]

theorem Tallied.turned {method path inner last : String} (h : Tallied events lasts)
    (hhit : Event.hitLabel? (.turnedAway inner) = some ("/render/" ++ last))
    (hexcess : Event.excessLabel? (.answered method path 429) = some ("/api/render/" ++ last)) :
    Tallied (events ++ .arrived :: [.turnedAway inner] ++ [.answered method path 429])
      (lasts ++ [last]) := by
  constructor
  · rw [List.append_assoc, List.filterMap_append, List.map_append, h.hits_eq, List.cons_append,
      List.filterMap_cons_none rfl, List.singleton_append, List.filterMap_cons_some hhit]
    rfl
  · rw [List.append_assoc, List.filterMap_append, List.map_append, h.excess_eq, List.cons_append,
      List.filterMap_cons_none rfl, List.singleton_append, List.filterMap_cons_none rfl,
      List.filterMap_cons_some hexcess]
    rfl

theorem quiet_arrived : Quiet [.arrived] := ⟨rfl, rfl⟩

theorem quiet_answered {method path : String} {code : Nat} (h : code ≠ 429) :
    Quiet [.answered method path code] := by
  refine ⟨rfl, ?_⟩
  rw [List.filterMap_cons, Event.excessLabel?, if_neg h]
  rfl

/-- The paths of a request that is turned away, below `/api` and as a whole, are labelled alike. -/
theorem labels_of_limited {route : Route} (hroute : s.route? r = some route)
    (hlimited : route.isLimited = true) :
    ∃ last : String,
      Event.hitLabel? (.turnedAway (innerPath r)) = some ("/render/" ++ last) ∧
      Event.excessLabel? (.answered r.method (String.ofList r.path) 429) =
        some ("/api/render/" ++ last) := by
  have hne : route ≠ .metrics := by
    rintro rfl
    exact absurd hlimited (by decide)
  obtain ⟨segment, hpath, hslash⟩ := Route.exists_segment_of_isLimited
    ((route?_eq_some_iff hne).mp hroute) hlimited
  have hleft : (innerPath r).toList = "/render/".toList ++ segment := by
    rw [innerPath, String.toList_ofList, hpath]
    rfl
  refine ⟨String.ofList (labelOf true segment), ?_, ?_⟩
  · rw [Event.hitLabel?, hleft, pathLabel_render hslash, String.ofList_append]
    rfl
  · rw [Event.excessLabel?, if_pos rfl, String.toList_ofList, hpath, pathLabel_apiRender hslash,
      String.ofList_append]
    rfl

/-- A request is turned away for both counts or for none. -/
theorem handle_tallied (h : Tallied session.world.events lasts) :
    ∃ more, Tallied (s.handle m r session).2.world.events (lasts ++ more) := by
  by_cases hoptions : r.method = "OPTIONS"
  · have hsame : (s.handle m r session).2 = session := by simp [handle, hoptions]
    exact ⟨[], by rw [hsame, List.append_nil]; exact h⟩
  by_cases hreaches : ∃ route, s.Reaches m r session route
  · obtain ⟨route, hreaches⟩ := hreaches
    obtain ⟨hstatus, noted, hnoted, hquiet⟩ :=
      @answer_calm _ s m r (entered m r session route) route
    rw [handle_events_of_reaches hreaches, hnoted]
    refine ⟨[], ?_⟩
    rw [List.append_nil, (handle_of_reaches hreaches).1]
    exact ((h.quiet quiet_arrived).quiet hquiet).quiet (quiet_answered hstatus)
  · obtain ⟨noted, hturns, hevents⟩ :=
      handle_events_of_not_reaches hoptions (not_exists.mp hreaches)
    rw [hevents]
    generalize (s.handle m r session).1.status = code at hturns
    cases hturns with
    | unfit failed =>
      have hne : code ≠ 429 := by
        rintro rfl
        exact absurd failed (by decide)
      exact ⟨[], by simpa using (h.quiet quiet_arrived).quiet (quiet_answered hne)⟩
    | limited hroute hlimited =>
      obtain ⟨last, hhit, hexcess⟩ := labels_of_limited hroute hlimited
      exact ⟨[last], h.turned hhit hexcess⟩

end Requests

/-! ## Runs -/

/-- A request, the moment at which it comes, and what the engine has done since the one before. -/
structure Call (σ : Type) where
  /-- The moment. -/
  moment : Moment
  /-- The request. -/
  request : Request
  /-- What the engine has done meanwhile. -/
  meanwhile : σ → σ := id

section Runs

variable {σ : Type} (s : Server σ)

/-- The session after a call. -/
def serve (session : Session σ) (c : Call σ) : Session σ :=
  (s.handle c.moment c.request
    { session with world := { session.world with engine := c.meanwhile session.world.engine } }).2

/-- The session after several calls. -/
def serveAll (session : Session σ) (calls : List (Call σ)) : Session σ := calls.foldl s.serve session

variable {s} {session : Session σ} {lasts : List String}

theorem serveAll_tallied (h : Tallied session.world.events lasts) (calls : List (Call σ)) :
    ∃ all, Tallied (s.serveAll session calls).world.events all := by
  induction calls generalizing session lasts with
  | nil => exact ⟨lasts, h⟩
  | cons c rest ih =>
    obtain ⟨more, hmore⟩ := @handle_tallied _ s c.moment c.request
      { session with world := { session.world with engine := c.meanwhile session.world.engine } }
      lasts h
    exact ih hmore

end Runs

end Server

/-! ## What is shown -/

namespace Metrics

variable {events : List Event}

/-- What is shown for the requests that the limiter has turned away under a label. -/
def hits (events : List Event) (label : String) : Nat :=
  total events ⟨"vgen_rate_limit_hits_total", [("endpoint", label)]⟩

/-- What is shown for the requests with a label that were answered to be one too many, whatever
their methods. -/
def excess (events : List Event) (label : String) : Nat :=
  sum events "vgen_http_requests_total" [("path", label), ("status", "429")]

theorem hits_eq (label : String) :
    hits events label = (events.filterMap Event.hitLabel?).count label := by
  unfold hits total
  rw [List.count_filterMap]
  refine countP_flatMap_of_ite (fun e => ?_) events
  cases e <;> simp [marks, Event.hitLabel?, List.countP_cons]

/-- A numeral tells its number. -/
theorem repr_eq_repr_iff {a b : Nat} : a.repr = b.repr ↔ a = b := by
  constructor
  · intro h
    have hdigits : Nat.toDigits 10 a = Nat.toDigits 10 b := String.ofList_injective h
    rw [← @Nat.ofDigitChars_toDigits 10 a (by decide) (by decide), hdigits,
      Nat.ofDigitChars_toDigits (by decide) (by decide)]
  · rintro rfl
    rfl

theorem excess_eq (label : String) :
    excess events label = (events.filterMap Event.excessLabel?).count label := by
  rw [List.count_filterMap]
  refine sum_eq_countP fun e => ?_
  cases e with
  | answered method path code =>
    have hcode : "429" = code.repr ↔ code = 429 := by
      rw [eq_comm]
      exact @repr_eq_repr_iff code 429
    simp only [marks, answerLabels, Event.excessLabel?]
    by_cases h : code = 429
    · have hnumeral : Nat.repr 429 = "429" := rfl
      simp [List.countP_cons, h, hnumeral, @eq_comm _ label]
    · simp [hcode, h]
  | _ => simp [marks, Event.excessLabel?]

/-- What the answers show with `/api` in front of a label is what the limiter shows under it. Under
a label for which the limiter shows something, the answers show nothing. -/
theorem counts_of_tallied {lasts : List String} (h : Server.Tallied events lasts)
    (label : String) :
    excess events ("/api" ++ label) = hits events label ∧
      (0 < hits events label → excess events label = 0) := by
  have hhits : hits events label = (lasts.map ("/render/" ++ ·)).count label := by
    rw [hits_eq, h.hits_eq]
  have hexcess (other : String) :
      excess events other = (lasts.map ("/api/render/" ++ ·)).count other := by
    rw [excess_eq, h.excess_eq]
  constructor
  · have hapi : lasts.map ("/api/render/" ++ ·) = (lasts.map ("/render/" ++ ·)).map ("/api" ++ ·) := by
      rw [List.map_map]
      refine List.map_congr_left fun last _ => ?_
      rw [Function.comp_apply, ← String.append_assoc]
      rfl
    rw [hexcess, hhits, hapi]
    exact List.count_map_of_injective _ _ (fun a b => (String.append_right_inj "/api").mp) label
  · intro hpos
    rw [hhits, List.count_pos_iff] at hpos
    obtain ⟨last, -, rfl⟩ := List.mem_map.mp hpos
    rw [hexcess, List.count_eq_zero]
    intro hmem
    obtain ⟨other, -, hother⟩ := List.mem_map.mp hmem
    have hlist := congrArg String.toList hother
    rw [String.toList_append, String.toList_append] at hlist
    have hsecond := congrArg (·[1]?) hlist
    simp at hsecond

end Metrics

namespace Server

variable {σ : Type}

/-- Whatever a service is asked, what is shown of the requests that the limiter has turned away
under a label is what is shown of the answers with this status under the label with `/api` in front
of it. Under the same label both are shown alike only if neither has anything to show. -/
theorem serveAll_hits (s : Server σ) (engine : σ) (calls : List (Call σ)) (label : String) :
    let events := (s.serveAll (s.start engine) calls).world.events
    Metrics.hits events label = Metrics.excess events ("/api" ++ label) ∧
      (Metrics.hits events label = Metrics.excess events label ↔
        Metrics.hits events label = 0 ∧ Metrics.excess events label = 0) := by
  intro events
  have hstart : Tallied (s.start engine).world.events [] := ⟨rfl, rfl⟩
  obtain ⟨lasts, htallied⟩ := serveAll_tallied hstart calls
  obtain ⟨hbehind, hapart⟩ := Metrics.counts_of_tallied htallied label
  refine ⟨hbehind.symm, ?_⟩
  constructor
  · intro heq
    rcases Nat.eq_zero_or_pos (Metrics.hits events label) with hzero | hpos
    · exact ⟨hzero, heq ▸ hzero⟩
    · exact absurd (heq.trans (hapart hpos)) (Nat.ne_of_gt hpos)
  · rintro ⟨hhits, hexcess⟩
    rw [hhits, hexcess]

/-- Two questions for a job from one address, of which one a second is granted. -/
theorem serveAll_hits_not_alike :
    let s := onTrial { rateLimit := 1 } none true true
    let call : Call Scripted :=
      { moment := ⟨⟨1704067200, 0⟩, 0, "first"⟩
        request := { method := "GET", target := "/api/render/u",
                     headers := [("x-forwarded-for", "203.0.113.7")] } }
    let events := (s.serveAll (s.start {}) [call, call]).world.events
    Metrics.hits events "/render/:job_id" = 1 ∧ Metrics.excess events "/render/:job_id" = 0 ∧
      Metrics.hits events "/api/render/:job_id" = 0 ∧
      Metrics.excess events "/api/render/:job_id" = 1 := by
  decide +kernel

end Server

end Service

end Storyboard
