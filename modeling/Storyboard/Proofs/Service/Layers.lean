import Storyboard.Service.Serving

/-!
# What the layers let through

A request either comes through all layers to the answer at its route, or one of them turns it back.
Those that come through are answered as the route answers, whatever the layers add to the response;
those that are turned back leave the engine alone.

The layers are opened only here. What a route does is stated with `Server.Reaches` as its premise,
and carried over to the whole service by `handle_of_reaches` and `handle_of_not_reaches`.
-/

namespace Storyboard.Service

/-! ## Responses -/

namespace Response

@[simp]
theorem withHeader_status (r : Response) (name value : String) :
    (r.withHeader name value).status = r.status := rfl

@[simp]
theorem withHeaders_status (r : Response) (fields : Net.Headers) :
    (r.withHeaders fields).status = r.status := by
  unfold withHeaders
  induction fields generalizing r with
  | nil => rfl
  | cons field rest ih => exact ih _

@[simp]
theorem withHeaders_content (r : Response) (fields : Net.Headers) :
    (r.withHeaders fields).content = r.content := by
  unfold withHeaders
  induction fields generalizing r with
  | nil => rfl
  | cons field rest ih => exact ih _

@[simp]
theorem redacted_status (r : Response) : r.redacted.status = r.status := by
  unfold redacted
  split <;> rfl

/-- A response without another wording for the public is the same in public. -/
theorem redacted_of_none {r : Response} (h : r.redaction = none) : r.redacted = r := by
  simp [redacted, h]

end Response

/-- The response that comes of an outcome: a breakdown is answered as an error of the service. -/
def Outcome.response : Outcome Response → Response
  | .done response => response
  | .crashed breakdown => .ofError (.ofBreakdown breakdown)

@[simp]
theorem Outcome.response_crashed_status (breakdown : Breakdown) :
    (Outcome.crashed breakdown).response.status = 500 := rfl

namespace Server

variable {σ : Type} (s : Server σ) (m : Moment) (r : Request) (session : Session σ)

/-- The session when the arrival of a request has been counted. -/
def arrived : Session σ := { session with world := session.world.count .arrived }

/-- The world as the answer at a route finds it, after the limiter was asked. -/
def entered (route : Route) : World σ where
  engine := session.world.engine
  logs := session.world.logs ++ (admits m r route session.limiter).2.2
  events := session.world.events ++ [.arrived]

/-- A request comes through all layers to the answer at a route. -/
structure Reaches (route : Route) : Prop where
  /-- It is no question for the outermost layer. -/
  ne_options : r.method ≠ "OPTIONS"
  /-- It does not announce too long a body. -/
  short : r.announcedSize?.getD 0 ≤ s.config.maxBodySize
  /-- The route is at its path. -/
  route_eq : s.route? r = some route
  /-- The limiter lets it in. -/
  admitted : (admits m r route session.limiter).1 = none
  /-- Its method may be used there. -/
  accepted : route.accepts r.method = true

/-- What is noted down of a request that is turned back, between its arrival and its answer, and the
status of the answer. -/
inductive TurnsBack : List Event → Nat → Prop
  /-- A layer finds that there is nothing for the request. -/
  | unfit {code : Nat} (failed : code ∈ [404, 405, 413]) : TurnsBack [] code
  /-- The limiter finds that it is one too many. -/
  | limited {route : Route} (route_eq : s.route? r = some route)
      (isLimited : route.isLimited = true) : TurnsBack [.turnedAway (innerPath r)] 429

/-! ## Layer by layer -/

theorem shaped_status (response : Response) : (s.shaped r response).status = response.status := by
  unfold shaped
  split
  · rfl
  · split
    · rfl
    · split <;> rfl

/-- What is read in a response to a request for more than the head. -/
theorem shaped_content {route : Route} (hroute : s.route? r = some route)
    (haccepted : route.accepts r.method = true) (hhead : r.method ≠ "HEAD") (response : Response) :
    (s.shaped r response).content = response.content := by
  simp [shaped, hroute, haccepted, hhead]

theorem dispatchSafely_response :
    (s.dispatchSafely m r session).1 = (s.dispatch m r session).1.response := by
  unfold dispatchSafely
  rcases s.dispatch m r session with ⟨_ | _, after⟩ <;> rfl

theorem dispatchSafely_engine :
    (s.dispatchSafely m r session).2.world.engine = (s.dispatch m r session).2.world.engine := by
  unfold dispatchSafely
  rcases s.dispatch m r session with ⟨_ | _, after⟩ <;> rfl

theorem dispatchSafely_events :
    (s.dispatchSafely m r session).2.world.events = (s.dispatch m r session).2.world.events := by
  unfold dispatchSafely
  rcases s.dispatch m r session with ⟨_ | _, after⟩ <;> rfl

variable {s m r session}

/-- What the outer layers leave of the answer to a request that is not too long. -/
theorem handle_of_short (hoptions : r.method ≠ "OPTIONS")
    (hshort : r.announcedSize?.getD 0 ≤ s.config.maxBodySize) :
    (s.handle m r session).1 = s.shaped r (Response.withHeaders
        (if s.config.isProduction then (s.dispatch m r (arrived session)).1.response.redacted
          else (s.dispatch m r (arrived session)).1.response)
        (safetyFields ++ [("x-request-id", r.id m.freshId)] ++
          (Origins.ofList s.config.corsOrigins).afterwards r.headers)) ∧
      (s.handle m r session).2.world.engine =
        (s.dispatch m r (arrived session)).2.world.engine := by
  have hlong : ¬s.config.maxBodySize < r.announcedSize?.getD 0 := Nat.not_lt.mpr hshort
  unfold handle respondCounted respond
  simp only [hoptions, if_false, hlong]
  rw [← dispatchSafely_response, ← dispatchSafely_engine]
  exact ⟨rfl, rfl⟩

theorem dispatch_of_reaches {route : Route} (h : s.Reaches m r session route) :
    s.dispatch m r (arrived session) =
      ((s.answer m r (entered m r session route) route).1,
        ⟨(s.answer m r (entered m r session route) route).2,
          (admits m r route session.limiter).2.1⟩) := by
  simp [dispatch, h.route_eq, arrived, h.admitted, answerMethod, h.accepted, entered, World.count]

/-- Only below `/api` a request can be one too many. -/
theorem isLimited_of_admits {route : Route} {l : Limiter} {a : Net.Address}
    (h : (admits m r route l).1 = some a) : route.isLimited = true := by
  unfold admits at h
  cases hlimited : route.isLimited with
  | true => rfl
  | false =>
    rw [hlimited] at h
    exact absurd h (by simp)

theorem dispatch_of_not_reaches (hoptions : r.method ≠ "OPTIONS")
    (hshort : r.announcedSize?.getD 0 ≤ s.config.maxBodySize)
    (h : ∀ route, ¬s.Reaches m r session route) :
    (s.dispatch m r (arrived session)).2.world.engine = session.world.engine ∧
      ∃ noted, s.TurnsBack r noted (s.dispatch m r (arrived session)).1.response.status ∧
        (s.dispatch m r (arrived session)).2.world.events =
          session.world.events ++ .arrived :: noted := by
  unfold dispatch
  cases hroute : s.route? r with
  | none => exact ⟨rfl, [], .unfit (by simp [Outcome.response, Response.bare]), rfl⟩
  | some route =>
    cases hadmitted : (admits m r route session.limiter).1 with
    | some a =>
      simp only [arrived, hadmitted]
      refine ⟨rfl, [.turnedAway (innerPath r)], .limited hroute (isLimited_of_admits hadmitted), ?_⟩
      simp [turnAway, fail, World.count, World.log]
    | none =>
      have haccepted : ¬route.accepts r.method = true := fun haccepted =>
        h route ⟨hoptions, hshort, hroute, hadmitted, haccepted⟩
      simp only [arrived, hadmitted, answerMethod, haccepted]
      exact ⟨rfl, [], .unfit (by simp [Outcome.response, Response.bare]), rfl⟩

/-! ## All layers -/

/-- A request that comes through is answered as at its route. -/
theorem handle_of_reaches {route : Route} (h : s.Reaches m r session route) :
    (s.handle m r session).1.status =
        (s.answer m r (entered m r session route) route).1.response.status ∧
      (r.method ≠ "HEAD" → (s.handle m r session).1.content =
        (if s.config.isProduction then
          (s.answer m r (entered m r session route) route).1.response.redacted
        else (s.answer m r (entered m r session route) route).1.response).content) ∧
      (s.handle m r session).2.world.engine =
        (s.answer m r (entered m r session route) route).2.engine := by
  obtain ⟨hresponse, hengine⟩ := handle_of_short h.ne_options h.short
  rw [dispatch_of_reaches h] at hresponse hengine
  rw [hresponse]
  refine ⟨?_, ?_, hengine⟩
  · rw [shaped_status, Response.withHeaders_status]
    split
    · rw [Response.redacted_status]
    · rfl
  · intro hhead
    rw [shaped_content s r h.route_eq h.accepted hhead, Response.withHeaders_content]

/-- A response with one wording only is answered as it is. -/
theorem handle_of_done {route : Route} (h : s.Reaches m r session route) (hhead : r.method ≠ "HEAD")
    {response : Response} (hplain : response.redaction = none)
    (hanswer : (s.answer m r (entered m r session route) route).1 = .done response) :
    (s.handle m r session).1.status = response.status ∧
      (s.handle m r session).1.content = response.content := by
  obtain ⟨hstatus, hcontent, -⟩ := handle_of_reaches h
  rw [hanswer] at hstatus hcontent
  refine ⟨hstatus, (hcontent hhead).trans ?_⟩
  rw [Outcome.response, Response.redacted_of_none hplain, ite_self]

theorem TurnsBack.status_mem {noted : List Event} {code : Nat} (h : s.TurnsBack r noted code) :
    code ∈ [404, 405, 413, 429] := by
  cases h with
  | unfit failed =>
    simp only [List.mem_cons, List.not_mem_nil, or_false] at failed ⊢
    omega
  | limited => decide

/-- A request that is turned back leaves the engine alone, and unless it is a question for the
outermost layer, the status of its answer fits to what is noted down of it. -/
theorem handle_of_turned_back (h : ∀ route, ¬s.Reaches m r session route) :
    (s.handle m r session).2.world.engine = session.world.engine ∧
      (r.method ≠ "OPTIONS" → ∃ noted, s.TurnsBack r noted (s.handle m r session).1.status ∧
        (s.respond m r (arrived session)).2.world.events =
          session.world.events ++ .arrived :: noted) := by
  by_cases hoptions : r.method = "OPTIONS"
  · simp [handle, hoptions]
  by_cases hshort : r.announcedSize?.getD 0 ≤ s.config.maxBodySize
  · obtain ⟨hresponse, hengine⟩ := handle_of_short hoptions hshort
    obtain ⟨hsame, noted, hturns, hevents⟩ := dispatch_of_not_reaches hoptions hshort h
    have hrespond : (s.respond m r (arrived session)).2.world.events =
        session.world.events ++ .arrived :: noted := by
      rw [← hevents, ← dispatchSafely_events]
      unfold respond
      rw [if_neg (Nat.not_lt.mpr hshort)]
    rw [hengine, hresponse, shaped_status, Response.withHeaders_status]
    refine ⟨hsame, fun _ => ⟨noted, ?_, hrespond⟩⟩
    split
    · rw [Response.redacted_status]
      exact hturns
    · exact hturns
  · have hlong : s.config.maxBodySize < r.announcedSize?.getD 0 := Nat.not_le.mp hshort
    unfold handle respondCounted respond
    simp only [hoptions, if_false, hlong, if_true]
    rw [shaped_status, Response.withHeaders_status]
    exact ⟨rfl, fun _ => ⟨[], .unfit (by simp [Response.ofText]), rfl⟩⟩

theorem handle_of_not_reaches (h : ∀ route, ¬s.Reaches m r session route) :
    (s.handle m r session).2.world.engine = session.world.engine ∧
      (r.method ≠ "OPTIONS" → (s.handle m r session).1.status ∈ [404, 405, 413, 429]) := by
  obtain ⟨hengine, hturned⟩ := handle_of_turned_back h
  refine ⟨hengine, fun hoptions => ?_⟩
  obtain ⟨noted, hturns, -⟩ := hturned hoptions
  exact hturns.status_mem

/-! ## What is noted down -/

/-- The answer is noted down last, with the status that the caller gets. -/
theorem handle_events (hoptions : r.method ≠ "OPTIONS") :
    (s.handle m r session).2.world.events =
      (s.respond m r (arrived session)).2.world.events ++
        [.answered r.method (String.ofList r.path) (s.handle m r session).1.status] := by
  have hstatus : (s.handle m r session).1.status = (s.respond m r (arrived session)).1.status := by
    unfold handle
    rw [if_neg hoptions]
    exact (shaped_status ..).trans (Response.withHeaders_status ..)
  rw [hstatus]
  unfold handle
  rw [if_neg hoptions]
  rfl

theorem handle_events_of_short (hoptions : r.method ≠ "OPTIONS")
    (hshort : r.announcedSize?.getD 0 ≤ s.config.maxBodySize) :
    (s.handle m r session).2.world.events =
      (s.dispatch m r (arrived session)).2.world.events ++
        [.answered r.method (String.ofList r.path) (s.handle m r session).1.status] := by
  rw [handle_events hoptions, ← dispatchSafely_events]
  unfold respond
  rw [if_neg (Nat.not_lt.mpr hshort)]

/-- Of a request that comes through, the route notes down what it does. -/
theorem handle_events_of_reaches {route : Route} (h : s.Reaches m r session route) :
    (s.handle m r session).2.world.events =
      (s.answer m r (entered m r session route) route).2.events ++
        [.answered r.method (String.ofList r.path) (s.handle m r session).1.status] := by
  rw [handle_events_of_short h.ne_options h.short, dispatch_of_reaches h]

/-- Of a request that is turned back, it is noted down at most that it was one too many. -/
theorem handle_events_of_not_reaches (hoptions : r.method ≠ "OPTIONS")
    (h : ∀ route, ¬s.Reaches m r session route) :
    ∃ noted, s.TurnsBack r noted (s.handle m r session).1.status ∧
      (s.handle m r session).2.world.events = session.world.events ++ .arrived :: noted ++
        [.answered r.method (String.ofList r.path) (s.handle m r session).1.status] := by
  obtain ⟨noted, hturns, hevents⟩ := (handle_of_turned_back h).2 hoptions
  exact ⟨noted, hturns, by rw [handle_events hoptions, hevents]⟩

end Server

end Storyboard.Service
