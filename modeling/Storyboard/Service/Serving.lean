import Storyboard.Service.Answer
import Storyboard.Service.Origins

/-!
# Serving requests

Around the answer at a route lie layers, each of which sees every request on its way in and every
response on its way out. From the outside in they are: agreement with the origin of the page, a name
for the request, fields for the safety of browsers, counting, the announced size, the wording for
the public, and the handling of breakdowns. Innermost the route is found, and below `/api` the
limiter asked.

An `OPTIONS` request goes no further than the outermost layer.
-/

namespace Storyboard.Service

/-! ## Who asks -/

/-- The first of several hops. -/
def firstHop (s : String) : List Char :=
  Text.trimChars (s.toList.takeWhile (· ≠ ','))

namespace Request

/-- The address that a request comes from: the first hop that it was forwarded from, else the
address that a proxy gives, else the other end of the connection. -/
def client? (r : Request) : Option Net.Address :=
  match (r.headers.plain? "x-forwarded-for").bind fun s => Net.Address.ofChars? (firstHop s) with
  | some a => some a
  | none =>
    match (r.headers.plain? "x-real-ip").bind fun s => Net.Address.ofChars? s.toList with
    | some a => some a
    | none => r.peer

/-- The most bytes of the name of a request. -/
def longestId : Nat := 128

/-- The name of a request: the one that it brings, if that is a proper one, else a fresh one. -/
def id (r : Request) (fresh : String) : String :=
  ((r.headers.plain? "x-request-id").filter fun s =>
    s ≠ "" && s.utf8ByteSize ≤ longestId).getD fresh

end Request

/-- The fields that keep browsers from mistakes. -/
def safetyFields : Net.Headers :=
  [("x-content-type-options", "nosniff"),
   ("x-frame-options", "DENY"),
   ("strict-transport-security", "max-age=31536000; includeSubDomains"),
   ("referrer-policy", "strict-origin-when-cross-origin"),
   ("cross-origin-resource-policy", "same-origin"),
   ("x-permitted-cross-domain-policies", "none")]

namespace Response

/-- The response with one value for each of some fields. -/
def withHeaders (r : Response) (fields : Net.Headers) : Response :=
  fields.foldl (fun r field => r.withHeader field.1 field.2) r

end Response

namespace Server

variable {σ : Type}

/-- The route at the path of a request, if there is one. -/
def route? (s : Server σ) (r : Request) : Option Route :=
  match Route.ofPath? r.path with
  | some .metrics => if s.keepsCounts && s.config.metricsEnabled then some .metrics else none
  | other => other

/-! ## The inner layers -/

/-- The warning about a request that is turned away. -/
def turnedAwayWarning (a : Net.Address) : LogEntry :=
  .warning "Rate limit exceeded" [("ip", .text a.text)]

/-- The path of a request below `/api`. -/
def innerPath (r : Request) : String := String.ofList (r.path.drop 4)

/-- Turns a request away. -/
def turnAway (r : Request) (a : Net.Address) (w : World σ) : Outcome Response × World σ :=
  let (response, w) :=
    fail .rateLimited ((w.log (turnedAwayWarning a)).count (.turnedAway (innerPath r)))
  (.done (response.withHeader "retry-after" "1"), w)

/-- Whether a request is let in at a route, and what the limiter is after it was asked. Outside of
`/api`, and if it is not known where a request comes from, it is not asked. -/
def admits (m : Moment) (r : Request) (route : Route) (l : Limiter) :
    Option Net.Address × Limiter × List LogEntry :=
  match (if route.isLimited then r.client? else none) with
  | none => (none, l, [])
  | some a =>
    let (granted, l, logs) := l.check m.elapsed a
    (if granted then none else some a, l, logs)

/-- Answers a request at a route, if its method may be used there. -/
def answerMethod (s : Server σ) (m : Moment) (r : Request) (route : Route) (w : World σ) :
    Outcome Response × World σ :=
  if route.accepts r.method then s.answer m r w route else (.done (.bare 405), w)

/-- Finds the route of a request, asks the limiter, and answers the request. -/
def dispatch (s : Server σ) (m : Moment) (r : Request) (session : Session σ) :
    Outcome Response × Session σ :=
  match s.route? r with
  | none => (.done (.bare 404), session)
  | some route =>
    let (refused, limiter, logs) := admits m r route session.limiter
    let w := { session.world with logs := session.world.logs ++ logs }
    let (outcome, w) := match refused with
      | some a => turnAway r a w
      | none => s.answerMethod m r route w
    (outcome, ⟨w, limiter⟩)

/-- Answers a request even if something breaks down. -/
def dispatchSafely (s : Server σ) (m : Moment) (r : Request) (session : Session σ) :
    Response × Session σ :=
  match s.dispatch m r session with
  | (.done response, session) => (response, session)
  | (.crashed breakdown, session) =>
    let (response, w) := fail (.ofBreakdown breakdown) session.world
    (response, { session with world := w })

/-- Refuses a request that announces too long a body; in public, hides what went wrong inside. -/
def respond (s : Server σ) (m : Moment) (r : Request) (session : Session σ) :
    Response × Session σ :=
  if s.config.maxBodySize < (r.announcedSize?.getD 0) then
    (.ofText 413 "length limit exceeded", session)
  else
    let (response, session) := s.dispatchSafely m r session
    (if s.config.isProduction then response.redacted else response, session)

/-! ## The outer layers -/

/-- Counts a request when it comes in and when it is answered. -/
def respondCounted (s : Server σ) (m : Moment) (r : Request) (session : Session σ) :
    Response × Session σ :=
  let (response, session) :=
    s.respond m r { session with world := session.world.count .arrived }
  let event := Event.answered r.method (String.ofList r.path) response.status
  (response, { session with world := session.world.count event })

/-- Names the methods of the route, if the request has another one; leaves out the body where only
the head is asked for. -/
def shaped (s : Server σ) (r : Request) (response : Response) : Response :=
  match s.route? r with
  | none => response
  | some route =>
    if !route.accepts r.method then response.withHeader "allow" route.allowed
    else if r.method = "HEAD" then response.withoutContent
    else response

/-- Serves a request. -/
def handle (s : Server σ) (m : Moment) (r : Request) (session : Session σ) :
    Response × Session σ :=
  let origins := Origins.ofList s.config.corsOrigins
  if r.method = "OPTIONS" then
    (s.shaped r ((Response.bare 200).withHeaders (origins.beforehand r.headers)), session)
  else
    let (response, session) := s.respondCounted m r session
    let fields := safetyFields ++ [("x-request-id", r.id m.freshId)] ++ origins.afterwards r.headers
    (s.shaped r (response.withHeaders fields), session)

end Server

end Storyboard.Service
