import Storyboard.Text.Blank

/-!
# Routes

What can be asked of the service, and at which paths. A path is matched as it was sent, before any
percent signs are decoded; a job has a path of its own below the others, which its name stands in as
one segment.
-/

namespace Storyboard.Service

/-- What can be asked of the service. -/
inductive Route
  /-- To make a title card. -/
  | title
  /-- To make a video of scenes. -/
  | scenes
  /-- To make an opening or closing card. -/
  | card
  /-- To show what would be made of a request. -/
  | preview
  /-- To show the schema of requests. -/
  | schema
  /-- To report on the job whose name stands in a segment. -/
  | job (segment : List Char)
  /-- To tell whether it is alive. -/
  | health
  /-- To tell whether it can work. -/
  | readiness
  /-- To show what has been counted. -/
  | metrics
deriving DecidableEq, Repr

namespace Route

/-- The segments below `/api/render` that are no jobs. -/
def fixed : List (String × Route) :=
  [("title", .title), ("scenes", .scenes), ("intro-outro", .card), ("preview", .preview),
   ("schema", .schema)]

/-- The route of a segment below `/api/render`. -/
def ofSegment (segment : List Char) : Route :=
  match fixed.find? (·.1.toList = segment) with
  | some (_, route) => route
  | none => .job segment

/-- The paths outside `/api`. -/
def plain : List (String × Route) :=
  [("health", .health), ("healthz", .health), ("ready", .readiness), ("metrics", .metrics)]

/-- The route at a path. -/
def ofPath? (path : List Char) : Option Route :=
  match Text.splitOn '/' path with
  | [[], name] => (plain.find? (·.1.toList = name)).map (·.2)
  | [[], api, render, segment] =>
    if api = "api".toList ∧ render = "render".toList ∧ segment ≠ [] then some (ofSegment segment)
    else none
  | _ => none

/-- Whether a route is below `/api`, where requests are limited. -/
def isLimited : Route → Bool
  | .title | .scenes | .card | .preview | .schema | .job _ => true
  | .health | .readiness | .metrics => false

/-- Whether something is posted to a route; from all others something is got. -/
def isPosted : Route → Bool
  | .title | .scenes | .card | .preview => true
  | .schema | .job _ | .health | .readiness | .metrics => false

/-- Whether a method may be used at a route. -/
def accepts (r : Route) (method : String) : Bool :=
  if r.isPosted then method = "POST" else method = "GET" || method = "HEAD"

/-- The methods that may be used at a route. -/
def allowed (r : Route) : String := if r.isPosted then "POST" else "GET,HEAD"

end Route

end Storyboard.Service
