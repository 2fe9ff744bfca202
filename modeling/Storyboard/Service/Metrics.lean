import Storyboard.Event
import Storyboard.Service.Route

/-!
# What is counted

The service shows how often what has happened. Every event makes marks, each of a name and labels; a
count is the number of equal marks. The one gauge is the number of requests that have come in and
are not answered yet.

A path becomes a label only after the names of jobs have been taken out of it, so that there are not
as many counts as jobs.
-/

namespace Storyboard.Service

/-! ## Paths as labels -/

/-- The segments of a path with a placeholder for the names of jobs. A job stands right behind the
segment `render` and is none of the fixed routes. -/
def labelSegments (behindRender : Bool) : List (List Char) → List (List Char)
  | [] => []
  | segment :: rest =>
    (if behindRender ∧ segment ≠ [] ∧ Route.fixed.all (·.1.toList ≠ segment) = true
      then ":job_id".toList else segment) ::
    labelSegments (segment = "render".toList) rest

/-- A path as a label. -/
def pathLabel (path : List Char) : List Char :=
  Text.joinWith '/' (labelSegments false (Text.splitOn '/' path))

/-! ## Marks -/

/-- What is counted: a name and labels. -/
structure Mark where
  /-- The name. -/
  name : String
  /-- The labels, each with its value. -/
  labels : List (String × String)
deriving DecidableEq, Repr

namespace Mark

/-- The value of a label between quotes. A quote and the end of a line get a backslash, and so does
a backslash that does not stand before a quote or another backslash already. -/
def escaped : List Char → List Char
  | [] => []
  | '\\' :: '\\' :: rest => '\\' :: '\\' :: escaped rest
  | '\\' :: '\x22' :: rest => '\\' :: '\x22' :: escaped rest
  | '\\' :: rest => '\\' :: '\\' :: escaped rest
  | '\x22' :: rest => '\\' :: '\x22' :: escaped rest
  | '\n' :: rest => '\\' :: 'n' :: escaped rest
  | c :: rest => c :: escaped rest

/-- A label with its value. -/
def labelText (label : String × String) : List Char :=
  label.1.toList ++ '=' :: '\x22' :: escaped label.2.toList ++ ['\x22']

/-- A mark as it is shown. -/
def text (m : Mark) : String :=
  String.ofList (m.name.toList ++
    if m.labels = [] then []
    else '{' :: Text.joinWith ',' (m.labels.map labelText) ++ ['}'])

end Mark

/-- The word for the outcome of a look at a job. -/
def pollWord : Option RenderStatus → String
  | some status => Vocabulary.word status
  | none => "error"

/-- The labels of an answer. -/
def answerLabels (method path : String) (status : Nat) : List (String × String) :=
  [("method", method), ("path", String.ofList (pathLabel path.toList)), ("status", s!"{status}")]

/-- The marks that an event makes. -/
def marks : Event → List Mark
  | .submission kind accepted =>
    [⟨"render_submissions_total", [("kind", Vocabulary.word kind),
        ("outcome", if accepted then "success" else "failure")]⟩,
     ⟨"render_submit_latency_seconds_count", [("kind", Vocabulary.word kind)]⟩]
  | .poll status => [⟨"render_status_polls_total", [("status", pollWord status)]⟩]
  | .videoAccepted kind => [⟨"vgen_render_requests_total", [("kind", Vocabulary.word kind)]⟩]
  | .videoRejected kind =>
    [⟨"vgen_render_rejections_total", [("kind", Vocabulary.word kind),
        ("code", "validation_error")]⟩]
  | .arrived => []
  | .answered method path status =>
    [⟨"vgen_http_requests_total", answerLabels method path status⟩,
     ⟨"vgen_http_request_duration_seconds_count", answerLabels method path status⟩]
  | .turnedAway path =>
    [⟨"vgen_rate_limit_hits_total", [("endpoint", String.ofList (pathLabel path.toList))]⟩]

namespace Metrics

/-- How often a mark has been made. -/
def total (events : List Event) (m : Mark) : Nat := (events.flatMap marks).count m

/-- Whether an event is the answer to a request. -/
def isAnswer : Event → Bool
  | .answered .. => true
  | _ => false

/-- How many requests are not answered yet. -/
def inFlight (events : List Event) : Nat := events.count .arrived - events.countP isAnswer

/-- The mark of the gauge. -/
def gauge : Mark := ⟨"vgen_http_requests_in_flight", []⟩

/-- A mark with its number. -/
def line (m : Mark) (n : Nat) : String := m.text ++ " " ++ toString n

/-- All counts, one on a line. The gauge is among them as soon as a request has come in. -/
def lines (events : List Event) : List String :=
  let counted := (events.flatMap marks).eraseDups.map fun m => line m (total events m)
  let all := if events.count .arrived = 0 then counted
    else line gauge (inFlight events) :: counted
  all.mergeSort fun a b => decide (a ≤ b)

end Metrics

end Storyboard.Service
