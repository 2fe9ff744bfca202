import Storyboard.Engine.Client
import Storyboard.Engine.Tracker
import Storyboard.Service.Basic
import Storyboard.Service.Body
import Storyboard.Service.Metrics
import Storyboard.Url.Percent
import Storyboard.Wire.Request
import Storyboard.Wire.Plan
import Storyboard.Wire.Schema

/-!
# What is answered at each route

A request for a video is read, planned and handed to the engine; if it fails on the way, the engine
does not get to know of it. The engine may break down, and then there is no answer here.
-/

namespace Storyboard.Service

/-- The version of the service. -/
def version : String := "0.1.0"

/-! ## Bodies of responses -/

/-- The answer to a request for a title card. -/
def titleJson (_ : RenderPlan) (job : SubmittedJob) : Json := Wire.toJson job

/-- The answer to a request for a video of scenes. -/
def scenesJson (plan : RenderPlan) (job : SubmittedJob) : Json :=
  .object (Wire.member "jobId" job.jobId ++ Wire.member "status" job.status ++
    [("sceneCount", .nat plan.sceneCount)] ++ Wire.member "totalDuration" plan.totalDuration)

/-- The answer to a request for an opening or closing card. -/
def cardJson (kind : CardKind) (plan : RenderPlan) (job : SubmittedJob) : Json :=
  .object (Wire.member "jobId" job.jobId ++ Wire.member "status" job.status ++
    Wire.member "kind" kind ++ Wire.member "duration" plan.totalDuration ++
    Wire.member "aspectRatio" plan.output.aspectRatio)

/-- The answer to a question for a job. -/
def jobJson (job : RenderJob) : Json :=
  .object (Wire.member "id" job.id ++ Wire.member "status" job.status ++
    Wire.memberIfAny "url" job.url ++ Wire.memberIfAny "poster" job.poster ++
    Wire.memberIfAny "thumbnail" job.thumbnail ++ Wire.member "created" job.createdAt ++
    Wire.member "updated" job.updatedAt ++ Wire.memberIfAny "error" job.error)

/-- The answer to the question whether the service is alive. -/
def healthJson (clock : Stamp) : Json :=
  .object [("status", .text "healthy"), ("version", .text version),
    ("timestamp", .text (clock.textWith "+00:00"))]

/-- The answer to the question whether the service can work. -/
def readinessJson (isConfigured : Bool) : Json :=
  let check := if isConfigured then [("status", .text "ok")]
    else [("status", .text "error"), ("error", .text "render engine credential not configured")]
  .object [("status", .text (if isConfigured then "ready" else "degraded")),
    ("checks", .object [("render_engine", .object check)])]

/-! ## Names of jobs -/

/-- Whether a character may stand in the name of a job. -/
def isNameChar (c : Char) : Bool := c.isAlphanum || c = '-' || c = '_'

/-- The most bytes of the name of a job. -/
def longestName : Nat := 128

/-- The job that a text names. -/
def jobId? (name : List Char) : Option JobId :=
  if name ≠ [] ∧ name.length ≤ longestName ∧ name.all isNameChar = true then
    some ⟨String.ofList name⟩
  else none

/-- The text that a segment of a path stands for. -/
def segmentText? (segment : List Char) : Option (List Char) :=
  Text.ofBytes? (Url.percentDecode (Text.bytes segment))

namespace Server

variable {σ : Type}

/-- The answer to an error, which is noted down if it has to be. -/
def fail (e : Error) (w : World σ) : Response × World σ :=
  (.ofError e, { w with logs := w.logs ++ e.logs })

/-- An answer to an error as the outcome of dealing with a request. -/
def refuse (e : Error) (w : World σ) : Outcome Response × World σ :=
  (.done (fail e w).1, (fail e w).2)

/-- Reads the body of a request and goes on with it. -/
def withBody {α : Type} [Wire α] (s : Server σ) (r : Request)
    (next : α → World σ → Outcome Response × World σ) (w : World σ) :
    Outcome Response × World σ :=
  match r.read Wire.reader s.config.maxBodySize with
  | .ok a => next a w
  | .error e => refuse (.validation e.message) w

/-- Plans a video and hands it to the engine. -/
def submitVideo (s : Server σ) (answer : RenderPlan → SubmittedJob → Json) (video : VideoRequest)
    (w : World σ) : Outcome Response × World σ :=
  match video.plan with
  | .error e => refuse (.ofRejection e) (w.count (.videoRejected video.kind))
  | .ok plan =>
    match s.engine.submitPlan s.callback plan w with
    | (.ok job, w) => (.done (.ofJson 200 (answer plan job)), w.count (.videoAccepted video.kind))
    | (.failed e, w) => refuse (.ofRenderError e) w
    | (.crashed breakdown, w) => (.crashed breakdown, w)

/-- Shows the plan of a video. -/
def previewVideo (video : VideoRequest) (w : World σ) : Outcome Response × World σ :=
  match video.plan with
  | .error e => refuse (.ofRejection e) w
  | .ok plan => (.done (.ofJson 200 (Wire.planJson plan)), w)

/-- Reports on the job that a segment names. -/
def report (s : Server σ) (segment : List Char) (w : World σ) : Outcome Response × World σ :=
  match segmentText? segment with
  | none => (.done (.ofText 400 "Invalid URL: Invalid UTF-8 in `job_id`"), w)
  | some name =>
    match jobId? name with
    | none => refuse (.validation "invalid job id") w
    | some id =>
      match s.engine.poll id w with
      | (.ok job, w) => (.done (.ofJson 200 (jobJson job)), w)
      | (.failed e, w) => refuse (.ofRenderError e) w
      | (.crashed breakdown, w) => (.crashed breakdown, w)

/-- Answers a request at a route. -/
def answer (s : Server σ) (m : Moment) (r : Request) (w : World σ) :
    Route → Outcome Response × World σ
  | .title => s.withBody r (fun request => s.submitVideo titleJson (.singleTitle request)) w
  | .scenes => s.withBody r (fun request => s.submitVideo scenesJson (.scenes request)) w
  | .card =>
    s.withBody r
      (fun request : CardRequest => s.submitVideo (cardJson request.kind) (.card request)) w
  | .preview => s.withBody r previewVideo w
  | .schema => (.done (.ofJson 200 Schema.videoRequest), w)
  | .job segment => s.report segment w
  | .health => (.done (.ofJson 200 (healthJson m.clock)), w)
  | .readiness =>
    (.done (.ofJson (if s.isConfigured then 200 else 503) (readinessJson s.isConfigured)), w)
  | .metrics => (.done (.ofText 200 ("\n".intercalate (Metrics.lines w.events))), w)

end Server

end Storyboard.Service
