import Storyboard.Engine.Basic
import Storyboard.Wire.Output
import Storyboard.Wire.Timeline

/-!
# The wire form of plans and jobs
-/

namespace Storyboard.Wire

open Json (Record)

/-- A plan as it is shown to the caller. -/
def planJson (p : RenderPlan) : Json :=
  .object (member "kind" p.kind ++ member "timeline" p.timeline ++ member "output" p.output ++
    [("sceneCount", .nat p.sceneCount)] ++ member "totalDuration" p.totalDuration)

/-- A job. -/
instance : Wire RenderJob where
  toJson j := .object (member "id" j.id ++ member "status" j.status ++ member "url" j.url ++
    member "poster" j.poster ++ member "thumbnail" j.thumbnail ++ member "error" j.error ++
    member "created_at" j.createdAt ++ member "updated_at" j.updatedAt)
  reader := Record.of RenderJob.mk
    |>.field (required "id")
    |>.field (required "status")
    |>.field (optional "url")
    |>.field (optional "poster")
    |>.field (optional "thumbnail")
    |>.field (optional "error")
    |>.field (required "created_at")
    |>.field (required "updated_at")
    |>.reader "struct RenderJob"

/-- A job as the caller gets to know it. -/
instance : Wire SubmittedJob where
  toJson j := .object (member "jobId" j.jobId ++ member "status" j.status)
  reader := Record.of SubmittedJob.mk
    |>.field (required "jobId")
    |>.field (required "status")
    |>.reader "struct SubmittedJob"

end Storyboard.Wire
