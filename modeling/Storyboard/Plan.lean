import Storyboard.Request.Resolved
import Storyboard.Timeline.Layout

/-!
# Plans

A plan holds all that the render engine needs for one request. Making one takes no outside help: the
request is resolved, its scenes are laid out, its audio is put below, and its output is decided.
After a request has been resolved nothing can fail any more, unless there are so many scenes that
their total duration cannot be counted.
-/

namespace Storyboard

/-- All that the render engine needs for one request. -/
structure RenderPlan where
  /-- The form of the video. -/
  kind : VideoKind
  /-- What is shown and played. -/
  timeline : Timeline
  /-- The parameters of the file. -/
  output : OutputSpec
  /-- How many scenes there are. -/
  sceneCount : Nat
  /-- How long the video lasts. -/
  totalDuration : Millis
deriving DecidableEq, Repr

namespace ResolvedVideo

/-- The plan of a resolved request. -/
def plan (v : ResolvedVideo) : Except Rejection RenderPlan := do
  let visual ← Timeline.ofScenes v.insets v.scenes
  let timeline ← visual.withAudio v.insets.title v.audio
  .ok
    { kind := v.kind, timeline, output := v.output.resolve, sceneCount := v.scenes.length
      totalDuration := timeline.duration }

end ResolvedVideo

namespace VideoRequest

/-- The plan of a request. -/
def plan (r : VideoRequest) : Except Rejection RenderPlan := do (← r.resolve).plan

end VideoRequest

end Storyboard
