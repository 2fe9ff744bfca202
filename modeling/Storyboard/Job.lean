import Storyboard.Text.Blank
import Storyboard.Time.Stamp
import Storyboard.Vocabulary

/-!
# Jobs

The render engine owns the jobs; what is held here is what it reported last. A job is queued, then
in the works, then done; until it is done it may fail.
-/

namespace Storyboard

/-- How far a job has come. -/
inductive RenderStatus
  /-- Accepted and not started. -/
  | queued
  /-- In the works. -/
  | rendering
  /-- The file is there. -/
  | done
  /-- There will be no file. -/
  | failed
deriving DecidableEq, Repr

instance : Vocabulary RenderStatus where
  all :=
    [.queued, .rendering, .done, .failed]
  word
    | .queued => "queued"
    | .rendering => "rendering"
    | .done => "done"
    | .failed => "failed"

namespace RenderStatus

/-- Whether nothing will change any more. -/
def isTerminal : RenderStatus → Bool
  | .done | .failed => true
  | .queued | .rendering => false

/-- Whether a job may go from one status to another in at most one step. -/
def canGoTo : RenderStatus → RenderStatus → Bool
  | .queued, .rendering | .queued, .failed | .rendering, .done | .rendering, .failed => true
  | a, b => decide (a = b)

/-- Whether a job that was seen in status `before` may be seen in status `s` next. Between the two
looks it may have been in the works. -/
def isReachableFrom (s before : RenderStatus) : Bool :=
  before.canGoTo s || (before.canGoTo .rendering && canGoTo .rendering s)

/-- The status that a word of the engine stands for. The engine tells apart several stages in the
works. -/
def ofEngine? (word : String) : Option RenderStatus :=
  let word := Text.keyword word
  if word = "queued" then some .queued
  else if word ∈ ["fetching", "preprocessing", "rendering", "saving"] then some .rendering
  else if word = "done" then some .done
  else if word = "failed" then some .failed
  else none

end RenderStatus

/-- The name that the engine gave to a job. -/
structure JobId where
  /-- The name as a text. -/
  text : String
deriving DecidableEq, Repr

/-- A job as the engine reported it. -/
structure RenderJob where
  /-- Its name. -/
  id : JobId
  /-- How far it has come. -/
  status : RenderStatus
  /-- The address of the file. -/
  url : Option String
  /-- The address of a large still. -/
  poster : Option String
  /-- The address of a small still. -/
  thumbnail : Option String
  /-- Why it failed. -/
  error : Option String
  /-- When it was accepted. -/
  createdAt : Stamp
  /-- When it changed last. -/
  updatedAt : Stamp
deriving DecidableEq, Repr

end Storyboard
