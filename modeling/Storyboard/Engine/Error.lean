import Storyboard.Job

/-!
# Errors of the engine

Why the render engine could not do what it was asked. The status that the engine itself gave is
kept, since it tells whether it makes sense to try again.
-/

namespace Storyboard

/-- Why the render engine could not do what it was asked. -/
inductive RenderError
  /-- It is not set up. -/
  | configuration (message : String)
  /-- It did not accept a video; without a status it was not reached. -/
  | submission (code : Option Nat) (message : String)
  /-- It does not know a job. -/
  | jobNotFound (id : JobId)
  /-- It did not report on a job; without a status it was not reached. -/
  | status (code : Option Nat) (message : String)
  /-- A job was still not finished after so many looks. -/
  | pollTimeout (id : JobId) (attempts : Nat)
deriving DecidableEq, Repr

namespace RenderError

/-- The wording of an error. -/
def message : RenderError → String
  | .configuration message => "Render engine not configured: " ++ message
  | .submission _ message => "Render submission failed: " ++ message
  | .jobNotFound id => "Render job not found: " ++ id.text
  | .status _ message => "Render status check failed: " ++ message
  | .pollTimeout id attempts => s!"Render job {id.text} still running after {attempts} polls"

/-- The status that the engine gave. -/
def engineStatus? : RenderError → Option Nat
  | .submission code _ | .status code _ => code
  | .jobNotFound _ => some 404
  | .configuration _ | .pollTimeout .. => none

/-- Whether a status tells of something that passes. -/
def isPassing : Option Nat → Bool
  | none => true
  | some code => code == 429 || 500 ≤ code

/-- Whether it makes sense to try again. -/
def isRetryable : RenderError → Bool
  | .submission code _ | .status code _ => isPassing code
  | .pollTimeout .. => true
  | .configuration _ | .jobNotFound _ => false

end RenderError

end Storyboard
