import Storyboard.Job
import Storyboard.Request

/-!
# What is noted down

Two kinds of notes are taken while requests are served: log entries for people, of which only
warnings and errors are kept, and events to be counted.
-/

namespace Storyboard

/-- How serious a log entry is. -/
inductive LogLevel
  /-- Something is not as it should be. -/
  | warning
  /-- Something has failed. -/
  | error
deriving DecidableEq, Repr

/-- The value of a field of a log entry. -/
inductive LogValue
  /-- A text. -/
  | text (value : String)
  /-- A number. -/
  | number (value : Nat)
deriving DecidableEq, Repr

/-- A log entry. -/
structure LogEntry where
  /-- How serious it is. -/
  level : LogLevel
  /-- What it is about. -/
  message : String
  /-- The particulars. -/
  fields : List (String × LogValue)
deriving DecidableEq, Repr

/-- A warning. -/
def LogEntry.warning (message : String) (fields : List (String × LogValue)) : LogEntry :=
  ⟨.warning, message, fields⟩

/-- Something that is counted. -/
inductive Event
  /-- A video was handed to the engine, which accepted it or did not. -/
  | submission (kind : VideoKind) (accepted : Bool)
  /-- The engine was asked for a job, and reported a status or failed. -/
  | poll (status : Option RenderStatus)
  /-- A request for a video was granted. -/
  | videoAccepted (kind : VideoKind)
  /-- A request for a video was rejected before it came to the engine. -/
  | videoRejected (kind : VideoKind)
  /-- A request has come in. -/
  | arrived
  /-- A request was answered. -/
  | answered (method path : String) (status : Nat)
  /-- A request was turned away because there were too many. -/
  | turnedAway (path : String)
deriving DecidableEq, Repr

end Storyboard
