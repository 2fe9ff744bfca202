import Storyboard.Engine.Error
import Storyboard.Event
import Storyboard.Plan

/-!
# Render engines

An engine accepts timelines and reports on the jobs that it has made of them. It is given by the two
operations and the state that they work on; all else about a job is the engine's business. An
operation may also break down, as a program with a mistake in it does.
-/

namespace Storyboard

/-- What the engine is handed for one video. -/
structure RenderSubmission where
  /-- What is shown and played. -/
  timeline : Timeline
  /-- The parameters of the file. -/
  output : OutputSpec
  /-- The address to call when the job is finished. -/
  callback : Option String
deriving DecidableEq, Repr

/-- What the caller gets for a video that was accepted. -/
structure SubmittedJob where
  /-- The name of the job. -/
  jobId : JobId
  /-- How far it has come. -/
  status : RenderStatus
deriving DecidableEq, Repr

/-- What an operation leaves behind when it breaks down. -/
inductive Breakdown
  /-- A text that was put together. -/
  | formatted (text : String)
  /-- A text that stands in the program. -/
  | literal (text : String)
  /-- Something that is no text. -/
  | other
deriving DecidableEq, Repr

/-- What can be said of a breakdown. -/
def Breakdown.message : Breakdown → String
  | .formatted text => text
  | .literal text => text
  | .other => "unknown panic"

/-- How an operation ends. -/
inductive Reply (α : Type)
  /-- With a result. -/
  | ok (value : α)
  /-- With an error. -/
  | failed (error : RenderError)
  /-- By breaking down. -/
  | crashed (breakdown : Breakdown)
deriving DecidableEq, Repr

/-- The end of an operation of an engine, the state that it leaves, and what it has noted down. -/
structure Exchange (σ α : Type) where
  /-- How the operation ended. -/
  reply : Reply α
  /-- The state after it. -/
  state : σ
  /-- The log entries that it made. -/
  logs : List LogEntry := []

/-- A render engine with states of the given type. -/
structure Engine (σ : Type) where
  /-- Hands over a video. -/
  submit : RenderSubmission → σ → Exchange σ JobId
  /-- Asks for a job. -/
  status : JobId → σ → Exchange σ RenderJob

/-- An engine's state with the notes that were taken around it, in order. -/
structure World (σ : Type) where
  /-- The state of the engine. -/
  engine : σ
  /-- The log entries. -/
  logs : List LogEntry := []
  /-- The events. -/
  events : List Event := []

namespace World

variable {σ α : Type}

/-- The world after an operation of the engine. -/
def after (w : World σ) (x : Exchange σ α) : World σ :=
  { w with engine := x.state, logs := w.logs ++ x.logs }

/-- The world with one more log entry. -/
def log (w : World σ) (entry : LogEntry) : World σ := { w with logs := w.logs ++ [entry] }

/-- The world with one more event. -/
def count (w : World σ) (event : Event) : World σ := { w with events := w.events ++ [event] }

end World

end Storyboard
