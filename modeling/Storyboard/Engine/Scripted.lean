import Storyboard.Engine.Basic

/-!
# The scripted engine

An engine for trials. It accepts every video, unless it is told to reject all or to break down, and
names the jobs by counting them. Each job is moved by hand, or by a script of which one status is
used up with every look; the last one stays.
-/

namespace Storyboard

/-- The state of the scripted engine. -/
structure Scripted where
  /-- The jobs, oldest first. -/
  jobs : List RenderJob := []
  /-- The statuses that jobs are to report, by the name of the job. -/
  scripts : List (JobId × List RenderStatus) := []
  /-- The videos that were accepted, oldest first. -/
  submissions : List RenderSubmission := []
  /-- The status and the message with which all videos are rejected. -/
  rejection : Option (Nat × String) := none
  /-- The message with which the engine breaks down at every video. -/
  crash : Option String := none
  /-- How many jobs have been named. -/
  accepted : Nat := 0
  /-- How often the engine has been asked for a job. -/
  statusCalls : Nat := 0
  /-- What the clock shows. -/
  now : Stamp := default
deriving DecidableEq, Repr

namespace Scripted

/-- The name of the job with the given number. -/
def jobName (number : Nat) : JobId := ⟨"job-" ++ Stamp.padded 4 number⟩

/-- A job that has just been accepted. -/
def newJob (id : JobId) (now : Stamp) : RenderJob where
  id := id
  status := .queued
  url := none
  poster := none
  thumbnail := none
  error := none
  createdAt := now
  updatedAt := now

/-- A job that has got a status. -/
def withStatus (job : RenderJob) (status : RenderStatus) (now : Stamp) : RenderJob :=
  let job := { job with status, updatedAt := now }
  let base := "https://cdn.example.com/renders/" ++ job.id.text
  match status with
  | .done =>
    { job with
      url := some (base ++ ".mp4")
      poster := some (base ++ "-poster.jpg")
      thumbnail := some (base ++ "-thumb.jpg") }
  | .failed => { job with error := some "render failed" }
  | .queued | .rendering => job

/-- The job of a name. -/
def job? (s : Scripted) (id : JobId) : Option RenderJob := s.jobs.find? (·.id = id)

/-- Changes the job of a name. -/
def updateJob (s : Scripted) (id : JobId) (f : RenderJob → RenderJob) : Scripted :=
  { s with jobs := s.jobs.map fun job => if job.id = id then f job else job }

/-- The script of a job; an empty one if there is none. -/
def scriptOf (s : Scripted) (id : JobId) : List RenderStatus :=
  ((s.scripts.find? (·.1 = id)).map (·.2)).getD []

/-! ## Controls -/

/-- Rejects every following video. -/
def reject (s : Scripted) (status : Nat) (message : String) : Scripted :=
  { s with rejection := some (status, message) }

/-- Breaks down at every following video. -/
def crashOnSubmit (s : Scripted) (message : String) : Scripted := { s with crash := some message }

/-- Gives a job a script. -/
def script (s : Scripted) (id : JobId) (statuses : List RenderStatus) : Scripted :=
  { s with scripts := (id, statuses) :: s.scripts.filter (·.1 ≠ id) }

/-- Gives a job a status now. -/
def setStatus (s : Scripted) (id : JobId) (status : RenderStatus) : Scripted :=
  s.updateJob id fun job => withStatus job status s.now

/-! ## Operations -/

/-- Accepts a video, if nothing speaks against it. -/
def submit (submission : RenderSubmission) (s : Scripted) : Exchange Scripted JobId :=
  match s.crash, s.rejection with
  | some message, _ => ⟨.crashed (.formatted message), s, []⟩
  | none, some (status, message) => ⟨.failed (.submission (some status) message), s, []⟩
  | none, none =>
    let id := jobName (s.accepted + 1)
    ⟨.ok id,
      { s with
        accepted := s.accepted + 1
        jobs := s.jobs ++ [newJob id s.now]
        submissions := s.submissions ++ [submission] }, []⟩

/-- Uses up one status of a script: the first of several; the last one stays. -/
def advance : List RenderStatus → Option RenderStatus × List RenderStatus
  | [] => (none, [])
  | [status] => (some status, [status])
  | status :: rest => (some status, rest)

/-- Reports on a job, after its script has moved it. -/
def status (id : JobId) (s : Scripted) : Exchange Scripted RenderJob :=
  let (next, rest) := advance (s.scriptOf id)
  let s :=
    { s with
      statusCalls := s.statusCalls + 1
      scripts := s.scripts.map fun (owner, script) => (owner, if owner = id then rest else script) }
  match s.job? id with
  | none => ⟨.failed (.jobNotFound id), s, []⟩
  | some job =>
    let moved := match next with
      | some status => if status = job.status then job else withStatus job status s.now
      | none => job
    ⟨.ok moved, s.updateJob id fun _ => moved, []⟩

/-- The scripted engine. -/
def engine : Engine Scripted := ⟨submit, status⟩

end Scripted

end Storyboard
