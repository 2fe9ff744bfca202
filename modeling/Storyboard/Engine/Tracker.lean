import Storyboard.Engine.Basic

/-!
# Following jobs

The tracker asks an engine for a job, once or until the job has come to an end. It keeps nothing
about jobs. The pauses between two looks grow, and each is varied a little, so that many who wait do
not all come back at once. The numbers that vary the pauses are given to a wait, and so is what a
pause does to the engine, which may go on working meanwhile.
-/

namespace Storyboard

/-- How long to wait between looks, and how many looks to take. -/
structure PollSchedule where
  /-- The first pause in milliseconds. -/
  baseDelay : Nat := 1000
  /-- The longest pause in milliseconds. -/
  maxDelay : Nat := 15000
  /-- The number of looks. -/
  maxAttempts : Nat := 60
deriving DecidableEq, Repr

namespace PollSchedule

/-- The longest pause that occurs. -/
def longest (s : PollSchedule) : Nat := max s.maxDelay s.baseDelay

/-- The pause after a look, the first of which has number zero, before it is varied. It doubles from
look to look up to the longest one. -/
def step (s : PollSchedule) (attempt : Nat) : Nat := min (s.baseDelay * Nat.pow 2 attempt) s.longest

/-- The pause after a look, given the pause before and the number that was drawn for it, which is
taken from the upper half of the step. A pause is never shorter than the one before. -/
def pause (s : PollSchedule) (attempt previous drawn : Nat) : Nat :=
  let top := s.step attempt
  let varied := if top ≤ 1 then top else max (top / 2) (min drawn top)
  min (max varied previous) s.longest

end PollSchedule

/-- What goes on between the looks of a wait. -/
structure Interlude (σ : Type) where
  /-- The numbers that are drawn for the pauses, one after each look. -/
  drawn : Nat → Nat := fun _ => 0
  /-- What a pause of so many milliseconds does to the engine. -/
  pass : Nat → σ → σ := fun _ s => s

namespace Engine

variable {σ : Type}

/-- Takes one look at a job. -/
def poll (engine : Engine σ) (id : JobId) (w : World σ) : Reply RenderJob × World σ :=
  let x := engine.status id w.engine
  let w := w.after x
  match x.reply with
  | .ok job => (.ok job, w.count (.poll (some job.status)))
  | .failed error => (.failed error, w.count (.poll none))
  | .crashed breakdown => (.crashed breakdown, w)

/-- The warning about a job that has gone backwards. -/
def wentBackwards (before now : RenderStatus) : LogEntry :=
  .warning "Render job status went backwards"
    [("from", .text (Vocabulary.word before)), ("to", .text (Vocabulary.word now))]

/-- Notes down a job that has gone backwards since the look before. -/
def noteOrder (w : World σ) (before : Option RenderStatus) (now : RenderStatus) : World σ :=
  match before with
  | some b => if now.isReachableFrom b then w else w.log (wentBackwards b now)
  | none => w

/-- Looks at a job until it has come to an end, an error comes up, or `left` looks have been taken
of those that the schedule allows. The look before showed the status `before`, and `pause` was made
after it. -/
def waitFrom (engine : Engine σ) (between : Interlude σ) (id : JobId) (schedule : PollSchedule) :
    (left : Nat) → Option RenderStatus → (pause : Nat) → World σ → Reply RenderJob × World σ
  | 0, _, _, w => (.failed (.pollTimeout id schedule.maxAttempts), w)
  | left + 1, before, pause, w =>
    match engine.poll id w with
    | (.ok job, w) =>
      let w := noteOrder w before job.status
      if job.status.isTerminal then (.ok job, w)
      else
        let attempt := schedule.maxAttempts - (left + 1)
        let pause := schedule.pause attempt pause (between.drawn attempt)
        -- after the last look there is nothing to wait for
        let w := if left = 0 then w else { w with engine := between.pass pause w.engine }
        waitFrom engine between id schedule left (some job.status) pause w
    | other => other

/-- Looks at a job until it has come to an end, an error comes up, or all looks have been taken. If
nothing else is said, the pauses do nothing to the engine. -/
def waitForEnd (engine : Engine σ) (id : JobId) (schedule : PollSchedule) (w : World σ)
    (between : Interlude σ := {}) : Reply RenderJob × World σ :=
  waitFrom engine between id schedule schedule.maxAttempts none 0 w

end Engine

end Storyboard
