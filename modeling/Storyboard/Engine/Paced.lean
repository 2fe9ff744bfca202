import Storyboard.Bucket
import Storyboard.Engine.Basic

/-!
# Paced engines

An engine that must not be asked too often is put behind a bucket of permits, from which both
operations take. Where no permit is left the caller waits for the next one: nothing is turned away,
so what comes of an operation is what comes of it without the bucket. An engine without such a limit
is put behind no bucket.
-/

namespace Storyboard

/-- The state of an engine that may be behind a bucket. -/
structure Paced (σ : Type) where
  /-- The state of the engine itself. -/
  inner : σ
  /-- The bucket, if there is one. -/
  bucket : Option Bucket
  /-- What the clock shows, in nanoseconds. -/
  now : Nat
deriving DecidableEq, Repr

namespace Paced

variable {σ α : Type}

/-- An engine with so many permits in a second, if it has such a limit. -/
def start (perSecond : Option Nat) (inner : σ) : Paced σ :=
  ⟨inner, perSecond.map fun n => .fresh n 0, 0⟩

/-- Takes a permit, and waits for it if there is none. -/
def acquire (p : Paced σ) : Paced σ :=
  match p.bucket with
  | none => p
  | some bucket =>
    let now := max p.now bucket.readyAt
    { p with bucket := some (bucket.take now).2, now }

/-- Does an operation with a permit. -/
def withPermit (operation : σ → Exchange σ α) (p : Paced σ) : Exchange (Paced σ) α :=
  let p := p.acquire
  let x := operation p.inner
  ⟨x.reply, { p with inner := x.state }, x.logs⟩

/-- The engine behind its bucket. -/
def engine (e : Engine σ) : Engine (Paced σ) where
  submit s := withPermit (e.submit s)
  status id := withPermit (e.status id)

end Paced

end Storyboard
