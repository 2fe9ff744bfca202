import Storyboard.Engine.Basic
import Storyboard.Service.Config
import Storyboard.Service.Limiter

/-!
# The service

A service is its settings and an engine. What changes from request to request is a session: the
state of the engine, the notes that have been taken, and the limiter. The clock is read once for
every request and given to it.
-/

namespace Storyboard.Service

/-- What does not change while a service runs. -/
structure Server (σ : Type) where
  /-- The settings. -/
  config : Config
  /-- The engine. -/
  engine : Engine σ
  /-- The address that the engine is to call when a job is finished. -/
  callback : Option String
  /-- Whether the engine has all that it needs. -/
  isConfigured : Bool
  /-- Whether what is counted is kept. -/
  keepsCounts : Bool

/-- What changes while a service runs. -/
structure Session (σ : Type) where
  /-- The state of the engine and the notes. -/
  world : World σ
  /-- The buckets of the addresses. -/
  limiter : Limiter

/-- What is the case when a request comes in. -/
structure Moment where
  /-- What the clock shows. -/
  clock : Stamp
  /-- The nanoseconds since the service was started. -/
  elapsed : Nat
  /-- A name that no request has had. -/
  freshId : String
deriving DecidableEq, Repr

/-- What comes of a request that is dealt with. -/
inductive Outcome (α : Type)
  /-- A result. -/
  | done (value : α)
  /-- A breakdown. -/
  | crashed (breakdown : Breakdown)
deriving DecidableEq, Repr

namespace Server

variable {σ : Type}

/-- The session that a service starts with. -/
def start (s : Server σ) (engine : σ) : Session σ :=
  ⟨⟨engine, [], []⟩, .ofRate s.config.rateLimit⟩

end Server

end Storyboard.Service
