import Storyboard.Engine.Tracker
import Storyboard.Text.Blank

/-!
# Settings of the engine

How the render engine is reached. The settings are read from the environment; a variable that is
missing, blank or makes no sense leaves the usual setting.
-/

namespace Storyboard

/-- The variables of an environment. -/
abbrev Environment := String → Option String

namespace Environment

/-- The value of a variable without the blanks around it, if anything is left. -/
def filled? (env : Environment) (name : String) : Option String :=
  ((env name).map Text.trim).filter (· ≠ "")

/-- The number below `bound` that a variable holds. -/
def number? (env : Environment) (name : String) (bound : Nat) : Option Nat :=
  (env name).bind fun s => Text.unsigned bound s.toList

end Environment

/-- How the render engine is reached. -/
structure EngineConfig where
  /-- The address that all others start with. -/
  baseUrl : String := "http://localhost:4000"
  /-- The credential. Its absence is reported when it is needed. -/
  apiKey : Option String := none
  /-- The address to call when a job is finished. -/
  callbackUrl : Option String := none
  /-- How many seconds to wait for an answer. -/
  timeout : Nat := 10
  /-- The most requests in a second, if there is such a limit. -/
  rateLimit : Option Nat := none
deriving DecidableEq, Repr

/-- A text without the slashes at its end. -/
def withoutSlashes (s : String) : String :=
  String.ofList ((s.toList.reverse.dropWhile (· = '/')).reverse)

namespace EngineConfig

/-- The settings that an environment gives. -/
def ofEnvironment (env : Environment) : EngineConfig :=
  let usual : EngineConfig := {}
  { baseUrl := ((env "RENDER_API_URL").map withoutSlashes).getD usual.baseUrl
    apiKey := env.filled? "RENDER_API_KEY"
    callbackUrl := env.filled? "RENDER_CALLBACK_URL"
    timeout := (env.number? "RENDER_TIMEOUT_SECS" 18446744073709551616).getD usual.timeout
    rateLimit := (env.number? "RENDER_RATE_LIMIT_RPS" 4294967296).filter (· ≠ 0) }

end EngineConfig

end Storyboard
