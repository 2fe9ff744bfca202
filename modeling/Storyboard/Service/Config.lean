import Storyboard.Engine.Config

/-!
# Settings of the service
-/

namespace Storyboard.Service

/-- The settings of the service. -/
structure Config where
  /-- The host that it runs on. -/
  host : String := "0.0.0.0"
  /-- The port that it listens on. -/
  port : Nat := 8000
  /-- The origins whose pages may use it; a star stands for all. -/
  corsOrigins : List String := ["*"]
  /-- The requests that an address may make in a second. -/
  rateLimit : Nat := 10
  /-- The most bytes of a body. -/
  maxBodySize : Nat := 2 * 1024 * 1024
  /-- The name of the environment. -/
  environment : String := "development"
  /-- Whether its counts are shown. -/
  metricsEnabled : Bool := true
deriving DecidableEq, Repr

namespace Config

/-- The settings that an environment gives. -/
def ofEnvironment (env : Environment) : Config :=
  let usual : Config := {}
  { host := (env "API_HOST").getD usual.host
    port := (env.number? "API_PORT" 65536).getD usual.port
    corsOrigins := ((env "CORS_ORIGINS").map fun s =>
      (Text.splitOn ',' s.toList).map fun piece => String.ofList (Text.trimChars piece)).getD
        usual.corsOrigins
    rateLimit := (env.number? "RATE_LIMIT_RPS" 4294967296).getD usual.rateLimit
    maxBodySize := (env.number? "MAX_BODY_SIZE" 18446744073709551616).getD usual.maxBodySize
    environment := (env "ENVIRONMENT").getD usual.environment
    metricsEnabled := ((env "METRICS_ENABLED").map fun s => s = "true" || s = "1").getD
      usual.metricsEnabled }

/-- Whether the service is open to the public, so that nobody may see inside. -/
def isProduction (c : Config) : Bool :=
  String.ofList (c.environment.toList.map Text.lowerChar) = "production"

end Config

end Storyboard.Service
