import Storyboard.Engine.Paced
import Storyboard.Engine.Remote
import Storyboard.Service.Serving

/-!
# The service over the remote engine

A service that hands its videos to the remote engine takes the address to call from the settings of
the engine, and keeps to the limit that they give. It counts as set up as soon as there is a
credential.
-/

namespace Storyboard.Service

namespace Server

/-- The service over the remote engine with the given settings. -/
def overRemote (config : Config) (engine : EngineConfig) (keepsCounts : Bool) :
    Server (Paced Network) where
  config := config
  engine := Paced.engine (Remote.engine engine)
  callback := engine.callbackUrl
  isConfigured := engine.apiKey.isSome
  keepsCounts := keepsCounts

/-- The state that the remote engine starts with, where the network is as given. -/
def remoteStart (engine : EngineConfig) (network : Network) : Paced Network :=
  .start engine.rateLimit network

end Server

end Storyboard.Service
