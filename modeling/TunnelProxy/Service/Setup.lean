import TunnelProxy.Config.Client
import TunnelProxy.Config.Server
import TunnelProxy.Service.Describe

/-!
# Services of configurations

What a tunnel server and a front-end are made of, by their settings: where to listen, the keystream,
the rules, and all time limits.  A setting which can not be used makes the setup fail with the first
cause in the order of use: the server's address, the keystream, the rules.
-/

namespace TunnelProxy

/-- A tunnel server with all it needs. -/
structure ServerSetup where
  /-- Where to listen. -/
  listen : Net.SocketAddress
  /-- The keystream of sessions, if they are obfuscated. -/
  keystream : Option Keystream
  /-- How clients are judged. -/
  judge : Tunnel.Judge
  /-- How sessions are paced. -/
  pacing : PacingPolicy
  /-- How the sessions are served. -/
  server : Tunnel.Server

/-- A front-end with all it needs. -/
structure FrontEndSetup where
  /-- Where to listen. -/
  listen : Net.SocketAddress
  /-- The address of the tunnel server. -/
  server : Net.Address
  /-- The keystream of sessions, if they are obfuscated. -/
  keystream : Option Keystream
  /-- How sessions are paced. -/
  pacing : PacingPolicy
  /-- How a stream through the tunnel is made. -/
  client : Tunnel.Client
  /-- How clients are served. -/
  frontEnd : Socks.FrontEnd

namespace ServerConfig

/-- The time limit of relays without traffic, in milliseconds. -/
def idleMillis (config : ServerConfig) : Option Nat :=
  config.idleTimeout.map fun seconds => (Duration.ofSeconds seconds).millis

/-- The tunnel server of a configuration. -/
def setup (config : ServerConfig) (files : Config.Files) : Except ServiceError ServerSetup := do
  let keystream ← config.keystream
  let policy ← config.policy files
  let server : Tunnel.Server :=
    { ceiling := config.ceiling, dispatcher := .server policy, idle := config.idleMillis }
  return { listen := config.listen, keystream, judge := config.judge, pacing := config.pacing,
           server }

/-- How many milliseconds the listener waits for a connection before it looks for the request to
stop. -/
def acceptWait (config : ServerConfig) : Except IoError Int :=
  Duration.pollLimit (config.acceptTimeout.map .ofSeconds)

/-- When a read on a relayed stream gives up, if it begins now. -/
def readDeadline (config : ServerConfig) (now : Duration) : Deadline :=
  .ofLimit now (config.idleTimeout.map .ofSeconds)

end ServerConfig

namespace ClientConfig

/-- The time limit of negotiations and of relays without traffic, in milliseconds. -/
def limitMillis (config : ClientConfig) : Option Nat :=
  config.timeout.map fun seconds => (Duration.ofSeconds seconds).millis

/-- The tunnel client of a configuration; without a token it presents the empty one. -/
def tunnelClient (config : ClientConfig) : Tunnel.Client :=
  { rate := config.rate, token := Text.Utf8.encode (config.token.getD "") }

/-- The front-end of a configuration. -/
def setup (config : ClientConfig) (files : Config.Files) : Except ServiceError FrontEndSetup := do
  let server ← config.serverAddress
  let keystream ← config.keystream
  let policy ← config.policy files
  let frontEnd : Socks.FrontEnd :=
    { access := config.access, dispatcher := .frontEnd policy, timeout := config.limitMillis }
  return { listen := config.listen, server, keystream, pacing := config.pacing,
           client := config.tunnelClient, frontEnd }

/-- How many milliseconds the listener waits for a connection before it looks for the request to
stop. -/
def acceptWait (config : ClientConfig) : Except IoError Int :=
  Duration.pollLimit (config.acceptTimeout.map .ofSeconds)

/-- When the negotiation with a client has to be over, if it begins now. -/
def negotiationDeadline (config : ClientConfig) (now : Duration) : Deadline :=
  .ofLimit now (config.timeout.map .ofSeconds)

end ClientConfig

/-- The text of connecting directly within a time limit in seconds. -/
def describeDirect (seconds : UInt64) : String :=
  Text.record "Direct" [("dial_timeout", (Duration.ofSeconds seconds).text)]

/-- The text of a tunnel server and its settings. -/
def ServerSetup.describe (setup : ServerSetup) (config : ServerConfig) : String :=
  setup.server.describe setup.pacing (describeDirect config.dialTimeout)

/-- The text of a front-end and its settings. -/
def FrontEndSetup.describe (setup : FrontEndSetup) (config : ClientConfig) : String :=
  setup.frontEnd.describe (describeDirect config.dialTimeout)

end TunnelProxy
