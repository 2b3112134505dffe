import TunnelProxy.Config.Field
import TunnelProxy.Tunnel.Judge

/-!
# Configuration of the tunnel server
-/

namespace TunnelProxy

open Yaml (Node)

/-- The settings of a tunnel server. -/
structure ServerConfig where
  /-- Where to listen. -/
  listen : Net.SocketAddress := .v4 ⟨0, 0, 0, 0⟩ 36712
  /-- Bounds of the rates of each session. -/
  ceiling : RateCeiling := {}
  /-- The token which clients have to present. -/
  password : Option String := none
  /-- The key of the obfuscation. -/
  key : Option String := none
  /-- The file with the rules. -/
  rules : Option String := none
  /-- The pacing of sessions. -/
  pacing : PacingPolicy := .transportDefault
  /-- The time limit of relays without traffic, in seconds. -/
  idleTimeout : Option UInt64 := none
  /-- How often the listener looks for the request to stop, in seconds. -/
  acceptTimeout : Option UInt64 := some 3
  /-- The time limit of connecting, in seconds. -/
  dialTimeout : UInt64 := 10
  deriving DecidableEq, Inhabited

namespace ServerConfig

/-- The names of the settings. -/
def fields : List String :=
  ["listen", "rate_ceiling", "password", "obfs", "acl", "congestion", "idle_timeout",
    "accept_timeout", "dial_timeout"]

/-- Read settings; those which are absent have their defaults. -/
def ofNode? (node : Node) : Option ServerConfig := do
  let initial : ServerConfig := {}
  let record ← node.record? true fields
  let listen ← record.value? "listen" Config.socketAddress? initial.listen
  let ceiling ← record.value? "rate_ceiling" Config.ceiling? initial.ceiling
  let password ← record.value? "password" (Node.optional? Node.text?) initial.password
  let key ← record.value? "obfs" (Node.optional? Node.text?) initial.key
  let rules ← record.value? "acl" (Node.optional? Node.text?) initial.rules
  let pacing ← record.value? "congestion" Config.pacing? initial.pacing
  let idleTimeout ← record.value? "idle_timeout" Config.limit? initial.idleTimeout
  let acceptTimeout ← record.value? "accept_timeout" Config.limit? initial.acceptTimeout
  let dialTimeout ← record.value? "dial_timeout" Node.word64? initial.dialTimeout
  return { listen, ceiling, password, key, rules, pacing, idleTimeout, acceptTimeout, dialTimeout }

/-- The settings in a file. -/
def load (files : Config.Files) (file : String) : Except ServiceError ServerConfig :=
  Config.load ofNode? files file

/-- The policy for requests. -/
def policy (config : ServerConfig) (files : Config.Files) : Except ServiceError Acl.Policy :=
  Config.policy files config.rules

/-- The keystream of the obfuscation. -/
def keystream (config : ServerConfig) : Except ServiceError (Option Keystream) :=
  Config.keystream config.key

/-- How clients are judged. -/
def judge (config : ServerConfig) : Tunnel.Judge :=
  match config.password with
  | some password => .password (Text.Utf8.encode password)
  | none => .acceptAll

end ServerConfig
end TunnelProxy
