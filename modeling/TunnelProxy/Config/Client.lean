import TunnelProxy.Config.Field
import TunnelProxy.Socks.Access

/-!
# Configuration of the front-end

The front-end is a tunnel client at the same time, so its settings name the tunnel server too.
-/

namespace TunnelProxy

open Yaml (Node)

/-- The settings of a front-end. -/
structure ClientConfig where
  /-- Where to listen. -/
  listen : Net.SocketAddress := .v4 ⟨127, 0, 0, 1⟩ 1080
  /-- The tunnel server as `host:port`. -/
  server : String := "127.0.0.1:36712"
  /-- The rates to ask for, which are 100 megabits per second by default. -/
  rate : Rate := ⟨12500000, 12500000⟩
  /-- The token to present. -/
  token : Option String := none
  /-- The key of the obfuscation. -/
  key : Option String := none
  /-- The file with the rules. -/
  rules : Option String := none
  /-- The only user who is let in. -/
  user : Option Socks.Credentials := none
  /-- The pacing of sessions. -/
  pacing : PacingPolicy := .transportDefault
  /-- The time limit of negotiations and of relays without traffic, in seconds. -/
  timeout : Option UInt64 := some 300
  /-- How often the listener looks for the request to stop, in seconds. -/
  acceptTimeout : Option UInt64 := some 3
  /-- The time limit of connecting, in seconds. -/
  dialTimeout : UInt64 := 10
  deriving DecidableEq, Inhabited

namespace ClientConfig

/-- The names of the settings. -/
def fields : List String :=
  ["listen", "server", "rate", "auth", "obfs", "acl", "socks_user", "congestion", "tcp_timeout",
    "accept_timeout", "dial_timeout"]

/-- Read the name and the password of a user. -/
def user? (node : Node) : Option Socks.Credentials := do
  let record ← node.record? false ["username", "password"]
  let username ← record.required? "username" Node.text?
  let password ← record.required? "password" Node.text?
  return { username, password }

/-- Read settings; those which are absent have their defaults. -/
def ofNode? (node : Node) : Option ClientConfig := do
  let initial : ClientConfig := {}
  let record ← node.record? true fields
  let listen ← record.value? "listen" Config.socketAddress? initial.listen
  let server ← record.value? "server" Node.text? initial.server
  let rate ← record.value? "rate" Config.rate? initial.rate
  let token ← record.value? "auth" (Node.optional? Node.text?) initial.token
  let key ← record.value? "obfs" (Node.optional? Node.text?) initial.key
  let rules ← record.value? "acl" (Node.optional? Node.text?) initial.rules
  let user ← record.value? "socks_user" (Node.optional? user?) initial.user
  let pacing ← record.value? "congestion" Config.pacing? initial.pacing
  let timeout ← record.value? "tcp_timeout" Config.limit? initial.timeout
  let acceptTimeout ← record.value? "accept_timeout" Config.limit? initial.acceptTimeout
  let dialTimeout ← record.value? "dial_timeout" Node.word64? initial.dialTimeout
  return { listen, server, rate, token, key, rules, user, pacing, timeout, acceptTimeout,
           dialTimeout }

/-- The settings in a file. -/
def load (files : Config.Files) (file : String) : Except ServiceError ClientConfig :=
  Config.load ofNode? files file

/-- The address of the tunnel server. -/
def serverAddress (config : ClientConfig) : Except ServiceError Net.Address :=
  match Net.Address.parse? config.server with
  | some address => .ok address
  | none =>
      let cause := Error.invalidAddress config.server
      .error (.invalidConfig s!"server: {cause.message}")

/-- The policy for requests. -/
def policy (config : ClientConfig) (files : Config.Files) : Except ServiceError Acl.Policy :=
  Config.policy files config.rules

/-- The keystream of the obfuscation. -/
def keystream (config : ClientConfig) : Except ServiceError (Option Keystream) :=
  Config.keystream config.key

/-- Who may use the front-end. -/
def access (config : ClientConfig) : Socks.Access :=
  match config.user with
  | some credentials => .user credentials
  | none => .everybody

end ClientConfig
end TunnelProxy
