import TunnelProxy.Error

/-!
# Actions and decisions

What the rules say about a destination, and what that means for the connection to it.
-/

namespace TunnelProxy
namespace Acl

/-- What to do with a request. -/
inductive Action where
  /-- Connect from this host. -/
  | direct
  /-- Connect through the tunnel. -/
  | proxy
  /-- Do not connect. -/
  | block
  /-- Connect from this host to another one. -/
  | hijack
  /-- A number without meaning. -/
  | unknown (code : UInt8)
  deriving DecidableEq, Inhabited

namespace Action

/-- The action with a number. -/
def ofCode (code : UInt8) : Action :=
  if code = 0 then direct
  else if code = 1 then proxy
  else if code = 2 then block
  else if code = 3 then hijack
  else unknown code

/-- The number of an action. -/
def code : Action → UInt8
  | direct => 0
  | proxy => 1
  | block => 2
  | hijack => 3
  | unknown code => code

/-- The text of an action. -/
def text : Action → String
  | direct => "Direct"
  | proxy => "Proxy"
  | block => "Block"
  | hijack => "Hijack"
  | unknown code => s!"Unknown({code.toNat})"

end Action

/-- An action and what it is to be done with. -/
structure Decision where
  /-- What to do. -/
  action : Action
  /-- The host to connect to instead, for the actions which name one. -/
  argument : String := ""
  deriving DecidableEq, Inhabited

namespace Decision

/-- The text of a decision. -/
def text (decision : Decision) : String :=
  if decision.argument.isEmpty then decision.action.text
  else s!"{decision.action.text}({decision.argument})"

end Decision

/-- The two ways to reach a destination. -/
inductive Way where
  /-- From this host. -/
  | direct
  /-- Through the tunnel. -/
  | proxy
  deriving DecidableEq, Inhabited

/-- The name of a way. -/
def Way.name : Way → String
  | direct => "direct"
  | proxy => "proxy"

/-- A connection to be made. -/
structure Route where
  /-- How to connect. -/
  way : Way
  /-- Where to connect to. -/
  address : Net.Address
  deriving DecidableEq, Inhabited

namespace Decision

/-- The connection which a decision about a destination asks for, or why there is none. -/
def route (decision : Decision) (target : Net.Address) : Except Error Route :=
  match decision.action with
  | .direct => .ok ⟨.direct, target⟩
  | .proxy => .ok ⟨.proxy, target⟩
  | .block => .error (.blocked target)
  | .hijack =>
      if decision.argument.isEmpty then .error (.invalidAddress s!"hijack of {target.text}")
      else .ok ⟨.direct, target.withHost decision.argument⟩
  | .unknown code => .error (.unknownAction code)

end Decision
end Acl
end TunnelProxy
