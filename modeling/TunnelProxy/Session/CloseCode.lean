/-!
# Close codes

The number with which one side of a session tells the other why it was closed.
-/

namespace TunnelProxy

/-- Why a session was closed. -/
inductive CloseCode where
  /-- No particular reason. -/
  | generic
  /-- The peer violated the protocol. -/
  | protocol
  /-- Authentication failed. -/
  | auth
  /-- A number without meaning here. -/
  | other (code : UInt16)
  deriving DecidableEq, Inhabited

namespace CloseCode

/-- The number of a code. -/
def code : CloseCode → UInt16
  | generic => 0
  | protocol => 1
  | auth => 2
  | other code => code

/-- The code with a number. -/
def ofCode (code : UInt16) : CloseCode :=
  if code = 0 then generic
  else if code = 1 then protocol
  else if code = 2 then auth
  else other code

/-- The text of a code. -/
def text : CloseCode → String
  | generic => "generic"
  | protocol => "protocol"
  | auth => "auth"
  | other code => s!"unknown({code.toNat})"

end CloseCode
end TunnelProxy
