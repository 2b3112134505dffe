import TunnelProxy.Net.SocketAddress
import TunnelProxy.Rate
import TunnelProxy.Text.Utf8

/-!
# Judging tokens

The tunnel server lets a client in or not by the token in its greeting.
-/

namespace TunnelProxy
namespace Tunnel

/-- The judgement of a client. -/
structure Verdict where
  /-- Whether the client is let in. -/
  accepted : Bool
  /-- A text for the user of the client. -/
  message : String
  deriving DecidableEq, Inhabited

/-- A way to judge a client by its address, its token and the rates the server would use. -/
abbrev Judge := Net.SocketAddress → Bytes → Rate → Verdict

namespace Judge

/-- The judgement of a client which is let in. -/
def welcome : Verdict := ⟨true, "Welcome"⟩

/-- Let every client in. -/
def acceptAll : Judge := fun _ _ _ => welcome

/-- Let the clients in whose token is a password. -/
def password (expected : Bytes) : Judge := fun _ token _ =>
  if token = expected then welcome else ⟨false, "Wrong password"⟩

end Judge
end Tunnel
end TunnelProxy
