import TunnelProxy.Socks.Message

/-!
# Access to the front-end

The front-end is open, or it asks for the name and the password of its only user.
-/

namespace TunnelProxy
namespace Socks

/-- Who may use the front-end. -/
inductive Access where
  /-- Everybody. -/
  | everybody
  /-- Who knows the name and the password of the user. -/
  | user (credentials : Credentials)
  deriving DecidableEq, Inhabited

namespace Access

/-- The way of authentication. -/
def method : Access → Method
  | everybody => .noAuth
  | user _ => .userPass

end Access
end Socks
end TunnelProxy
