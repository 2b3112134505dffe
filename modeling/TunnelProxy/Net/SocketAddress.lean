import TunnelProxy.Net.IpText

/-!
# Socket addresses

An IP address together with a port, as a listener or a peer is named.
-/

namespace TunnelProxy
namespace Net

open Text (Numeral.digits?)

/-- A host and a port; a version 6 host may be qualified by the scope it belongs to. -/
inductive SocketAddress where
  /-- A version 4 host. -/
  | v4 (host : Ipv4) (port : UInt16)
  /-- A version 6 host; scope zero means that none is given. -/
  | v6 (host : Ipv6) (port : UInt16) (scope : UInt32)
  deriving DecidableEq, Inhabited

namespace SocketAddress

/-- An address without scope. -/
def ofIp : IpAddr → UInt16 → SocketAddress
  | .v4 host, port => v4 host port
  | .v6 host, port => v6 host port 0

/-- The host without its scope. -/
def ip : SocketAddress → IpAddr
  | v4 host _ => .v4 host
  | v6 host _ _ => .v6 host

/-- The port. -/
def port : SocketAddress → UInt16
  | v4 _ port => port
  | v6 _ port _ => port

/-- The text of an address; version 6 hosts stand in brackets. -/
def text : SocketAddress → String
  | v4 host port => s!"{host.text}:{port.toNat}"
  | v6 host port scope =>
      if scope = 0 then s!"[{host.text}]:{port.toNat}"
      else s!"[{host.text}%{scope.toNat}]:{port.toNat}"

/-- A port: decimal digits only. -/
def port? (chars : List Char) : Option UInt16 :=
  (Numeral.digits? 10 0xFFFF chars).map UInt16.ofNat

/-- The inside of the brackets: a version 6 host and perhaps a scope after a percent sign. -/
def scoped? (chars : List Char) : Option (Ipv6 × UInt32) :=
  match splitFirst? '%' chars with
  | some (host, scope) => do
      return (← Ipv6.parse? host, UInt32.ofNat (← Numeral.digits? 10 0xFFFFFFFF scope))
  | none => do return (← Ipv6.parse? chars, 0)

/-- Read `a.b.c.d:port` or `[v6]:port`. -/
def parse? (chars : List Char) : Option SocketAddress :=
  match chars with
  | '[' :: rest => do
      let (inside, after) ← splitFirst? ']' rest
      let (host, scope) ← scoped? inside
      match after with
      | ':' :: digits => return v6 host (← port? digits) scope
      | _ => none
  | _ => do
      let (host, digits) ← splitFirst? ':' chars
      return v4 (← Ipv4.parse? host) (← port? digits)

end SocketAddress
end Net
end TunnelProxy
