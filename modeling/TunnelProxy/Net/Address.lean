import TunnelProxy.Net.SocketAddress

/-!
# Destination addresses

A destination is a host and a port, where the host is an IP address or a domain.  Reading a
destination from text never yields a domain which spells an IP address.
-/

namespace TunnelProxy
namespace Net

open Text (Numeral.decimal?)

/-- Where a client wants to be connected. -/
inductive Address where
  /-- A literal IP address and a port. -/
  | ip (host : IpAddr) (port : UInt16)
  /-- A domain and a port. -/
  | domain (name : String) (port : UInt16)
  deriving DecidableEq, Inhabited

namespace Address

/-- The text of a destination. -/
def text : Address → String
  | ip host port => (SocketAddress.ofIp host port).text
  | domain name port => s!"{name}:{port.toNat}"

/-- The port of a destination. -/
def port : Address → UInt16
  | ip _ port => port
  | domain _ port => port

/-- The domain of a destination, if it has one. -/
def domain? : Address → Option String
  | ip _ _ => none
  | domain name _ => some name

/-- The IP address of a destination, if it is literal. -/
def ip? : Address → Option IpAddr
  | ip host _ => some host
  | domain _ _ => none

/-- A destination on the host named by a text, an IP address exactly when the text is one. -/
def ofHost (host : List Char) (port : UInt16) : Address :=
  match IpAddr.parse? host with
  | some literal => ip literal port
  | none => domain (String.ofList host) port

/-- The same port on another host. -/
def withHost (address : Address) (host : String) : Address :=
  ofHost host.toList address.port

/-- The destination of a socket address. -/
def ofSocketAddress (address : SocketAddress) : Address :=
  ip address.ip address.port

/-- Separate the host from the port: `host:port`, or any host without `]` in brackets. -/
def splitHost? : List Char → Option (List Char × List Char)
  | '[' :: rest =>
      match splitFirst? ']' rest with
      | some (host, ':' :: port) => some (host, port)
      | _ => none
  | chars =>
      match splitLast? ':' chars with
      | some (host, port) => if host.contains ':' then none else some (host, port)
      | none => none

/-- Read a destination. -/
def parse? (text : String) : Option Address := do
  let (host, digits) ← splitHost? text.toList
  if host.isEmpty then none
  else return ofHost host (UInt16.ofNat (← Numeral.decimal? 0xFFFF digits))

end Address
end Net
end TunnelProxy
