import TunnelProxy.Acl.Describe
import TunnelProxy.Duration
import TunnelProxy.Obfuscation.Keystream
import TunnelProxy.Session.Pacing
import TunnelProxy.Socks.FrontEnd
import TunnelProxy.Tunnel.Client
import TunnelProxy.Tunnel.Server

/-!
# Descriptions of services

The texts by which services appear in messages: their settings, and nothing secret.
-/

namespace TunnelProxy

/-- The text of a time limit in milliseconds. -/
def describeLimit (limit : Option Nat) : String :=
  Text.optional (limit.map fun millis => (Duration.ofMillis millis).text)

/-- The text of a bound of a rate. -/
def describeBound (bound : Option UInt64) : String :=
  Text.optional (bound.map fun bps => toString bps.toNat)

/-- The text of a service at the SOCKS front-end. -/
def Socks.FrontEnd.describe (frontEnd : FrontEnd) (connector : String) : String :=
  Text.record "SocksHandler"
    [("method", frontEnd.access.method.name), ("dispatcher", frontEnd.dispatcher.describe),
      ("connector", connector), ("timeout", describeLimit frontEnd.timeout)]

/-- The text of a service at the tunnel server. -/
def Tunnel.Server.describe (server : Server) (pacing : PacingPolicy) (connector : String) : String :=
  let ceiling :=
    Text.record "RateCeiling"
      [("send_bps", describeBound server.ceiling.send),
        ("recv_bps", describeBound server.ceiling.recv)]
  Text.record "TunnelHandler"
    [("ceiling", ceiling), ("congestion", pacing.name),
      ("dispatcher", server.dispatcher.describe), ("connector", connector),
      ("idle_timeout", describeLimit server.idle),
      ("handshake_timeout", (Duration.ofMillis server.greetingLimit).text)]

/-- The text of a tunnel client with a way to connect to its server. -/
def Tunnel.Client.describe (client : Client) (dialer : String) : String :=
  let rate :=
    Text.record "Rate"
      [("send_bps", toString client.rate.send.toNat), ("recv_bps", toString client.rate.recv.toNat)]
  Text.record "TunnelClient" [("dialer", dialer), ("rate", rate)]

/-- The text of connecting to a tunnel server. -/
def Net.Address.describeDialer (server : Address) (keystream : Option Keystream) : String :=
  s!"MuxDialer({server.text}, obfs: {Text.optional (keystream.map Keystream.text)})"

/-- The text of judging by a password. -/
def Tunnel.Judge.describePassword : String := "PasswordAuth(..)"

/-- The text of access for a single user. -/
def Socks.Access.describeUser : String := "UserPassService"

/-- The text of a stream on which messages are read and written. -/
def describeStream (stream : String) : String := s!"ReadWriteStream({stream})"

end TunnelProxy
