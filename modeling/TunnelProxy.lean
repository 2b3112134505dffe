import TunnelProxy.Main
import TunnelProxy.Obfuscation.Datagram
import TunnelProxy.Proofs.Acl.Dispatch
import TunnelProxy.Proofs.Acl.Literal
import TunnelProxy.Proofs.Acl.Validation
import TunnelProxy.Proofs.Acl.Wildcard
import TunnelProxy.Proofs.Mux.Delivery
import TunnelProxy.Proofs.Mux.Endings
import TunnelProxy.Proofs.Mux.Holders
import TunnelProxy.Proofs.Mux.Reading
import TunnelProxy.Proofs.Mux.Reason
import TunnelProxy.Proofs.Net.AddressGrammar
import TunnelProxy.Proofs.Obfuscation.Line
import TunnelProxy.Proofs.Relay.Ending
import TunnelProxy.Proofs.Relay.Scenario
import TunnelProxy.Proofs.Service.Accepting
import TunnelProxy.Proofs.Service.Limits
import TunnelProxy.Proofs.Service.Shutdown
import TunnelProxy.Proofs.Service.Table
import TunnelProxy.Proofs.Session.Opening
import TunnelProxy.Proofs.Socks.Codec
import TunnelProxy.Proofs.Socks.Versions
import TunnelProxy.Proofs.Tunnel.Partings
import TunnelProxy.Proofs.Tunnel.Target
import TunnelProxy.Scenario.Dialing
import TunnelProxy.Scenario.Visits
import TunnelProxy.Service.Acceptor
import TunnelProxy.Text.Hex
