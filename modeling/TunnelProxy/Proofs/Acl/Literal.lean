import TunnelProxy.Proofs.Socks.Dispatch
import TunnelProxy.Proofs.Tunnel.Response

/-!
# IP addresses among destinations

Rules see a destination either as a domain or as an IP address.  A destination which the tunnel
server reads from text is seen as an IP address whenever its host spells one.  At the front-end this
holds exactly of the address fields which are not announced as domains: a domain which spells an IP
address is seen as a domain, and some rules decide otherwise about it than about the address.
-/

namespace TunnelProxy

/-! ## Destinations -/

namespace Net
namespace Address

/-- A destination is seen as this IP address, and not as a domain. -/
def SeenAs (target : Address) (address : IpAddr) : Prop :=
  target.domain? = none ∧ target.ip? = some address

theorem seenAs_iff (target : Address) (address : IpAddr) :
    target.SeenAs address ↔ target = .ip address target.port := by
  cases target with
  | ip host port => simp [SeenAs, domain?, ip?, Address.port]
  | domain name port => simp [SeenAs, domain?]

/-- The host which a text names a destination with. -/
def host? (text : String) : Option (List Char) :=
  (splitHost? text.toList).map Prod.fst

/-- A destination which is read from text is seen as an IP address if its host spells one. -/
theorem seenAs_of_parse? {text : String} {target : Address} {host : List Char} {address : IpAddr}
    (parsed : parse? text = some target) (named : host? text = some host)
    (literal : IpAddr.parse? host = some address) : target.SeenAs address := by
  rw [host?] at named
  obtain ⟨⟨name, digits⟩, split, rfl⟩ := Option.map_eq_some_iff.mp named
  simp only [parse?, split, Option.bind_eq_bind, Option.bind_some] at parsed
  split at parsed
  · cases parsed
  · obtain ⟨port, -, built⟩ := Option.bind_eq_some_iff.mp parsed
    cases built
    rw [ofHost, literal]
    exact ⟨rfl, rfl⟩

end Address
end Net

namespace Acl

open Net (Address)

/-- Every dispatcher decides about a destination as about an IP address if it is seen as that. -/
theorem decide_of_seenAs {target : Address} {address : Net.IpAddr} (seen : target.SeenAs address)
    (dispatcher : Dispatcher) (port : UInt16) :
    dispatcher.decide target = dispatcher.decide (.ip address port) := by
  rw [Dispatcher.decide, seen.1, seen.2]
  rfl

/-- Some rules tell a domain from an IP address, whatever they are. -/
theorem exists_decide_ne (address : Net.IpAddr) (name : String) (port : UInt16) :
    ∃ dispatcher : Dispatcher,
      dispatcher.decide (.domain name port) ≠ dispatcher.decide (.ip address port) := by
  obtain ⟨network, contains⟩ : ∃ network : Network, network.contains address = true := by
    cases address with
    | v4 host => exact ⟨.v4 host 0 (by decide), by simp [Network.contains]⟩
    | v6 host => exact ⟨.v6 host 0 (by decide), by simp [Network.contains]⟩
  refine ⟨.frontEnd (.rules ⟨[⟨⟨.block, ""⟩, .specific (.network network)⟩], none⟩), ?_⟩
  simp [Dispatcher.decide, Dispatcher.frontEnd, Policy.lookup, RuleSet.lookup, RulePattern.isMatch,
    HostPattern.isMatch, Address.domain?, Address.ip?, contains]

end Acl

/-! ## Entry points -/

namespace Socks

/-- The IP address which the host of a field is, or which it spells. -/
def AddressField.literal? (field : AddressField) : Option Net.IpAddr :=
  match field.host with
  | .ip address => some address
  | .domain name => Net.IpAddr.parse? (Text.Utf8.decode name).toList

/-- A decision of the front-end and the address field it is about. -/
structure FrontEnd.Decides (frontEnd : FrontEnd) (client : StreamRef) (exchanges : List Exchange)
    (decision : Acl.Decision) (field : AddressField) (target : Net.Address) : Prop where
  /-- The client sent the field as the last part of its request. -/
  sent : ∃ bytes, frontEnd.access.negotiation.run (heard client exchanges) = (.ok (), bytes) ∧
    addressField.run (bytes.drop 3) = (.ok field, [])
  /-- The destination is that of the field. -/
  meant : field.toAddress = .ok target
  /-- The decision is the one about the destination. -/
  decided : decision = frontEnd.dispatcher.decide target

/-- A field which is or spells an IP address is seen as that address, and every dispatcher decides
about it as about the address, exactly if it is not announced as a domain. -/
theorem AddressField.seenAs_iff {field : AddressField} {target : Net.Address}
    {address : Net.IpAddr} (meant : field.toAddress = .ok target)
    (literal : field.literal? = some address) :
    (target.SeenAs address ↔ field.type ≠ .domain) ∧
      ((∀ dispatcher : Acl.Dispatcher,
        dispatcher.decide target = dispatcher.decide (.ip address field.port)) ↔
          field.type ≠ .domain) := by
  rw [AddressField.literal?] at literal
  rcases AddressField.toAddress_eq_ok meant with
    ⟨_, host, form, rfl⟩ | ⟨name, host, form, rfl⟩
  · rw [host] at literal
    cases literal
    have seen : (Net.Address.ip address field.port).SeenAs address := ⟨rfl, rfl⟩
    exact ⟨⟨fun _ => form, fun _ => seen⟩, ⟨fun _ => form, fun _ dispatcher => rfl⟩⟩
  · refine ⟨⟨fun seen => ?_, fun other => absurd form other⟩,
      ⟨fun same => ?_, fun other => absurd form other⟩⟩
    · cases seen.1
    · obtain ⟨dispatcher, differ⟩ := Acl.exists_decide_ne address (Text.Utf8.decode name) field.port
      exact absurd (same dispatcher) differ

end Socks

namespace Tunnel

/-- A decision of the tunnel server and the text it is about. -/
structure Server.Decides (server : Server) (decision : Acl.Decision) (text : String)
    (target : Net.Address) : Prop where
  /-- The destination is that of the text. -/
  meant : Net.Address.parse? text = some target
  /-- The decision is the one about the destination. -/
  decided : decision = server.dispatcher.decide target

theorem Server.decides_of_run {server : Server} {peer : Net.SocketAddress} {token : Bytes}
    {stream : StreamRef} {exchanges : List Exchange} {info : RequestInfo} {decision : Acl.Decision}
    (run : Program.Run (server.handleStream peer token stream) exchanges ())
    (told : (⟨.observe (.request info decision), ()⟩ : Exchange) ∈ exchanges) :
    ∃ target, server.Decides decision info.address target := by
  have served := (server.asks_handleStream peer token stream).of_after run _ told
  cases served with
  | decided parsed => exact ⟨_, parsed, rfl⟩

end Tunnel

theorem Socks.FrontEnd.decides_of_run {frontEnd : FrontEnd} {peer : Net.SocketAddress}
    {client : StreamRef} {exchanges : List Exchange} {outcome : Except Error Unit}
    {info : RequestInfo} {decision : Acl.Decision}
    (run : Talk.Run (frontEnd.handle peer client) exchanges outcome)
    (told : (⟨.observe (.request info decision), ()⟩ : Exchange) ∈ exchanges) :
    ∃ field target, frontEnd.Decides client exchanges decision field target := by
  obtain ⟨request, ⟨bytes, negotiated, read⟩, -, decided⟩ := frontEnd.dispatched_of_run run told
  obtain ⟨field, fieldRead, meant⟩ := Request.addressField_of_run read
  exact ⟨field, request.target, ⟨bytes, negotiated, fieldRead⟩, meant, decided⟩

/-- Each decision of the tunnel server is about a destination which is seen as an IP address if the
host of its text spells one.  Each decision of the front-end is about an address field which, if its
host is or spells an IP address, is seen as that exactly if it is not announced as a domain; only
then do all dispatchers decide about it as about the address. -/
theorem literal_seen_unless_announced_as_domain (server : Tunnel.Server)
    (frontEnd : Socks.FrontEnd) (peer : Net.SocketAddress) :
    (∀ token stream exchanges info decision,
      Program.Run (server.handleStream peer token stream) exchanges () →
      (⟨.observe (.request info decision), ()⟩ : Exchange) ∈ exchanges →
      ∃ target, server.Decides decision info.address target ∧
        ∀ host address, Net.Address.host? info.address = some host →
          Net.IpAddr.parse? host = some address →
            target.SeenAs address ∧ ∀ dispatcher : Acl.Dispatcher,
              dispatcher.decide target = dispatcher.decide (.ip address target.port)) ∧
    (∀ client exchanges outcome info decision,
      Talk.Run (frontEnd.handle peer client) exchanges outcome →
      (⟨.observe (.request info decision), ()⟩ : Exchange) ∈ exchanges →
      ∃ field target, frontEnd.Decides client exchanges decision field target ∧
        ∀ address, field.literal? = some address →
          (target.SeenAs address ↔ field.type ≠ .domain) ∧
            ((∀ dispatcher : Acl.Dispatcher,
              dispatcher.decide target = dispatcher.decide (.ip address field.port)) ↔
                field.type ≠ .domain)) := by
  constructor
  · intro token stream exchanges info decision run told
    obtain ⟨target, decides⟩ := Tunnel.Server.decides_of_run run told
    refine ⟨target, decides, fun host address named literal => ?_⟩
    have seen := Net.Address.seenAs_of_parse? decides.meant named literal
    exact ⟨seen, fun dispatcher => Acl.decide_of_seenAs seen dispatcher target.port⟩
  · intro client exchanges outcome info decision run told
    obtain ⟨field, target, decides⟩ := Socks.FrontEnd.decides_of_run run told
    exact ⟨field, target, decides, fun address literal =>
      Socks.AddressField.seenAs_iff decides.meant literal⟩

open Socks in
/-- A client may announce an IP address as a domain, and then the rules see a domain. -/
theorem literal_announced_as_domain :
    ∃ (frontEnd : FrontEnd) (client : StreamRef) (exchanges : List Exchange) (field : AddressField)
      (target : Net.Address) (address : Net.IpAddr),
      frontEnd.Decides client exchanges { action := .proxy } field target ∧
        field.literal? = some address ∧ ¬ target.SeenAs address ∧
          frontEnd.dispatcher.decide (.ip address field.port) = { action := .block } := by
  let network : Acl.Network := .v4 ⟨10, 0, 0, 0⟩ 8 (by decide)
  let frontEnd : FrontEnd :=
    { access := .everybody
      dispatcher := .frontEnd
        (.rules ⟨[⟨{ action := .block }, .specific (.network network)⟩], none⟩)
      timeout := none }
  let client : StreamRef := .connection 0
  let host : HostField := .domain [49, 48, 46, 48, 46, 48, 46, 53]
  let target : Net.Address := .domain "10.0.0.5" 80
  have offered : MethodOffer.reader.run [5, 1, 0] = (.ok ⟨5, [.noAuth]⟩, []) := rfl
  have asked : Request.reader.run [5, 1, 0, 3, 8, 49, 48, 46, 48, 46, 48, 46, 53, 0, 80] =
      (.ok ⟨5, .connect, target⟩, []) := by decide +kernel
  obtain ⟨offers, offer, offering⟩ := Talk.exists_read client none offered
  obtain ⟨reads, read, reading⟩ := Talk.exists_read client none asked
  have negotiated : Talk.Run (frontEnd.access.negotiate client none)
      (offers ++ [⟨.send client [5, 0], .ok ()⟩]) (.ok ()) :=
    (Talk.run_bind_iff ..).mpr (.inl ⟨offers, _, _, rfl, offering, .ask trivial (.start _)⟩)
  have requested : Talk.Run (frontEnd.request client) (reads ++ []) (.ok target) :=
    (Talk.run_attempt_bind_iff ..).mpr ⟨reads, _, [], rfl, reading, .start _⟩
  let info : RequestInfo := ⟨default, none, target.text⟩
  let decision : Acl.Decision := { action := .proxy }
  have decided : frontEnd.dispatcher.decide target = decision := rfl
  let failed : Error := .idleTimeout
  obtain ⟨reply, layout⟩ :
      ∃ reply, (Reply.ofOutcome (.refused failed.refusal)).layout = .ok reply := ⟨_, rfl⟩
  have connected : Talk.Run (frontEnd.connect client target decision)
      [⟨.dial ⟨.proxy, target⟩, .error failed⟩, ⟨.send client reply, .ok ()⟩] (.error failed) := by
    have told : Talk.Run (FrontEnd.reply client (.refused failed.refusal))
        [⟨.send client reply, .ok ()⟩] (.ok ()) := by
      rw [FrontEnd.reply, layout]
      exact .ask trivial (.start _)
    have refused : Talk.Run (FrontEnd.refuse client failed : Talk Unit)
        [⟨.send client reply, .ok ()⟩] (.error failed) :=
      (Talk.run_bind_iff ..).mpr (.inl ⟨_, (), [], rfl, (Talk.run_map_iff ..).mpr
        ⟨.ok (.ok ()), (Talk.run_attempt_iff ..).mpr ⟨_, told, rfl⟩, rfl⟩, .start _⟩)
    exact (Talk.run_attempt_bind_iff ..).mpr ⟨[⟨.dial ⟨.proxy, target⟩, .error failed⟩],
      .error failed, _, rfl, .ask trivial (.start _), refused⟩
  have handled : Talk.Run (frontEnd.handle default client)
      (((offers ++ [⟨.send client [5, 0], .ok ()⟩]) ++ ((reads ++ []) ++
        (⟨.observe (.request info decision), ()⟩ ::
          ([⟨.dial ⟨.proxy, target⟩, .error failed⟩, ⟨.send client reply, .ok ()⟩] ++
            [⟨.observe (.finished info (some failed)), ()⟩])))) ++ [⟨.release client, ()⟩])
      (.error failed) := by
    refine (Talk.run_releasing_iff ..).mpr ⟨_, rfl, ?_⟩
    refine (Talk.run_bind_iff ..).mpr (.inl ⟨_, _, _, rfl, negotiated, ?_⟩)
    refine (Talk.run_bind_iff ..).mpr (.inl ⟨_, _, _, rfl, requested, ?_⟩)
    refine (Talk.run_observe_bind_iff ..).mpr ⟨_, rfl, ?_⟩
    exact (Talk.run_attempt_bind_iff ..).mpr ⟨_, _, _, rfl, connected, .ask trivial (.start _)⟩
  let server : Tunnel.Server := { ceiling := {}, dispatcher := frontEnd.dispatcher }
  obtain ⟨field, destination, decides, seen⟩ :=
    (literal_seen_unless_announced_as_domain server frontEnd default).2 client _ _ info decision
      handled (by simp)
  obtain ⟨bytes, negotiation, sent⟩ := decides.sent
  have silent : heard client [] = [] := rfl
  rw [List.append_nil] at offer read
  simp only [heard_append, heard_cons, Exchange.heard, List.append_nil, silent] at negotiation
  have request : frontEnd.access.negotiation.run (heard client offers ++ heard client reads) =
      (.ok (), heard client reads) := by
    rw [offer, read]
    rfl
  rw [request] at negotiation
  cases negotiation
  have named : addressField.run ((heard client reads).drop 3) = (.ok ⟨.domain, host, 80⟩, []) := by
    rw [read]
    rfl
  rw [named] at sent
  cases sent
  have literal : AddressField.literal? ⟨.domain, host, 80⟩ = some (.v4 ⟨10, 0, 0, 5⟩) := by decide +kernel
  exact ⟨frontEnd, client, _, _, destination, _, decides, literal,
    fun same => (seen _ literal).1.mp same rfl, rfl⟩

end TunnelProxy
