import TunnelProxy.Proofs.Net.AddressText
import TunnelProxy.Proofs.Socks.Dispatch
import TunnelProxy.Proofs.Tunnel.Response
import TunnelProxy.Tunnel.Client

/-!
# Destinations behind the tunnel

A destination which the front-end decides to reach through the tunnel crosses it as text, and the
tunnel server acts on what it reads from the text.  This is the same destination exactly if the
destination is plain; in any case it is one on the same port, or nothing is dialed at all.
-/

namespace TunnelProxy

open Net (Address)
open Wire (Reader)

/-! ## What the front-end dials -/

namespace Socks

/-- The domain of a request fits into its field. -/
theorem length_of_addressField {input rest name : Bytes} {field : AddressField}
    (read : addressField.run input = (.ok field, rest)) (named : field.host = .domain name) :
    name.length ≤ 0xFF := by
  simp only [addressField, Reader.run_bind_ok_iff, Reader.run_pure] at read
  obtain ⟨type, _, -, host, _, hostRead, port, _, -, built⟩ := read
  cases built
  cases type with
  | domain =>
      obtain ⟨given, _, taken, made⟩ := (Reader.run_bind_ok_iff ..).mp hostRead
      cases made
      cases named
      obtain ⟨layout, written, -⟩ := (Reader.run_short_iff ..).mp taken
      exact Wire.length_le_of_short written
  | v4 =>
      obtain ⟨octets, _, -, made⟩ := (Reader.run_bind_ok_iff ..).mp hostRead
      split at made <;> cases made
      cases named
  | v6 =>
      obtain ⟨octets, _, -, made⟩ := (Reader.run_bind_ok_iff ..).mp hostRead
      split at made <;> cases made
      cases named

/-- The text of a destination which a client asks for fits into a stream request. -/
theorem layout_of_run {input rest : Bytes} {request : Request}
    (read : Request.reader.run input = (.ok request, rest)) :
    ∃ layout, (Tunnel.StreamRequest.connection request.target).layout = .ok layout := by
  obtain ⟨field, fieldRead, meant⟩ := Request.addressField_of_run read
  have short : (Text.Utf8.encode request.target.text).length ≤ 0xFFFF := by
    have size := Address.encode_text_length_le request.target
    rcases AddressField.toAddress_eq_ok meant with ⟨_, -, -, same⟩ | ⟨name, named, -, same⟩
    · have nothing : (Text.Utf8.encode "").length = 0 := by decide
      rw [same, Address.domain?, Option.getD_none, nothing] at size
      rw [same]
      omega
    · have few := length_of_addressField fieldRead named
      have bound := Text.Utf8.encode_decode_length name
      rw [same, Address.domain?, Option.getD_some] at size
      rw [same]
      omega
  obtain ⟨bytes, written⟩ := (Wire.long_eq_ok_iff _).mpr short
  exact ⟨_, (Tunnel.StreamRequest.layout_eq_ok_iff ..).mpr ⟨bytes, written, rfl⟩⟩

end Socks

namespace Tunnel

/-! ## What crosses the tunnel -/

/-- What connecting to a destination through the tunnel writes: one request, on a stream which was
opened for it, and nothing if there is no stream. -/
def Client.Requests (client : Client) (kept : Option SessionRef) (layout : Bytes)
    (exchanges : List Exchange) : Prop :=
  ∃ opening result asking, exchanges = opening ++ asking ∧
    Program.Run (client.openStream kept) opening result ∧
      match result.1 with
      | .ok stream => messages stream asking = [layout]
      | .error _ => asking = []

theorem Client.messages_of_run {target : Address} {stream : StreamRef} {layout : Bytes}
    {exchanges : List Exchange} {outcome : Except Error StreamRef}
    (written : (StreamRequest.connection target).layout = .ok layout)
    (run : Talk.Run (requestStream target stream) exchanges outcome) :
    messages stream exchanges = [layout] := by
  let quiet (request : Request) : Prop := ¬ Server.isTransfer request
  have unasked : ∀ {α : Type} {program rest : Program α} {exchanges : List Exchange},
      program.Asks quiet → program.After exchanges rest → messages stream exchanges = [] :=
    fun asks after => Server.messages_eq_nil fun ⟨exchange, member, asked⟩ =>
      asks.of_after after exchange member asked
  have first : ∀ sent : Except IoError Unit, messages stream [⟨.send stream layout, sent⟩] = [layout] :=
    fun sent => by simp [messages, Exchange.messages]
  obtain ⟨front, result, back, rfl, asking, ending⟩ := (Talk.run_attempt_bind_iff ..).mp run
  have silent : messages stream back = [] := by
    refine unasked ?_ ending
    cases result with
    | ok _ => trivial
    | error error => exact Talk.asks_releasing Bool.false_ne_true trivial
  rw [messages_append, silent, List.append_nil]
  rw [written] at asking
  rcases (Talk.run_write_bind_iff ..).mp asking with ⟨rest, rfl, answered⟩ | ⟨cause, rfl, -⟩
  · have later : messages stream rest = [] := by
      refine unasked ?_ answered
      refine Talk.asks_bind (Talk.asks_read _ fun _ => Bool.false_ne_true) fun response => ?_
      split <;> trivial
    rw [← List.singleton_append, messages_append, later, List.append_nil]
    exact first _
  · exact first _

theorem Client.requests_of_run {client : Client} {kept : Option SessionRef} {target : Address}
    {layout : Bytes} {exchanges : List Exchange}
    {outcome : Except Error StreamRef × Option SessionRef}
    (written : (StreamRequest.connection target).layout = .ok layout)
    (run : Program.Run (client.dial kept target) exchanges outcome) :
    client.Requests kept layout exchanges := by
  obtain ⟨opening, ⟨opened, keeping⟩, asking, rfl, openRun, askRun⟩ := (Program.run_bind_iff ..).mp run
  refine ⟨opening, (opened, keeping), asking, rfl, openRun, ?_⟩
  cases opened with
  | error error => exact ((Program.run_done_iff ..).mp askRun).1
  | ok stream =>
      obtain ⟨requesting, _, last, rfl, requested, ended⟩ := (Program.run_bind_iff ..).mp askRun
      obtain ⟨rfl, -⟩ := (Program.run_done_iff ..).mp ended
      rw [List.append_nil]
      exact messages_of_run written requested

/-! ## What the tunnel server does about it -/

namespace Server

/-- Dialing and telling decisions is about the destination which a text is read as. -/
structure ActsOn (server : Server) (text : String) (request : TunnelProxy.Request) : Prop where
  /-- Only the destination of the text is dialed, unless the rules replace its host. -/
  dial : ∀ route, request = .dial route →
    ∃ seen chosen, Address.parse? text = some seen ∧
      (server.dispatcher.decide seen).route seen = .ok chosen ∧ route = ⟨.direct, chosen.address⟩
  /-- The rules are asked about the destination of the text. -/
  decide : ∀ info decision, request = .observe (.request info decision) →
    info.address = text ∧
      ∃ seen, Address.parse? text = some seen ∧ decision = server.dispatcher.decide seen

theorem asks_refuse_actsOn {α : Type} {server : Server} {text : String} (stream : StreamRef)
    (message : String) (error : Error) :
    (refuse stream message error : Talk α).run.Asks (server.ActsOn text) := by
  have told : (Talk.write stream (StreamResponse.refused message).layout).run.Asks
      (server.ActsOn text) := Talk.asks_write _ fun _ => ⟨nofun, nofun⟩
  exact Talk.asks_bind (Talk.asks_bind (Talk.asks_attempt told) fun _ => trivial) fun _ => trivial

theorem asks_connect_actsOn (server : Server) (info : RequestInfo) (stream : StreamRef) :
    (server.connect info stream).run.Asks (server.ActsOn info.address) := by
  refine Talk.asks_releasing ⟨by simp, by simp⟩ ?_
  cases parsed : Address.parse? info.address with
  | none => exact asks_refuse_actsOn ..
  | some seen =>
      refine Talk.asks_bind ⟨⟨by simp, fun told decision same => ?_⟩, fun _ => trivial⟩ fun _ => ?_
      · cases same
        exact ⟨rfl, seen, parsed, rfl⟩
      refine Talk.asks_bind (Talk.asks_attempt ?_) fun dialed => ?_
      · rw [dial]
        cases routed : (server.dispatcher.decide seen).route seen with
        | error error => trivial
        | ok chosen =>
            refine ⟨⟨fun route same => ?_, by simp⟩, fun _ => trivial⟩
            cases same
            exact ⟨seen, chosen, parsed, routed, rfl⟩
      · cases dialed with
        | error error => exact asks_refuse_actsOn ..
        | ok destination =>
            refine Talk.asks_releasing ⟨by simp, by simp⟩ ?_
            refine Talk.asks_bind (Talk.asks_write _ fun _ => ⟨by simp, by simp⟩) fun _ => ?_
            exact ⟨⟨by simp, by simp⟩, fun _ => trivial⟩

/-- What the tunnel server does about a text which a client sent as its destination. -/
structure Follows (server : Server) (stream : StreamRef) (text : String) (layout : Bytes)
    (exchanges : List Exchange) : Prop where
  /-- It is about the destination which the text is read as. -/
  acts : ∀ exchange ∈ exchanges, server.ActsOn text exchange.request
  /-- A text which is no destination is refused. -/
  refused : Address.parse? text = none → heard stream exchanges = layout →
    Delivered stream exchanges → messages stream exchanges = written (.refused "invalid address")

/-- The tunnel server reads the request which a client wrote, whatever the client sends after it. -/
theorem request_of_heard {target : Address} {stream : StreamRef} {layout more : Bytes}
    {reads rest : List Exchange} {request : StreamRequest}
    (written : (StreamRequest.connection target).layout = .ok layout)
    (sent : heard stream (reads ++ rest) <+: layout ++ more)
    (reading : Talk.Run (Talk.read stream none StreamRequest.reader) reads (.ok request)) :
    request = .connection target := by
  have read := ((Talk.run_read reading).2 request).mp rfl
  obtain ⟨behind, whole⟩ := sent
  have longer := Reader.run_append read (heard stream rest ++ behind)
  rw [← List.append_assoc, ← heard_append, whole, StreamRequest.run_layout written] at longer
  simp only [Prod.mk.injEq, Except.ok.injEq] at longer
  exact longer.1.symm

theorem follows_of_run {server : Server} {peer : Net.SocketAddress} {token : Bytes}
    {stream : StreamRef} {target : Address} {layout more : Bytes} {exchanges : List Exchange}
    (written : (StreamRequest.connection target).layout = .ok layout)
    (run : Program.Run (server.handleStream peer token stream) exchanges ())
    (sent : heard stream exchanges <+: layout ++ more) :
    server.Follows stream target.text layout exchanges := by
  have acts : ∀ exchange ∈ exchanges, server.ActsOn target.text exchange.request := by
    obtain ⟨reads, result, rest, rfl, reading, service⟩ := server.service_of_run run
    intro exchange member
    rcases List.mem_append.mp member with early | late
    · obtain ⟨source, count, deadline, same⟩ := Talk.onlyReads_of_run reading exchange early
      rw [same]
      exact ⟨nofun, nofun⟩
    · cases service with
      | unread | datagrams =>
          cases List.mem_singleton.mp late
          exact ⟨nofun, nofun⟩
      | connection failure _ _ connecting =>
          cases request_of_heard written sent reading
          rcases List.mem_append.mp late with acting | finished
          · exact (server.asks_connect_actsOn _ stream).of_after connecting exchange acting
          · cases List.mem_singleton.mp finished
            exact ⟨nofun, nofun⟩
  refine ⟨acts, fun unread whole delivered => ?_⟩
  have undialed : Dialed (fun _ => .error default) exchanges := by
    intro route reply member
    obtain ⟨seen, _, read, -, -⟩ := (acts _ member).dial route rfl
    rw [unread] at read
    cases read
  have read : StreamRequest.reader.run (heard stream exchanges) =
      (.ok (.connection target), []) := by
    rw [whole, ← List.append_nil layout]
    exact StreamRequest.run_layout written []
  have responds := server.responds_of_run run read rfl delivered undialed
  have answer : server.answer target.text (fun _ => .error default) = .refused "invalid address" := by
    rw [Server.answer, unread]
  rw [responds.messages]
  exact congrArg _ answer

end Server

/-! ## From the client of the front-end to the tunnel server -/

/-- A destination which the front-end decides to reach through the tunnel crosses it as its text,
and the tunnel server acts on what it reads from that: nothing, or a destination on the same port
the host of which is the one that the spelling of the judged host names.  This is the judged
destination itself exactly if that is plain. -/
theorem served_as_spelled {frontEnd : Socks.FrontEnd} {peer : Net.SocketAddress} {client : StreamRef}
    {exchanges : List Exchange} {outcome : Except Error Unit} {info : RequestInfo}
    {decision : Acl.Decision} (run : Talk.Run (frontEnd.handle peer client) exchanges outcome)
    (told : (⟨.observe (.request info decision), ()⟩ : Exchange) ∈ exchanges)
    (proxied : decision.action = .proxy) :
    ∃ request layout, frontEnd.Dispatched peer client exchanges info decision request ∧
      (StreamRequest.connection request.target).layout = .ok layout ∧
      (∀ route reply, (⟨.dial route, reply⟩ : Exchange) ∈ exchanges →
        route = ⟨.proxy, request.target⟩) ∧
      (∀ (dialer : Client) kept dialing result,
        Program.Run (dialer.dial kept request.target) dialing result →
          dialer.Requests kept layout dialing) ∧
      (∀ (server : Server) visitor token stream serving more,
        Program.Run (server.handleStream visitor token stream) serving () →
          heard stream serving <+: layout ++ more →
            server.Follows stream request.target.text layout serving) ∧
      ∀ seen, Address.parse? request.target.text = some seen →
        seen.port = request.target.port ∧
        (∃ host, Address.Names request.target.spelling host ∧
          seen = .ofHost host request.target.port) ∧
        (seen = request.target ↔ request.target.Plain) := by
  obtain ⟨request, dispatched, dialed⟩ := frontEnd.dispatching_of_run run told
  obtain ⟨bytes, negotiated, read⟩ := dispatched.asked
  obtain ⟨layout, written⟩ := Socks.layout_of_run read
  refine ⟨request, layout, dispatched, written, ?_, ?_, ?_, ?_⟩
  · intro route reply member
    have routed := dialed route reply member
    rw [Acl.Decision.route, proxied] at routed
    cases routed
    rfl
  · exact fun dialer kept dialing result dialRun => Client.requests_of_run written dialRun
  · exact fun server visitor token stream serving more serveRun sent =>
      Server.follows_of_run written serveRun sent
  · exact fun seen accepted => ⟨Address.port_of_parse? accepted,
      (Address.parse?_text_iff ..).mp accepted, Address.eq_iff_plain accepted⟩

/-- A domain in brackets is judged with its brackets and dialed without them. -/
theorem served_without_brackets :
    ∃ (frontEnd : Socks.FrontEnd) (client : StreamRef) (exchanges : List Exchange)
      (info : RequestInfo) (decision : Acl.Decision) (request : Socks.Request) (server : Server)
      (stream : StreamRef) (serving : List Exchange) (seen : Address),
      frontEnd.Dispatched default client exchanges info decision request ∧
        ¬ request.target.Plain ∧ decision = { action := .proxy } ∧
        frontEnd.dispatcher.decide seen = { action := .block } ∧
        Program.Run (server.handleStream default [] stream) serving () ∧
        server.Follows stream request.target.text (heard stream serving) serving ∧
        ∃ reply, (⟨.dial ⟨.direct, seen⟩, .ok reply⟩ : Exchange) ∈ serving := by
  let seen : Address := .domain "a" 80
  let target : Address := .domain "[a]" 80
  let compiled : Regex := .seq (.look .textStart) (.oneOf (.singleton 'a'))
  let rules : Acl.RuleSet := ⟨[⟨{ action := .block }, .specific (.regex "^a" compiled)⟩], none⟩
  let frontEnd : Socks.FrontEnd := ⟨.everybody, .frontEnd (.rules rules), none⟩
  let client : StreamRef := .connection 0
  let stream : StreamRef := .shared 0 3
  have judged : frontEnd.dispatcher.decide target = { action := .proxy } := rfl
  have blocked : frontEnd.dispatcher.decide seen = { action := .block } := rfl
  have accepted : Address.parse? target.text = some seen := by decide
  obtain ⟨greeting, request, -, -, negotiated, asked⟩ := frontEnd.exists_asking rfl client
    (show Socks.Request.reader.run [5, 1, 0, 3, 3, 91, 97, 93, 0, 80] =
      (.ok ⟨5, .connect, target⟩, []) by decide +kernel) rfl
  obtain ⟨reply, connected⟩ := frontEnd.exists_granting client stream
    (show (frontEnd.dispatcher.decide target).route target = .ok ⟨.proxy, target⟩ by rw [judged]; rfl)
  obtain ⟨asking, bytes, dispatched, written, -, -, served, same⟩ :=
    served_as_spelled (Socks.FrontEnd.run_handle default negotiated asked connected)
      (List.mem_append_left _ (List.mem_append_right _ (List.mem_append_right _ List.mem_cons_self)))
      (by rw [judged])
  have text : asking.target.text = target.text :=
    (congrArg RequestInfo.address dispatched.told).symm
  have read : Address.parse? asking.target.text = some seen := text ▸ accepted
  have unequal : ¬ asking.target.Plain := by
    intro plain
    have decided := dispatched.decided
    rw [← (same seen read).2.2.mpr plain, judged, blocked] at decided
    cases decided
  -- The server is asked for the text which was judged, and dials what it reads from it.
  let server : Server := { ceiling := {}, dispatcher := .server .none }
  obtain ⟨serving, serveRun, whole, dialed, -⟩ := server.exists_granted_stream default [] stream
    client (StreamRequest.run_layout written []) rfl read rfl
  rw [List.append_nil] at whole
  have sent : heard stream serving <+: bytes ++ [] := by simp [whole]
  refine ⟨frontEnd, client, _, _, _, asking, server, stream, serving, seen, dispatched, unequal,
    judged, blocked, serveRun, ?_, client, dialed⟩
  rw [whole]
  exact served server default [] stream serving [] serveRun sent

end Tunnel
end TunnelProxy
