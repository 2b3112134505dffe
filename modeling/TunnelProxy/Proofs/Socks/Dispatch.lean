import TunnelProxy.Proofs.Session.Run
import TunnelProxy.Proofs.Wire.Layout
import TunnelProxy.Socks.FrontEnd

/-!
# What the front-end dispatches

The front-end tells the observer one decision about one destination, which is the destination of
the request it has read from the client.
-/

namespace TunnelProxy
namespace Socks

open Wire (Reader)

/-! ## Address fields -/

/-- A field means an IP address or a domain, and says so. -/
theorem AddressField.toAddress_eq_ok {field : AddressField} {target : Net.Address}
    (meant : field.toAddress = .ok target) :
    (∃ address, field.host = .ip address ∧ field.type ≠ .domain ∧ target = .ip address field.port) ∨
      ∃ name, field.host = .domain name ∧ field.type = .domain ∧
        target = .domain (Text.Utf8.decode name) field.port := by
  obtain ⟨type, host, port⟩ := field
  rcases type with _ | _ | _ <;> rcases host with (address | address) | name <;> cases meant
  · exact .inl ⟨_, rfl, nofun, rfl⟩
  · exact .inr ⟨_, rfl, rfl, rfl⟩
  · exact .inl ⟨_, rfl, nofun, rfl⟩

/-- The destination of a request is that of the address field behind its first three bytes. -/
theorem Request.addressField_of_run {input rest : Bytes} {request : Request}
    (read : Request.reader.run input = (.ok request, rest)) :
    ∃ field, addressField.run (input.drop 3) = (.ok field, rest) ∧
      field.toAddress = .ok request.target := by
  simp only [Request.reader, Socks.command, Socks.reserved, Reader.run_bind_ok_iff,
    Reader.run_byte_iff, Reader.run_ofExcept_iff, Reader.run_pure] at read
  obtain ⟨version, _, rfl, _, _, ⟨code, _, rfl, commandRead⟩, _, _, ⟨zero, _, rfl, reservedRead⟩,
    field, _, fieldRead, target, _, ⟨meant, rfl⟩, built⟩ := read
  cases built
  split at commandRead
  · cases commandRead
    split at reservedRead
    · cases reservedRead
      exact ⟨field, fieldRead, meant⟩
    · cases reservedRead
  · cases commandRead

/-! ## Conversations -/

/-- Whether something is a part of the conversation with a client. -/
def converses : TunnelProxy.Request → Bool
  | .receive .. | .send .. => true
  | _ => false

/-- Whether something is a part of serving a connection. -/
def connects : TunnelProxy.Request → Bool
  | .send .. | .dial .. | .relay .. | .release .. => true
  | _ => false

/-- Read what a client sends to show that it may use the front-end. -/
def Access.authorization (access : Access) : Reader Unit :=
  match access with
  | everybody => return ()
  | user _ => do
      let _ ← Credentials.reader
      return ()

/-- Read what a client sends before it asks for a connection. -/
def Access.negotiation (access : Access) : Reader Unit := do
  let _ ← MethodOffer.reader
  access.authorization

theorem heard_of_write {stream : StreamRef} {layout : Except Error Bytes}
    {exchanges : List Exchange} {outcome : Except Error Unit}
    (run : Talk.Run (Talk.write stream layout) exchanges outcome) : heard stream exchanges = [] := by
  cases layout with
  | ok bytes =>
      obtain ⟨_, rfl, -⟩ := (Talk.run_write_ok_iff ..).mp run
      rfl
  | error error =>
      obtain ⟨rfl, -⟩ := (Talk.run_write_error_iff ..).mp run
      rfl

theorem Access.heard_of_authorize {access : Access} {client : StreamRef} {deadline : Option Nat}
    {exchanges : List Exchange}
    (run : Talk.Run (access.authorize client deadline) exchanges (.ok ())) :
    access.authorization.run (heard client exchanges) = (.ok (), []) := by
  cases access with
  | everybody =>
      obtain ⟨rfl, -⟩ := (Talk.run_pure_iff ..).mp run
      rfl
  | user expected =>
      obtain ⟨_, given, _, rfl, reading, judging⟩ := (Talk.run_bind_ok_iff ..).mp run
      have read := ((Talk.run_read reading).2 given).mp rfl
      split at judging
      · rw [heard_append, heard_of_write judging, List.append_nil, authorization, Reader.run_bind, read]
        rfl
      · obtain ⟨_, _, _, -, -, failed⟩ := (Talk.run_bind_ok_iff ..).mp judging
        cases ((Talk.run_throw_iff ..).mp failed).2

/-- What a client has sent once it may ask for a connection. -/
theorem Access.heard_of_negotiate {access : Access} {client : StreamRef} {deadline : Option Nat}
    {exchanges : List Exchange}
    (run : Talk.Run (access.negotiate client deadline) exchanges (.ok ())) :
    access.negotiation.run (heard client exchanges) = (.ok (), []) := by
  have chosen : ∀ {choice exchanges}, Talk.Run (do
      Talk.write client (.ok (MethodChoice.layout choice))
      access.authorize client deadline) exchanges (.ok ()) →
        access.authorization.run (heard client exchanges) = (.ok (), []) := by
    intro choice exchanges choosing
    obtain ⟨_, _, _, rfl, wrote, authorizing⟩ := (Talk.run_bind_ok_iff ..).mp choosing
    rw [heard_append, heard_of_write wrote, List.nil_append, heard_of_authorize authorizing]
  obtain ⟨_, offer, rest, rfl, reading, choosing⟩ := (Talk.run_bind_ok_iff ..).mp run
  have read := ((Talk.run_read reading).2 offer).mp rfl
  rw [negotiation, Reader.run_bind, heard_append, Reader.run_append read]
  dsimp only
  rw [List.nil_append]
  split at choosing
  · obtain ⟨_, _, _, rfl, wrote, choosing⟩ := (Talk.run_bind_ok_iff ..).mp choosing
    rw [heard_append, heard_of_write wrote, List.nil_append, chosen choosing]
  · exact chosen choosing

namespace FrontEnd

variable (frontEnd : FrontEnd)

theorem asks_refuse {α : Type} (client : StreamRef) (error : Error) :
    (refuse client error : Talk α).run.Asks (fun request => converses request) :=
  Talk.asks_bind (Talk.asks_bind (Talk.asks_attempt (Talk.asks_write _ fun _ => rfl)) fun _ => trivial)
    fun _ => trivial

theorem asks_negotiate (access : Access) (client : StreamRef) (deadline : Option Nat) :
    (access.negotiate client deadline).run.Asks (fun request => converses request) := by
  have chosen : ∀ choice, (Talk.write client (.ok (MethodChoice.layout choice))).run.Asks
      (fun request => converses request) := fun choice => Talk.asks_write _ fun _ => rfl
  have authorized : (access.authorize client deadline).run.Asks (fun request => converses request) := by
    cases access with
    | everybody => trivial
    | user expected =>
        refine Talk.asks_bind (Talk.asks_read _ fun _ => rfl) fun given => ?_
        split
        · exact Talk.asks_write _ fun _ => rfl
        · exact Talk.asks_bind (Talk.asks_write _ fun _ => rfl) fun _ => trivial
  refine Talk.asks_bind (Talk.asks_read _ fun _ => rfl) fun offer => ?_
  split
  · exact Talk.asks_bind (chosen _) fun _ => Talk.asks_bind (chosen _) fun _ => authorized
  · exact Talk.asks_bind (chosen _) fun _ => authorized

theorem asks_request (client : StreamRef) :
    (frontEnd.request client).run.Asks (fun request => converses request) := by
  refine Talk.asks_bind (Talk.asks_attempt (Talk.asks_read _ fun _ => rfl)) fun result => ?_
  split
  · exact asks_refuse ..
  · trivial
  · split
    · trivial
    · exact asks_refuse ..

theorem asks_connect (client : StreamRef) (target : Net.Address) (decision : Acl.Decision) :
    (frontEnd.connect client target decision).run.Asks (fun request => connects request) := by
  have replied : ∀ outcome, (reply client outcome).run.Asks (fun request => connects request) :=
    fun outcome => Talk.asks_write _ fun _ => rfl
  refine Talk.asks_bind (Talk.asks_attempt (Talk.asks_bind ?_ fun route => ?_)) fun dialed => ?_
  · cases decision.route target <;> trivial
  · exact ⟨rfl, fun _ => trivial⟩
  · cases dialed with
    | error error =>
        exact Talk.asks_bind (Talk.asks_bind (Talk.asks_attempt (replied _)) fun _ => trivial)
          fun _ => trivial
    | ok destination =>
        exact Talk.asks_releasing rfl
          (Talk.asks_bind (replied _) fun _ => ⟨rfl, fun _ => trivial⟩)

/-- Only the connection is dialed which a decision asks for. -/
theorem asks_connect_route (client : StreamRef) (target : Net.Address) (decision : Acl.Decision) :
    (frontEnd.connect client target decision).run.Asks
      (fun asked => ∀ route, asked = .dial route → decision.route target = .ok route) := by
  have replied : ∀ outcome, (reply client outcome).run.Asks
      (fun asked => ∀ route, asked = .dial route → decision.route target = .ok route) :=
    fun outcome => Talk.asks_write _ fun _ => nofun
  refine Talk.asks_bind (Talk.asks_attempt ?_) fun dialed => ?_
  · cases routed : decision.route target with
    | error error => trivial
    | ok route =>
        refine ⟨fun dialed same => ?_, fun _ => trivial⟩
        cases same
        rfl
  · cases dialed with
    | error error =>
        exact Talk.asks_bind (Talk.asks_bind (Talk.asks_attempt (replied _)) fun _ => trivial)
          fun _ => trivial
    | ok destination =>
        exact Talk.asks_releasing nofun
          (Talk.asks_bind (replied _) fun _ => ⟨nofun, fun _ => trivial⟩)

theorem not_run_refuse_ok {α : Type} {client : StreamRef} {error : Error}
    {exchanges : List Exchange} {value : α}
    (run : Talk.Run (refuse client error) exchanges (.ok value)) : False := by
  obtain ⟨_, _, _, -, -, failed⟩ := (Talk.run_bind_ok_iff ..).mp run
  cases ((Talk.run_throw_iff ..).mp failed).2

/-- A destination which is dispatched was asked for. -/
theorem request_of_run {client : StreamRef} {exchanges : List Exchange} {target : Net.Address}
    (run : Talk.Run (frontEnd.request client) exchanges (.ok target)) :
    ∃ request, Request.reader.run (heard client exchanges) = (.ok request, []) ∧
      request.target = target ∧ request.command = .connect := by
  obtain ⟨reads, result, last, rfl, reading, ending⟩ := (Talk.run_attempt_bind_iff ..).mp run
  split at ending
  · exact (not_run_refuse_ok ending).elim
  · cases ((Talk.run_throw_iff ..).mp ending).2
  · rename_i request
    split at ending
    · rename_i connect
      obtain ⟨rfl, same⟩ := (Talk.run_pure_iff ..).mp ending
      cases same
      exact ⟨request, by simpa using ((Talk.run_read reading).2 request).mp rfl, rfl, connect⟩
    · exact (not_run_refuse_ok ending).elim

/-- What the observer is told about the end of a request. -/
def failure? : Except Error Unit → Option Error
  | .ok () => none
  | .error error => some error

/-- What is asked for about a destination: the decision is told before it is acted on, and the end
after that. -/
def service (peer : Net.SocketAddress) (target : Net.Address) (acting : List Exchange)
    (result : Except Error Unit) : List Exchange :=
  ⟨.observe (.request ⟨peer, none, target.text⟩ (frontEnd.dispatcher.decide target)), ()⟩ ::
    acting ++ [⟨.observe (.finished ⟨peer, none, target.text⟩ (failure? result)), ()⟩]

/-- How serving a client can go. -/
inductive Handling (peer : Net.SocketAddress) (client : StreamRef) :
    List Exchange → Except Error Unit → Prop
  /-- The client does not get access. -/
  | denied {first : List Exchange} {error : Error}
      (negotiated : Talk.Run (frontEnd.access.negotiate client frontEnd.timeout) first
        (.error error)) :
      Handling peer client (first ++ [⟨.release client, ()⟩]) (.error error)
  /-- The client does not ask for a connection. -/
  | unasked {first second : List Exchange} {error : Error}
      (negotiated : Talk.Run (frontEnd.access.negotiate client frontEnd.timeout) first (.ok ()))
      (requested : Talk.Run (frontEnd.request client) second (.error error)) :
      Handling peer client (first ++ second ++ [⟨.release client, ()⟩]) (.error error)
  /-- The client asks for a connection. -/
  | dispatching {first second acting : List Exchange} {target : Net.Address}
      {result : Except Error Unit}
      (negotiated : Talk.Run (frontEnd.access.negotiate client frontEnd.timeout) first (.ok ()))
      (requested : Talk.Run (frontEnd.request client) second (.ok target))
      (connected : Talk.Run (frontEnd.connect client target (frontEnd.dispatcher.decide target))
        acting result) :
      Handling peer client (first ++ (second ++ frontEnd.service peer target acting result) ++
        [⟨.release client, ()⟩]) result

variable {frontEnd}

theorem handling_of_run {peer : Net.SocketAddress} {client : StreamRef} {exchanges : List Exchange}
    {outcome : Except Error Unit} (run : Talk.Run (frontEnd.handle peer client) exchanges outcome) :
    frontEnd.Handling peer client exchanges outcome := by
  obtain ⟨front, rfl, body⟩ := (Talk.run_releasing_iff ..).mp run
  rcases (Talk.run_bind_iff ..).mp body with
    ⟨first, _, rest, rfl, negotiated, asking⟩ | ⟨error, negotiated, rfl⟩
  swap
  · exact .denied negotiated
  rcases (Talk.run_bind_iff ..).mp asking with
    ⟨second, target, later, rfl, requested, serving⟩ | ⟨error, requested, rfl⟩
  swap
  · exact .unasked negotiated requested
  obtain ⟨_, rfl, connecting⟩ := (Talk.run_observe_bind_iff ..).mp serving
  obtain ⟨acting, result, final, rfl, connected, finishing⟩ :=
    (Talk.run_attempt_bind_iff ..).mp connecting
  have ended : outcome = result ∧
      final = [⟨.observe (.finished ⟨peer, none, target.text⟩ (failure? result)), ()⟩] := by
    cases result with
    | ok _ =>
        obtain ⟨_, rfl, -, rfl⟩ := (Talk.run_request_iff ..).mp finishing
        exact ⟨rfl, rfl⟩
    | error error =>
        obtain ⟨_, rfl, failed⟩ := (Talk.run_observe_bind_iff ..).mp finishing
        obtain ⟨rfl, rfl⟩ := (Talk.run_throw_iff ..).mp failed
        exact ⟨rfl, rfl⟩
  obtain ⟨rfl, rfl⟩ := ended
  exact .dispatching negotiated requested connected

/-- A client which may ask for a connection and does so is served. -/
theorem run_handle {client : StreamRef} {first second acting : List Exchange}
    {target : Net.Address} {result : Except Error Unit} (peer : Net.SocketAddress)
    (negotiated : Talk.Run (frontEnd.access.negotiate client frontEnd.timeout) first (.ok ()))
    (requested : Talk.Run (frontEnd.request client) second (.ok target))
    (connected : Talk.Run (frontEnd.connect client target (frontEnd.dispatcher.decide target))
      acting result) :
    Talk.Run (frontEnd.handle peer client)
      (first ++ (second ++ frontEnd.service peer target acting result) ++ [⟨.release client, ()⟩])
      result := by
  refine (Talk.run_releasing_iff ..).mpr ⟨_, rfl, ?_⟩
  refine (Talk.run_bind_iff ..).mpr (.inl ⟨first, (), _, rfl, negotiated, ?_⟩)
  refine (Talk.run_bind_iff ..).mpr (.inl ⟨second, target, _, rfl, requested, ?_⟩)
  refine (Talk.run_observe_bind_iff ..).mpr ⟨_, rfl, ?_⟩
  refine (Talk.run_attempt_bind_iff ..).mpr ⟨acting, result, [_], rfl, connected, ?_⟩
  cases result <;> exact .ask trivial (.start _)

variable (frontEnd)

/-- A destination to which a decision leads can be connected to. -/
theorem exists_granting (client destination : StreamRef) {target : Net.Address}
    {decision : Acl.Decision} {route : Acl.Route} (routed : decision.route target = .ok route) :
    ∃ bytes, Talk.Run (frontEnd.connect client target decision)
      [⟨.dial route, .ok destination⟩, ⟨.send client bytes, .ok ()⟩,
        ⟨.relay client destination frontEnd.timeout, .ok ()⟩, ⟨.release destination, ()⟩]
      (.ok ()) := by
  obtain ⟨bytes, layout⟩ : ∃ bytes, (Reply.ofOutcome .granted).layout = .ok bytes := ⟨_, rfl⟩
  refine ⟨bytes, (Talk.run_attempt_bind_iff ..).mpr ⟨[_], .ok destination, _, rfl, ?_, ?_⟩⟩
  · rw [routed]
    exact .ask trivial (.start _)
  · refine (Talk.run_releasing_iff ..).mpr ⟨[_, _], rfl, ?_⟩
    rw [reply, layout]
    exact .ask trivial (.ask trivial (.start _))

/-- Where everybody may use the front-end, a client can ask for any destination. -/
theorem exists_asking (everybody : frontEnd.access = .everybody) (client : StreamRef) {input : Bytes}
    {request : Request} (read : Request.reader.run input = (.ok request, []))
    (connects : request.command = .connect) :
    ∃ greeting asking, OnlyReads greeting ∧ OnlyReads asking ∧
      Talk.Run (frontEnd.access.negotiate client frontEnd.timeout)
        (greeting ++ [⟨.send client [5, 0], .ok ()⟩]) (.ok ()) ∧
      Talk.Run (frontEnd.request client) asking (.ok request.target) := by
  obtain ⟨greeting, -, greeted⟩ := Talk.exists_read client frontEnd.timeout
    (show MethodOffer.reader.run [5, 1, 0] = (.ok ⟨5, [.noAuth]⟩, []) by rfl)
  obtain ⟨asking, -, requested⟩ := Talk.exists_read client frontEnd.timeout read
  refine ⟨greeting, asking, Talk.onlyReads_of_run greeted, Talk.onlyReads_of_run requested, ?_, ?_⟩
  · rw [everybody]
    refine (Talk.run_bind_iff ..).mpr (.inl ⟨greeting, _, _, rfl, greeted, ?_⟩)
    exact .ask trivial (.start _)
  · refine (Talk.run_attempt_bind_iff ..).mpr ⟨asking, _, [], by simp, requested, ?_⟩
    dsimp only
    rw [if_pos connects]
    exact .start _

/-- What the observer is told about a decision. -/
structure Dispatched (peer : Net.SocketAddress) (client : StreamRef) (exchanges : List Exchange)
    (info : RequestInfo) (decision : Acl.Decision) (request : Request) : Prop where
  /-- The client sent the request, and nothing after it has been read yet. -/
  asked : ∃ bytes, frontEnd.access.negotiation.run (heard client exchanges) = (.ok (), bytes) ∧
    Request.reader.run bytes = (.ok request, [])
  /-- The destination is told as it is. -/
  told : info = ⟨peer, none, request.target.text⟩
  /-- The decision is the one about the destination. -/
  decided : decision = frontEnd.dispatcher.decide request.target

/-- Each decision which is told is about the destination which the client asked for, and nothing is
dialed but what it asks for. -/
theorem dispatching_of_run {peer : Net.SocketAddress} {client : StreamRef}
    {exchanges : List Exchange} {outcome : Except Error Unit} {info : RequestInfo}
    {decision : Acl.Decision} (run : Talk.Run (frontEnd.handle peer client) exchanges outcome)
    (told : (⟨.observe (.request info decision), ()⟩ : Exchange) ∈ exchanges) :
    ∃ request, frontEnd.Dispatched peer client exchanges info decision request ∧
      ∀ route reply, (⟨.dial route, reply⟩ : Exchange) ∈ exchanges →
        decision.route request.target = .ok route := by
  have silent : ∀ {outcome first}, Talk.Run (frontEnd.access.negotiate client frontEnd.timeout) first
      outcome → (⟨.observe (.request info decision), ()⟩ : Exchange) ∉ first :=
    fun negotiated member => by
      cases (asks_negotiate frontEnd.access client frontEnd.timeout).of_after negotiated _ member
  have unready : ∀ {outcome second}, Talk.Run (frontEnd.request client) second outcome →
      (⟨.observe (.request info decision), ()⟩ : Exchange) ∉ second :=
    fun requested member => by cases (frontEnd.asks_request client).of_after requested _ member
  cases handling_of_run run with
  | denied negotiated => simp [silent negotiated] at told
  | unasked negotiated requested => simp [silent negotiated, unready requested] at told
  | @dispatching first second acting target _ negotiated requested connected =>
      have served := (frontEnd.asks_connect client target _).of_after connected
      have untold : (⟨.observe (.request info decision), ()⟩ : Exchange) ∉ acting :=
        fun member => by cases served _ member
      have same : info = ⟨peer, none, target.text⟩ ∧
          decision = frontEnd.dispatcher.decide target := by
        simpa [service, silent negotiated, unready requested, untold] using told
      have mute : heard client acting = [] := by
        refine heard_eq_nil fun exchange member source count deadline asked => ?_
        have connecting := served exchange member
        rw [asked] at connecting
        cases connecting
      obtain ⟨request, read, rfl, -⟩ := frontEnd.request_of_run requested
      refine ⟨request, ⟨⟨heard client second, ?_, read⟩, same.1, same.2⟩, ?_⟩
      · have nothing : heard client [] = [] := rfl
        simp only [service, heard_append, heard_cons, Exchange.heard, mute, nothing, List.append_nil]
        exact Reader.run_append (Access.heard_of_negotiate negotiated) _
      · intro route reply member
        have early : (⟨.dial route, reply⟩ : Exchange) ∉ first := fun member => by
          cases (asks_negotiate frontEnd.access client frontEnd.timeout).of_after negotiated _ member
        have between : (⟨.dial route, reply⟩ : Exchange) ∉ second := fun member => by
          cases (frontEnd.asks_request client).of_after requested _ member
        have dialed : (⟨.dial route, reply⟩ : Exchange) ∈ acting := by
          simpa [service, early, between] using member
        rw [same.2]
        exact (frontEnd.asks_connect_route client _ _).of_after connected _ dialed route rfl

/-- Each decision which is told is about the destination which the client asked for. -/
theorem dispatched_of_run {peer : Net.SocketAddress} {client : StreamRef}
    {exchanges : List Exchange} {outcome : Except Error Unit} {info : RequestInfo}
    {decision : Acl.Decision} (run : Talk.Run (frontEnd.handle peer client) exchanges outcome)
    (told : (⟨.observe (.request info decision), ()⟩ : Exchange) ∈ exchanges) :
    ∃ request, frontEnd.Dispatched peer client exchanges info decision request :=
  (frontEnd.dispatching_of_run run told).imp fun _ dispatching => dispatching.1

end FrontEnd
end Socks
end TunnelProxy
