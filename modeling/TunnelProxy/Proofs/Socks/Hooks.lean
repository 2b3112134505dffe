import TunnelProxy.Proofs.Socks.Conversation
import TunnelProxy.Proofs.Tunnel.Hooks

/-!
# Hooks of the front-end

The observer of the front-end is told about a client once the client has been let in and has sent a
well-formed request for a connection.  Before that nothing is told and nothing is dialed, whatever
the client sends and however writing to it fails.
-/

namespace TunnelProxy
namespace Socks

open Tunnel.Server (Delivered)
open Wire (Reader)

/-! ## Messages to and from a client -/

section Messages

variable {client : StreamRef} {deadline : Option Nat} {exchanges : List Exchange}

theorem delivered_of_write {bytes : Bytes}
    (run : Talk.Run (Talk.write client (.ok bytes)) exchanges (.ok ())) :
    Delivered client exchanges := by
  obtain ⟨reply, rfl, succeeded⟩ := (Talk.run_write_ok_iff ..).mp run
  cases reply with
  | ok _ => simp [Delivered]
  | error cause => cases succeeded

theorem delivered_append {front back : List Exchange} (early : Delivered client front)
    (late : Delivered client back) : Delivered client (front ++ back) :=
  fun bytes reply member => (List.mem_append.mp member).elim (early bytes reply) (late bytes reply)

theorem delivered_of_read {α : Type} {reader : Reader α} {result : Except Error α}
    (reading : Talk.Run (Talk.read client deadline reader) exchanges result) :
    Delivered client exchanges :=
  fun _ _ member => absurd member ((Talk.onlyReads_of_run reading).not_mem (by simp))

/-- Reading fails behind everything which has come. -/
theorem spent_of_read {α β : Type} {reader : Reader α} {next : α → Reader β} {error : Error}
    (reading : Talk.Run (Talk.read client deadline reader) exchanges (.error error)) :
    ((reader >>= next).run (heard client exchanges)).2 = [] := by
  rw [Reader.run_bind]
  rcases Talk.run_read_outcome reading with whole | ⟨-, short⟩
  · rw [whole]
  · rw [short]

end Messages

/-! ## What belongs to the negotiation -/

namespace Access

variable {access : Access} {client : StreamRef} {deadline : Option Nat} {exchanges : List Exchange}
  {outcome : Except Error Unit}

theorem spent_of_authorize (run : Talk.Run (access.authorize client deadline) exchanges outcome) :
    (access.authorization.run (heard client exchanges)).2 = [] := by
  cases access with
  | everybody =>
      obtain ⟨rfl, -⟩ := (Talk.run_pure_iff ..).mp run
      rfl
  | user expected =>
      rcases (Talk.run_bind_iff ..).mp run with
        ⟨reads, given, rest, rfl, reading, judging⟩ | ⟨error, reading, rfl⟩
      · have mute : heard client rest = [] := by
          split at judging
          · exact heard_of_write judging
          · rcases (Talk.run_write_bind_iff ..).mp judging with
              ⟨_, rfl, failing⟩ | ⟨_, rfl, -⟩
            · obtain ⟨rfl, -⟩ := (Talk.run_throw_iff ..).mp failing
              rfl
            · rfl
        rw [authorization, Reader.run_bind, heard_append, mute, List.append_nil,
          run_heard_of_read reading]
        rfl
      · exact spent_of_read reading

/-- Whatever is read while access is negotiated belongs to that. -/
theorem spent_of_negotiate (run : Talk.Run (access.negotiate client deadline) exchanges outcome) :
    (access.negotiation.run (heard client exchanges)).2 = [] := by
  have nothing : (access.authorization.run []).2 = [] := by cases access <;> rfl
  have chosen : ∀ {choice exchanges}, Talk.Run (do
      Talk.write client (.ok (MethodChoice.layout choice))
      access.authorize client deadline) exchanges outcome →
        (access.authorization.run (heard client exchanges)).2 = [] := by
    intro choice exchanges choosing
    rcases (Talk.run_write_bind_iff ..).mp choosing with ⟨_, rfl, authorizing⟩ | ⟨_, rfl, -⟩
    · exact (spent_of_authorize authorizing :)
    · exact nothing
  rcases (Talk.run_bind_iff ..).mp run with
    ⟨reads, offer, rest, rfl, reading, choosing⟩ | ⟨error, reading, rfl⟩
  · rw [negotiation, Reader.run_bind, heard_append,
      Reader.run_append (run_heard_of_read reading), List.nil_append]
    dsimp only
    split at choosing
    · rcases (Talk.run_write_bind_iff ..).mp choosing with ⟨_, rfl, repeating⟩ | ⟨_, rfl, -⟩
      · exact (chosen repeating :)
      · exact nothing
    · exact chosen choosing
  · exact spent_of_read reading

/-- A client which gets access has got everything which was written to it. -/
theorem delivered_of_negotiate
    (run : Talk.Run (access.negotiate client deadline) exchanges (.ok ())) :
    Delivered client exchanges := by
  have authorized : ∀ {exchanges}, Talk.Run (access.authorize client deadline) exchanges (.ok ()) →
      Delivered client exchanges := by
    intro exchanges authorizing
    cases access with
    | everybody =>
        obtain ⟨rfl, -⟩ := (Talk.run_pure_iff ..).mp authorizing
        simp [Delivered]
    | user expected =>
        obtain ⟨_, _, _, rfl, reading, judging⟩ := (Talk.run_bind_ok_iff ..).mp authorizing
        refine delivered_append (delivered_of_read reading) ?_
        split at judging
        · exact delivered_of_write judging
        · obtain ⟨_, _, _, -, -, failed⟩ := (Talk.run_bind_ok_iff ..).mp judging
          cases ((Talk.run_throw_iff ..).mp failed).2
  have chosen : ∀ {choice exchanges}, Talk.Run (do
      Talk.write client (.ok (MethodChoice.layout choice))
      access.authorize client deadline) exchanges (.ok ()) → Delivered client exchanges := by
    intro choice exchanges choosing
    obtain ⟨_, _, _, rfl, writing, authorizing⟩ := (Talk.run_bind_ok_iff ..).mp choosing
    exact delivered_append (delivered_of_write writing) (authorized authorizing)
  obtain ⟨_, offer, _, rfl, reading, choosing⟩ := (Talk.run_bind_ok_iff ..).mp run
  refine delivered_append (delivered_of_read reading) ?_
  split at choosing
  · obtain ⟨_, _, _, rfl, writing, repeating⟩ := (Talk.run_bind_ok_iff ..).mp choosing
    exact delivered_append (delivered_of_write writing) (chosen repeating)
  · exact chosen choosing

/-- A client which does not get access asks for nothing. -/
theorem not_asks_of_negotiate
    (run : Talk.Run (access.negotiate client deadline) exchanges outcome) (request : Request) :
    ¬ access.Asks (heard client exchanges) (.ok request) := by
  rintro ⟨rest, read⟩
  obtain ⟨_, middle, negotiated, requested⟩ := (Reader.run_bind_ok_iff ..).mp read
  have spent := spent_of_negotiate run
  rw [negotiated] at spent
  cases spent
  cases requested

end Access

namespace FrontEnd

variable (frontEnd : FrontEnd)

/-! ## Hooks around a request -/

/-- A client which has been let in has sent a well-formed request for a connection. -/
def Yields (bytes : Bytes) (request : Request) : Prop :=
  frontEnd.Requests bytes request ∧ request.command = .connect

/-- The hooks for a client are those for the request which it has sent. -/
structure Hooked (peer : Net.SocketAddress) (client : StreamRef) (exchanges : List Exchange)
    (outcome : Except Error Unit) : Prop where
  /-- A client which does not ask for a connection is told nothing about. -/
  silent : (∀ request, ¬ frontEnd.Yields (heard client exchanges) request) →
    observations exchanges = [] ∧ dials exchanges = [] ∧ relays exchanges = []
  /-- A request for a connection has its two hooks, and its result is that of the client. -/
  accompanied : ∀ request, frontEnd.Yields (heard client exchanges) request →
    Accompanied client ((frontEnd.dispatcher.decide request.target).route request.target)
      ⟨peer, none, request.target.text⟩ (frontEnd.dispatcher.decide request.target) exchanges outcome

section Runs

variable {frontEnd} {peer : Net.SocketAddress} {client : StreamRef} {exchanges : List Exchange}
  {outcome : Except Error Unit}

theorem quiet_of_asks {α : Type} {talk : Talk α} {result : Except Error α}
    (asks : talk.run.Asks (fun request => converses request))
    (run : Talk.Run talk exchanges result) : ¬ Asked isNoted exchanges := by
  rintro ⟨⟨request, reply⟩, member, noted⟩
  have conversing : converses request = true := asks.of_after run _ member
  cases request <;> simp [converses, isNoted] at conversing noted

theorem pursuit_of_run_connect {target : Net.Address} {decision : Acl.Decision}
    (run : Talk.Run (frontEnd.connect client target decision) exchanges outcome) :
    Pursuit client (decision.route target) exchanges outcome := by
  have granted : reply client .granted = Talk.write client (.ok (replyBytes .granted)) := by
    rw [reply, Reply.layout_ofOutcome]
  rw [connect, granted] at run
  refine pursuit_of_run (fun dialing => ?_) tells_of_run run
  cases routed : decision.route target with
  | error error =>
      rw [routed] at dialing
      obtain ⟨rfl, rfl⟩ := (Program.run_done_iff ..).mp dialing
      exact .inl ⟨error, rfl, rfl, rfl⟩
  | ok route =>
      rw [routed] at dialing
      obtain ⟨rfl, -⟩ := (Program.run_request_iff (.dial ..) ..).mp dialing
      exact .inr ⟨route, rfl, rfl⟩

/-- A client which gets no further than its request does not ask for a connection. -/
theorem unconnected_of_request {error : Error} {request : Request} {rest : Bytes}
    (run : Talk.Run (frontEnd.request client) exchanges (.error error))
    (read : Request.reader.run (heard client exchanges) = (.ok request, rest)) :
    request.command ≠ .connect := by
  obtain ⟨reads, result, last, rfl, reading, ending⟩ := (Talk.run_attempt_bind_iff ..).mp run
  have refused {failure : Error} {outcome : Except Error Net.Address}
      (refusing : Talk.Run (refuse client failure) last outcome) : heard client last = [] := by
    have tells : Tells client last := (tells_of_run refusing).1
    exact tells.heard client
  rw [heard_append] at read
  split at ending
  · rw [refused ending, List.append_nil] at read
    exact absurd read (run_heard_ne_ok reading request rest)
  · obtain ⟨rfl, -⟩ := (Talk.run_throw_iff ..).mp ending
    rw [show heard client [] = [] from rfl, List.append_nil] at read
    exact absurd read (run_heard_ne_ok reading request rest)
  · split at ending
    · cases ((Talk.run_pure_iff ..).mp ending).2
    · rename_i other
      rw [refused ending, List.append_nil, run_heard_of_read reading] at read
      cases read
      exact other

theorem hooked_of_quiet (quiet : ¬ Asked isNoted exchanges)
    (unyielded : ∀ request, ¬ frontEnd.Yields (heard client exchanges) request) :
    frontEnd.Hooked peer client exchanges outcome :=
  ⟨fun _ => ⟨observations_eq_nil quiet, dials_eq_nil quiet, relays_eq_nil quiet⟩,
    fun request yields => absurd yields (unyielded request)⟩

theorem heard_append_release (part : List Exchange) (stream : StreamRef) :
    heard client (part ++ [⟨.release stream, ()⟩]) = heard client part := by
  rw [heard_append]
  exact List.append_nil _

section Handlings

variable {first second : List Exchange} {error : Error}

theorem hooked_of_denied
    (negotiated : Talk.Run (frontEnd.access.negotiate client frontEnd.timeout) first
      (.error error)) :
    frontEnd.Hooked peer client (first ++ [⟨.release client, ()⟩]) (.error error) := by
  have early := quiet_of_asks (asks_negotiate ..) negotiated
  refine hooked_of_quiet (by simp [early, isNoted]) fun request yields => ?_
  obtain ⟨⟨-, asks⟩, -⟩ := yields
  rw [heard_append_release] at asks
  exact Access.not_asks_of_negotiate negotiated request asks

variable (negotiated : Talk.Run (frontEnd.access.negotiate client frontEnd.timeout) first (.ok ()))

include negotiated

theorem hooked_of_unasked (requested : Talk.Run (frontEnd.request client) second (.error error)) :
    frontEnd.Hooked peer client (first ++ second ++ [⟨.release client, ()⟩]) (.error error) := by
  have early := quiet_of_asks (asks_negotiate ..) negotiated
  have late := quiet_of_asks (frontEnd.asks_request client) requested
  refine hooked_of_quiet (by simp [early, late, isNoted]) fun request yields => ?_
  obtain ⟨⟨-, asks⟩, connect⟩ := yields
  have opened := negotiation_of_run negotiated (Access.delivered_of_negotiate negotiated)
  rw [heard_append_release, heard_append, asks_append_iff opened] at asks
  obtain ⟨rest, read⟩ := asks
  exact unconnected_of_request requested read connect

/-- The request which was read behind the negotiation is the only one. -/
theorem yields_iff {request : Request}
    (read : Request.reader.run (heard client second) = (.ok request, []))
    (connect : request.command = .connect) (other : Request) :
    frontEnd.Yields (heard client first ++ heard client second) other ↔ other = request := by
  have opened := negotiation_of_run negotiated (Access.delivered_of_negotiate negotiated)
  have passed := (opened.opening (heard client second) nofun).2.mp rfl
  rw [Yields, Requests, asks_append_iff opened, read]
  constructor
  · rintro ⟨⟨-, _, same⟩, -⟩
    cases same
    rfl
  · rintro rfl
    exact ⟨⟨passed, [], rfl⟩, connect⟩

theorem hooked_of_dispatching {acting : List Exchange} {target : Net.Address}
    (requested : Talk.Run (frontEnd.request client) second (.ok target))
    (connected : Talk.Run (frontEnd.connect client target (frontEnd.dispatcher.decide target))
      acting outcome) :
    frontEnd.Hooked peer client
      (first ++ (second ++ frontEnd.service peer target acting outcome) ++
        [⟨.release client, ()⟩]) outcome := by
  have early := quiet_of_asks (asks_negotiate ..) negotiated
  have late := quiet_of_asks (frontEnd.asks_request client) requested
  have pursuit := pursuit_of_run_connect connected
  obtain ⟨request, read, rfl, connect⟩ := frontEnd.request_of_run requested
  have mute : heard client (frontEnd.service peer request.target acting outcome) = [] := by
    simp [service, heard_cons, Exchange.heard, pursuit.heard]
    rfl
  have sent : heard client (first ++ (second ++ frontEnd.service peer request.target acting
      outcome) ++ [⟨.release client, ()⟩]) = heard client first ++ heard client second := by
    rw [heard_append_release, heard_append, heard_append, mute, List.append_nil]
  constructor
  · intro none
    rw [sent] at none
    exact absurd ((yields_iff negotiated read connect request).mpr rfl) (none request)
  · intro other yielded
    rw [sent, yields_iff negotiated read connect] at yielded
    subst yielded
    have parts : first ++ (second ++ frontEnd.service peer other.target acting outcome) ++
        [⟨.release client, ()⟩] =
      first ++ second ++ ⟨.observe (.request ⟨peer, none, other.target.text⟩
          (frontEnd.dispatcher.decide other.target)), ()⟩ :: (acting ++ []) ++
        ⟨.observe (.finished ⟨peer, none, other.target.text⟩ (failure? outcome)), ()⟩ ::
          [⟨.release client, ()⟩] := by simp [service]
    rw [parts]
    exact accompanied_of_pursuit pursuit (by simp [early, late]) (asked_nil _)
      (by simp [isNoted])

end Handlings

theorem hooked_of_run (run : Talk.Run (frontEnd.handle peer client) exchanges outcome) :
    frontEnd.Hooked peer client exchanges outcome := by
  cases handling_of_run run with
  | denied negotiated => exact hooked_of_denied negotiated
  | unasked negotiated requested => exact hooked_of_unasked negotiated requested
  | dispatching negotiated requested connected =>
      exact hooked_of_dispatching negotiated requested connected

end Runs

end FrontEnd
end Socks

/-! ## Both entry points -/

/-- Whatever is asked for at the tunnel server or at the front-end, and whatever the rules, the
destinations and the relays do, the observer is told what belongs to the request and nothing else. -/
theorem requests_accompanied {server : Tunnel.Server} {session : SessionRef}
    {peer : Net.SocketAddress} {log : List Tunnel.Server.Event} {threads : Tunnel.Server.Threads}
    {number : Nat} (reached : server.Reaches session peer log threads)
    (ended : threads.streams[number]? = some (.done ())) {frontEnd : Socks.FrontEnd}
    {other : Net.SocketAddress} {client : StreamRef} {exchanges : List Exchange}
    {outcome : Except Error Unit} (run : Talk.Run (frontEnd.handle other client) exchanges outcome) :
    (∃ token stream, server.Attended peer log number token stream) ∧
      frontEnd.Hooked other client exchanges outcome :=
  ⟨server.attended_of_reaches session peer reached ended, Socks.FrontEnd.hooked_of_run run⟩

/-- A stream of a client which is let in and a client of a front-end are connected. -/
theorem requests_accompanied_of_relays :
    ∃ (server : Tunnel.Server) (log : List Tunnel.Server.Event) (threads : Tunnel.Server.Threads)
      (frontEnd : Socks.FrontEnd) (client : StreamRef) (exchanges : List Exchange),
      server.Reaches ⟨0⟩ default log threads ∧ threads.streams[0]? = some (.done ()) ∧
        Talk.Run (frontEnd.handle default client) exchanges (.ok ()) ∧
        Asked Socks.isRelay (Tunnel.Server.served 0 log) ∧ Asked Socks.isRelay exchanges ∧
        (∃ token stream, server.Attended default log 0 token stream) ∧
          frontEnd.Hooked default client exchanges (.ok ()) := by
  let server : Tunnel.Server := { ceiling := {}, dispatcher := .server .none }
  let stream : StreamRef := .shared 0 3
  obtain ⟨log, threads, reached, -, there⟩ := Tunnel.Server.exists_admitted_client (.server .none)
  have parsed : Net.Address.parse? "a:80" = some (.domain "a" 80) := rfl
  obtain ⟨serving, serveRun, -, -, relayed⟩ := server.exists_granted_stream default [] stream
    (.connection 0)
    (show Tunnel.StreamRequest.reader.run [0, 0, 4, 97, 58, 56, 48] = (.ok ⟨false, "a:80"⟩, []) by
      decide +kernel)
    rfl parsed rfl
  have left : threads.streams[0]? = some (server.handleStream default [] stream) := by
    rw [there]
    rfl
  have ended : (threads.streams.set 0 (.done ()))[0]? = some (.done ()) := by
    rw [there]
    rfl
  have served := reached.stream server ⟨0⟩ default left serveRun
  obtain ⟨frontEnd, client, exchanges, run, -, connected⟩ :=
    Socks.FrontEnd.exists_granted_connection
  have asked : Asked Socks.isRelay (Tunnel.Server.served 0 (log ++ serving.map (.stream 0))) := by
    rw [Tunnel.Server.served_append, Tunnel.Server.served_map_stream]
    exact (asked_append ..).mpr (.inr ⟨_, relayed, rfl⟩)
  exact ⟨server, _, _, frontEnd, client, exchanges, served, ended, run, asked, connected,
    requests_accompanied served ended run⟩

end TunnelProxy
