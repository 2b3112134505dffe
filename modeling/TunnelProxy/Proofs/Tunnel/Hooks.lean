import TunnelProxy.Proofs.Session.Hooks
import TunnelProxy.Proofs.Tunnel.Gate

/-!
# Hooks of the tunnel server

What the observer is told about a stream follows from the request which is read from it.  Nothing is
told about a stream without a request for a connection, one hook fires for a request for something
which is no destination, and every other request has its two hooks.  They bear the token of the client
which was let in.
-/

namespace TunnelProxy
namespace Tunnel
namespace Server

open Socks.FrontEnd (failure?)

variable (server : Server) (session : SessionRef) (peer : Net.SocketAddress)

/-! ## Streams -/

/-- Where a destination is dialed; every way is the direct one. -/
def routed (target : Net.Address) : Except Error Acl.Route :=
  ((server.dispatcher.decide target).route target).map fun route => ⟨.direct, route.address⟩

/-- No hook fires, and nothing is dialed, relayed or written. -/
def Silent (exchanges : List Exchange) : Prop :=
  observations exchanges = [] ∧ ¬ Asked isTransfer exchanges

/-- The hooks for a stream are those for the request which was read from it. -/
def Hooked (token : Bytes) (stream : StreamRef) (exchanges : List Exchange) : Prop :=
  match (StreamRequest.reader.run (heard stream exchanges)).1 with
  | .error _ => Silent exchanges
  | .ok request =>
      let info : RequestInfo := ⟨peer, some token, request.address⟩
      if request.datagrams then Silent exchanges
      else
        match Net.Address.parse? request.address with
        | none =>
            observations exchanges = [.finished info (some (.invalidAddress request.address))] ∧
              dials exchanges = [] ∧ relays exchanges = []
        | some target =>
            ∃ result, Accompanied stream (server.routed target) info
              (server.dispatcher.decide target) exchanges result

section Streams

variable {server peer} {token : Bytes} {stream : StreamRef} {exchanges : List Exchange}

theorem pursuit_of_run_connect {target : Net.Address} {result : Except Error Unit}
    (run : Talk.Run (do
      match ← Talk.attempt (dial (server.dispatcher.decide target) target) with
      | .error error => refuse stream (refusal error) error
      | .ok destination =>
          Talk.releasing destination do
            Talk.write stream StreamResponse.granted.layout
            Talk.relay stream destination server.idle) exchanges result) :
    Pursuit stream (server.routed target) exchanges result := by
  have granted : StreamResponse.granted.layout = .ok [1, 0, 0] := rfl
  rw [granted] at run
  refine pursuit_of_run (fun dialing => ?_) tells_of_run run
  rcases run_dial dialing with ⟨error, nowhere, rfl, rfl⟩ | ⟨route, somewhere, rfl⟩
  · exact .inl ⟨error, by rw [routed, nowhere]; rfl, rfl, rfl⟩
  · exact .inr ⟨⟨.direct, route.address⟩, by rw [routed, somewhere]; rfl, rfl⟩

/-- A request for something which is no destination fails, and the others are pursued. -/
theorem connecting_of_run {info : RequestInfo} {result : Except Error Unit}
    (run : Talk.Run (server.connect info stream) exchanges result) :
    (Net.Address.parse? info.address = none ∧ result = .error (.invalidAddress info.address) ∧
      ∃ told, exchanges = told ++ [⟨.release stream, ()⟩] ∧ Tells stream told) ∨
    ∃ target acting, Net.Address.parse? info.address = some target ∧
      exchanges = ⟨.observe (.request info (server.dispatcher.decide target)), ()⟩ ::
        (acting ++ [⟨.release stream, ()⟩]) ∧
      Pursuit stream (server.routed target) acting result := by
  obtain ⟨front, rfl, body⟩ := (Talk.run_releasing_iff ..).mp run
  cases parsed : Net.Address.parse? info.address with
  | none =>
      rw [parsed] at body
      obtain ⟨tells, rfl⟩ := tells_of_run body
      exact .inl ⟨rfl, rfl, front, rfl, tells⟩
  | some target =>
      rw [parsed] at body
      obtain ⟨acting, rfl, pursuing⟩ := (Talk.run_observe_bind_iff ..).mp body
      exact .inr ⟨target, acting, rfl, rfl, pursuit_of_run_connect pursuing⟩

/-- A request was read exactly if it is in the bytes of its stream. -/
theorem decoded_iff {reads rest : List Exchange} {result : Except Error StreamRequest}
    (reading : Talk.Run (Talk.read stream none StreamRequest.reader) reads result)
    (mute : heard stream rest = []) (request : StreamRequest) :
    (StreamRequest.reader.run (heard stream (reads ++ rest))).1 = .ok request ↔
      result = .ok request := by
  rw [heard_append, mute, List.append_nil]
  rcases Talk.run_read_outcome reading with whole | ⟨⟨cause, rfl⟩, short⟩
  · rw [whole]
  · simp [short]

theorem hooked_of_run (run : Program.Run (server.handleStream peer token stream) exchanges ()) :
    server.Hooked peer token stream exchanges := by
  obtain ⟨reads, result, rest, rfl, reading, service⟩ := server.service_of_run run
  have only := Talk.onlyReads_of_run reading
  have unnoted : ¬ Asked isNoted reads := only.not_asked (by simp [isNoted])
  have silent : Silent (reads ++ [⟨.release stream, ()⟩]) := by
    have untransferred : ¬ Asked isTransfer reads := only.not_asked (by simp [isTransfer])
    exact ⟨observations_eq_nil (by simp [unnoted, isNoted]), by simp [untransferred, isTransfer]⟩
  rw [Hooked]
  cases service with
  | unread =>
      split
      · exact silent
      · rename_i request read
        cases (decoded_iff reading rfl request).mp read
  | @datagrams request asked =>
      rw [(decoded_iff reading rfl request).mpr rfl]
      exact (if_pos asked).mpr silent
  | @connection request connecting outcome failure told asked connected =>
      obtain rfl : failure = failure? outcome := by
        cases outcome <;> simp [failure?, Option.eq_none_iff_forall_ne_some, told]
      have course := connecting_of_run connected
      have mute : heard stream (connecting ++ [⟨.observe (.finished ⟨peer, some token,
          request.address⟩ (failure? outcome)), ()⟩]) = [] := by
        rcases course with ⟨-, -, told, rfl, tells⟩ | ⟨_, acting, -, rfl, pursuit⟩
        · simp [tells.heard, heard_cons, Exchange.heard]; rfl
        · simp [pursuit.heard, heard_cons, Exchange.heard]; rfl
      rw [(decoded_iff reading mute request).mpr rfl]
      dsimp only
      rw [if_neg (by simp [asked])]
      rcases course with ⟨parsed, rfl, told, rfl, tells⟩ | ⟨target, acting, parsed, rfl, pursuit⟩
      · have quiet : ¬ Asked isNoted (reads ++ (told ++ [⟨.release stream, ()⟩])) := by
          simp [unnoted, tells.quiet, isNoted]
        rw [parsed, ← List.append_assoc]
        simp only [observations_append, dials_append, relays_append, observations_eq_nil quiet,
          dials_eq_nil quiet, relays_eq_nil quiet]
        exact ⟨rfl, rfl, rfl⟩
      · rw [parsed, ← List.append_assoc]
        exact ⟨outcome, accompanied_of_pursuit pursuit unnoted (by simp [isNoted]) (asked_nil _)⟩

end Streams

/-! ## Sessions -/

/-- A client with this token was let in and told so. -/
def Authenticated (past : List Exchange) (token : Bytes) : Prop :=
  ∃ control rate verdict, Answered peer past control token rate verdict ∧ verdict.accepted = true

/-- What a thread which serves a stream asked for, with the replies. -/
def served (number : Nat) (log : List Event) : List Exchange :=
  log.flatMap fun
    | .stream other exchange => if other = number then [exchange] else []
    | _ => []

@[simp] theorem served_append (number : Nat) (front back : List Event) :
    served number (front ++ back) = served number front ++ served number back := by
  simp [served]

@[simp] theorem served_map_stream (number : Nat) (exchanges : List Exchange) :
    served number (exchanges.map (.stream number)) = exchanges := by
  simp [served, List.flatMap_map]

theorem Authenticated.append {past : List Exchange} {token : Bytes}
    (authenticated : Authenticated peer past token) (later : List Exchange) :
    Authenticated peer (past ++ later) token := by
  obtain ⟨control, rate, verdict, ⟨judged, bytes, layout, written⟩, accepted⟩ := authenticated
  exact ⟨control, rate, verdict, ⟨List.mem_append_left _ judged, bytes, layout,
    List.mem_append_left _ written⟩, accepted⟩

theorem authenticated_of_welcome {front : List Exchange} {outcome : Except Error Admission}
    {token : Bytes} (welcome : server.Welcome session peer front outcome)
    (admitted : outcome = .ok (.admitted token)) : Authenticated peer front token := by
  cases welcome with
  | missing => cases admitted
  | @greeted control _ _ greeting =>
      cases greeting with
      | accepted verdict paced reading agreed layout granted =>
          cases paced with
          | error error => cases admitted
          | ok _ =>
              cases admitted
              exact ⟨control, _, verdict, ⟨by simp, _, layout, by simp⟩, granted⟩
      | _ => cases admitted

/-- Streams are taken with the token of the client which was let in. -/
def Vouched (past : List Exchange) (exchange : Exchange) : Prop :=
  ∀ session client token, exchange.request = .serve session client token →
    client = peer ∧ Authenticated peer past token

theorem vouched_of_after {exchanges : List Exchange} {rest : Program (Except Error Unit)}
    (after : Program.After (server.handle session peer).run exchanges rest) :
    Throughout (Vouched peer) [] exchanges := by
  obtain ⟨later, result, run⟩ := rest.exists_run
  obtain ⟨front, outcome, whole, welcome⟩ :=
    server.welcome_of_run_handle session peer (after.run_append run)
  have outside := (server.settled_of_welcome session peer welcome).outside
  suffices vouched : Throughout (Vouched peer) [] (front ++ ending session peer outcome) by
    rw [← whole] at vouched
    exact ((throughout_append ..).mp vouched).1
  refine (throughout_append ..).mpr ⟨?_, ?_⟩
  · refine throughout_of_forall fun _ exchange member served client token same => ?_
    exact absurd ⟨exchange, member, same ▸ rfl⟩ outside
  · rcases outcome with error | token | message
    · exact ⟨nofun, trivial⟩
    · refine ⟨fun served client given same => ?_, nofun, trivial⟩
      cases same
      exact ⟨rfl, server.authenticated_of_welcome session peer welcome rfl⟩
    · exact ⟨nofun, trivial⟩

/-- The threads of a session and what each of them has done. -/
structure Tracks (log : List Event) (threads : Threads) : Prop where
  /-- Streams are taken with the token of the client which was let in. -/
  taking : ∀ client token, threads.taking = some (client, token) →
    client = peer ∧ Authenticated peer (greetings log) token
  /-- Each thread which serves a stream has come so far. -/
  streams : ∀ number program, threads.streams[number]? = some program →
    ∃ token stream, Authenticated peer (greetings log) token ∧ Event.taken (.ok stream) ∈ log ∧
      Program.After (server.handleStream peer token stream) (served number log) program
  /-- A thread which has not begun has done nothing. -/
  fresh : ∀ number, threads.streams.length ≤ number → served number log = []

section Steps

variable {server session peer}
variable {log : List Event} {threads : Threads}

/-- What is no part of serving a stream changes nothing about the threads which do. -/
theorem Tracks.other (tracks : server.Tracks peer log threads) {event : Event} {later : Threads}
    (unserved : ∀ number, served number [event] = []) (same : later.streams = threads.streams)
    (taking : ∀ client token, later.taking = some (client, token) →
      client = peer ∧ Authenticated peer (greetings (log ++ [event])) token) :
    server.Tracks peer (log ++ [event]) later := by
  refine ⟨taking, ?_, ?_⟩
  · intro number program there
    obtain ⟨token, stream, authenticated, taken, after⟩ :=
      tracks.streams number program (same ▸ there)
    refine ⟨token, stream, ?_, List.mem_append_left _ taken, ?_⟩
    · rw [greetings_append]
      exact authenticated.append peer _
    · rw [served_append, unserved, List.append_nil]
      exact after
  · intro number beyond
    rw [served_append, unserved, List.append_nil]
    exact tracks.fresh number (same ▸ beyond)

/-- The streams which are being taken still are. -/
theorem Tracks.still (tracks : server.Tracks peer log threads) (event : Event)
    (client : Net.SocketAddress) (token : Bytes) (busy : threads.taking = some (client, token)) :
    client = peer ∧ Authenticated peer (greetings (log ++ [event])) token := by
  obtain ⟨same, authenticated⟩ := tracks.taking client token busy
  rw [greetings_append]
  exact ⟨same, authenticated.append peer _⟩

theorem Tracks.take (tracks : server.Tracks peer log threads) {client : Net.SocketAddress}
    {token : Bytes} (stream : StreamRef) (busy : threads.taking = some (client, token)) :
    server.Tracks peer (log ++ [.taken (.ok stream)])
      { threads with streams := threads.streams ++ [server.handleStream client token stream] } := by
  have unserved (number : Nat) : served number [.taken (.ok stream)] = [] := rfl
  refine ⟨tracks.still _, ?_, ?_⟩
  · intro number program there
    rw [greetings_append, served_append, unserved, List.append_nil]
    rcases Nat.lt_or_ge number threads.streams.length with old | new
    · rw [List.getElem?_append_left old] at there
      obtain ⟨token, earlier, authenticated, taken, after⟩ := tracks.streams number program there
      exact ⟨token, earlier, authenticated.append peer _, List.mem_append_left _ taken, after⟩
    · -- The new thread has not asked for anything yet.
      rw [List.getElem?_append_right new] at there
      obtain rfl := List.mem_singleton.mp (List.mem_of_getElem? there)
      obtain ⟨rfl, authenticated⟩ := tracks.taking client token busy
      rw [tracks.fresh number new]
      exact ⟨token, stream, authenticated.append client _, by simp, .start _⟩
  · intro number beyond
    rw [served_append, unserved, List.append_nil]
    exact tracks.fresh number (by simp at beyond; omega)

theorem Tracks.stream (tracks : server.Tracks peer log threads) {number : Nat}
    (exchange : Exchange) {next : exchange.request.Reply → Program Unit}
    (left : threads.streams[number]? = some (.ask exchange.request next))
    (admissible : exchange.Admissible) :
    server.Tracks peer (log ++ [.stream number exchange])
      { threads with streams := threads.streams.set number (next exchange.reply) } := by
  have mine : served number [.stream number exchange] = [exchange] := by simp [served]
  have others {other : Nat} (different : number ≠ other) :
      served other [.stream number exchange] = [] := by simp [served, different]
  obtain ⟨there, -⟩ := List.getElem?_eq_some_iff.mp left
  refine ⟨tracks.still _, ?_, ?_⟩
  · intro other program found
    rw [greetings_append, served_append]
    by_cases same : number = other
    · subst same
      rw [List.getElem?_set_self there] at found
      cases found
      obtain ⟨token, stream, authenticated, taken, after⟩ := tracks.streams number _ left
      rw [mine]
      exact ⟨token, stream, authenticated.append peer _, List.mem_append_left _ taken,
        after.trans (.ask admissible (.start _))⟩
    · rw [List.getElem?_set_ne same] at found
      obtain ⟨token, stream, authenticated, taken, after⟩ := tracks.streams other program found
      rw [others same, List.append_nil]
      exact ⟨token, stream, authenticated.append peer _, List.mem_append_left _ taken, after⟩
  · intro other beyond
    rw [List.length_set] at beyond
    rw [served_append, tracks.fresh other beyond, others (by omega)]
    rfl

end Steps

theorem tracks_of_reaches {log : List Event} {threads : Threads}
    (reached : server.Reaches session peer log threads) :
    server.Tracks peer log threads := by
  induction reached with
  | start => exact ⟨by simp [Threads.start], by simp [Threads.start], fun _ _ => rfl⟩
  | @step log before after event reached step ih =>
      have consistent := server.consistent_of_reaches session peer (reached.step step)
      cases step with
      | main exchange left free other admissible =>
          exact ih.other (fun _ => rfl) rfl (ih.still _)
      | enter left free =>
          refine ih.other (fun _ => rfl) rfl fun client token busy => ?_
          cases busy
          have vouched := server.vouched_of_after session peer consistent.after
          rw [greetings_append] at vouched ⊢
          obtain ⟨same, authenticated⟩ := vouched.at_split rfl _ _ _ rfl
          exact ⟨same, authenticated.append peer _⟩
      | take stream busy => exact ih.take stream busy
      | lose stream busy => exact ih.other (fun _ => rfl) rfl (ih.still _)
      | leave error busy => exact ih.other (fun _ => rfl) rfl (by simp)
      | stream exchange left admissible => exact ih.stream exchange left admissible

/-- Only one client is let in, once and with one token. -/
theorem authenticated_unique {past : List Exchange} {token other : Bytes}
    (judged_once : past.countP (fun exchange => isJudge exchange.request) ≤ 1)
    (authenticated : Authenticated peer past token) (again : Authenticated peer past other) :
    other = token := by
  obtain ⟨_, rate, verdict, answered, -⟩ := authenticated
  obtain ⟨_, rate', verdict', answered', -⟩ := again
  obtain ⟨before, after, rfl⟩ := List.append_of_mem answered.judged
  rw [List.countP_append, List.countP_cons_of_pos rfl] at judged_once
  have counted {part : List Exchange} (judge : Asked isJudge part) :
      0 < part.countP (fun exchange => isJudge exchange.request) :=
    List.countP_pos_iff.mpr judge
  have first : ¬ Asked isJudge before := fun judge => by
    have := counted judge
    omega
  have last : ¬ Asked isJudge after := fun judge => by
    have := counted judge
    omega
  rcases List.mem_append.mp answered'.judged with early | late
  · exact absurd ⟨_, early, rfl⟩ first
  · rcases List.mem_cons.mp late with same | later
    · cases same
      rfl
    · exact absurd ⟨_, later, rfl⟩ last

/-- What a thread has done which has served a stream. -/
structure Attended (log : List Event) (number : Nat) (token : Bytes) (stream : StreamRef) :
    Prop where
  /-- The token is the one with which the client was let in. -/
  authenticated : ∀ other, Authenticated peer (greetings log) other ↔ other = token
  /-- The stream was taken. -/
  taken : Event.taken (.ok stream) ∈ log
  /-- The thread has served this stream. -/
  run : Program.Run (server.handleStream peer token stream) (served number log) ()
  /-- The observer was told what belongs to it. -/
  hooked : server.Hooked peer token stream (served number log)

theorem attended_of_reaches {log : List Event} {threads : Threads} {number : Nat}
    (reached : server.Reaches session peer log threads)
    (ended : threads.streams[number]? = some (.done ())) :
    ∃ token stream, server.Attended peer log number token stream := by
  obtain ⟨token, stream, authenticated, taken, run⟩ :=
    (server.tracks_of_reaches session peer reached).streams number _ ended
  have consistent := server.consistent_of_reaches session peer reached
  have judged_once := server.judge_count_le_one session peer
    (server.proper_of_after session peer consistent.after)
  refine ⟨token, stream, fun other => ⟨fun again => ?_, ?_⟩, taken, run, hooked_of_run run⟩
  · exact authenticated_unique peer judged_once authenticated again
  · rintro rfl
    exact authenticated

end Server
end Tunnel
end TunnelProxy
