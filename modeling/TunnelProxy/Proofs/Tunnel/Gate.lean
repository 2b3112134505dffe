import TunnelProxy.Proofs.Tunnel.Admission
import TunnelProxy.Proofs.Tunnel.Response

/-!
# The gate of the tunnel server

A session of the tunnel server consists of the thread which exchanges the greetings, of the loop
which takes further streams and of one thread for each of these streams.  Whatever the other side,
the destinations and the order of the steps are, nothing is served before a client has been judged,
has been answered and is paced.
-/

namespace TunnelProxy
namespace Tunnel
namespace Server

variable (server : Server) (session : SessionRef) (peer : Net.SocketAddress)

/-! ## All threads -/

/-- The threads of a session of the server. -/
structure Threads where
  /-- What is left of the thread which the session begins with. -/
  main : Program (Except Error Unit)
  /-- For which client streams are being taken. -/
  taking : Option (Net.SocketAddress × Bytes) := none
  /-- What is left of the threads which serve streams. -/
  streams : List (Program Unit) := []

/-- What can happen in a session of the server. -/
inductive Event where
  /-- The first thread asked for something other than streams to serve. -/
  | main (exchange : Exchange)
  /-- A stream to serve was waited for. -/
  | taken (stream : Except Error StreamRef)
  /-- A thread which serves a stream asked for something. -/
  | stream (number : Nat) (exchange : Exchange)

/-- The session begins with the greetings. -/
def Threads.start : Threads where
  main := (server.handle session peer).run

/-- The steps of the threads.  While streams are being taken, the first thread waits. -/
inductive Step : Threads → Event → Threads → Prop
  /-- The first thread goes on. -/
  | main {threads : Threads} (exchange : Exchange)
      {next : exchange.request.Reply → Program (Except Error Unit)}
      (left : threads.main = .ask exchange.request next) (free : threads.taking = none)
      (other : isServe exchange.request = false) (admissible : exchange.Admissible) :
      Step threads (.main exchange) { threads with main := next exchange.reply }
  /-- The first thread begins to take streams. -/
  | enter {threads : Threads} {client : Net.SocketAddress} {token : Bytes}
      {next : Unit → Program (Except Error Unit)}
      (left : threads.main = .ask (.serve session client token) next)
      (free : threads.taking = none) :
      Step threads (.main ⟨.serve session client token, ()⟩)
        { threads with main := next (), taking := some (client, token) }
  /-- A stream comes and gets a thread. -/
  | take {threads : Threads} {client : Net.SocketAddress} {token : Bytes} (stream : StreamRef)
      (busy : threads.taking = some (client, token)) :
      Step threads (.taken (.ok stream))
        { threads with streams := threads.streams ++ [server.handleStream client token stream] }
  /-- A stream comes, but no thread can be started for it. -/
  | lose {threads : Threads} {client : Net.SocketAddress} {token : Bytes} (stream : StreamRef)
      (busy : threads.taking = some (client, token)) :
      Step threads (.taken (.ok stream)) threads
  /-- No stream can come any more. -/
  | leave {threads : Threads} {client : Net.SocketAddress} {token : Bytes} (error : Error)
      (busy : threads.taking = some (client, token)) :
      Step threads (.taken (.error error)) { threads with taking := none }
  /-- A thread which serves a stream goes on. -/
  | stream {threads : Threads} {number : Nat} (exchange : Exchange)
      {next : exchange.request.Reply → Program Unit}
      (left : threads.streams[number]? = some (.ask exchange.request next))
      (admissible : exchange.Admissible) :
      Step threads (.stream number exchange)
        { threads with streams := threads.streams.set number (next exchange.reply) }

/-- The threads can be there after some events. -/
inductive Reaches : List Event → Threads → Prop
  /-- Nothing has happened. -/
  | start : Reaches [] (Threads.start server session peer)
  /-- One more thing happens. -/
  | step {log : List Event} {before after : Threads} {event : Event} (reached : Reaches log before)
      (step : server.Step session before event after) : Reaches (log ++ [event]) after

/-- What the first thread can do by itself happens whatever the others do. -/
theorem Reaches.main {log : List Event} {threads : Threads}
    (reached : server.Reaches session peer log threads) (free : threads.taking = none)
    {exchanges : List Exchange} {rest : Program (Except Error Unit)}
    (after : Program.After threads.main exchanges rest)
    (other : ∀ exchange ∈ exchanges, isServe exchange.request = false) :
    server.Reaches session peer (log ++ exchanges.map .main) { threads with main := rest } := by
  obtain ⟨program, taking, streams⟩ := threads
  simp only at after
  induction after generalizing log with
  | start => simpa using reached
  | @ask request _ reply _ _ admissible _ ih =>
      rw [List.map_cons, List.append_cons]
      exact ih (fun exchange member => other exchange (List.mem_cons_of_mem _ member))
        (reached.step (.main ⟨request, reply⟩ rfl free (other _ List.mem_cons_self) admissible)) free

/-- What a thread which serves a stream can do happens whatever the others do. -/
theorem Reaches.stream {log : List Event} {threads : Threads}
    (reached : server.Reaches session peer log threads) {number : Nat} {program rest : Program Unit}
    (left : threads.streams[number]? = some program) {exchanges : List Exchange}
    (after : Program.After program exchanges rest) :
    server.Reaches session peer (log ++ exchanges.map (.stream number))
      { threads with streams := threads.streams.set number rest } := by
  obtain ⟨main, taking, streams⟩ := threads
  simp only at left
  obtain ⟨there, -⟩ := List.getElem?_eq_some_iff.mp left
  induction after generalizing log streams with
  | start program =>
      have same : streams.set number program = streams := by
        obtain ⟨_, rfl⟩ := List.getElem?_eq_some_iff.mp left
        exact List.set_getElem_self there
      simpa [same] using reached
  | @ask request next reply _ _ admissible _ ih =>
      have later := ih (streams.set number (next reply))
        (reached.step (.stream ⟨request, reply⟩ left admissible))
        (List.getElem?_set_self there) (by simpa using there)
      rw [List.map_cons, List.append_cons]
      simpa using later

/-- What the first thread asked for, with the replies. -/
def greetings (log : List Event) : List Exchange :=
  log.flatMap fun
    | .main exchange => [exchange]
    | _ => []

/-- What all threads asked for. -/
def requests (log : List Event) : List Request :=
  log.flatMap fun
    | .main exchange | .stream _ exchange => [exchange.request]
    | .taken _ => []

@[simp] theorem greetings_append (front back : List Event) :
    greetings (front ++ back) = greetings front ++ greetings back := by
  simp [greetings]

@[simp] theorem requests_append (front back : List Event) :
    requests (front ++ back) = requests front ++ requests back := by
  simp [requests]

/-- Whether something is done for a client which has been let in only. -/
def Event.isService : Event → Bool
  | .main ⟨.serve .., _⟩ | .main ⟨.dial .., _⟩ | .main ⟨.relay .., _⟩ | .main ⟨.observe .., _⟩ => true
  | .main _ => false
  | .taken _ | .stream .. => true

/-- What a thread which serves a stream may ask for. -/
def Serving (request : Request) : Prop :=
  isJudge request = false ∧ isClose request = false

/-- The threads after some events fit these. -/
structure Consistent (log : List Event) (threads : Threads) : Prop where
  /-- The first thread has come so far. -/
  after : Program.After (server.handle session peer).run (greetings log) threads.main
  /-- Streams are taken for clients which have been let in. -/
  taking : threads.taking ≠ none → Admitted session peer (greetings log)
  /-- Streams are served for clients which have been let in. -/
  streams : threads.streams ≠ [] → Admitted session peer (greetings log)
  /-- The threads which serve streams neither judge nor close. -/
  asks : ∀ program ∈ threads.streams, program.Asks Serving
  /-- All services came after the client had been let in. -/
  service : Throughout
    (fun past event => event.isService → Admitted session peer (greetings past)) [] log
  /-- Only the first thread judges and closes. -/
  alone : ∀ kind : Request → Bool, (∀ request, Serving request → kind request = false) →
    (requests log).countP kind = (greetings log).countP fun exchange => kind exchange.request

theorem asks_serving (client : Net.SocketAddress) (token : Bytes) (stream : StreamRef) :
    (server.handleStream client token stream).Asks Serving :=
  (server.asks_handleStream client token stream).mono fun _ served => by
    cases served <;> exact ⟨rfl, rfl⟩

section Steps

variable {server session peer}
variable {log : List Event} {threads : Threads}

/-- One more event is in order if it is no service or the client has been let in. -/
theorem Consistent.service_append (consistent : server.Consistent session peer log threads)
    {event : Event} (entitled : event.isService → Admitted session peer (greetings log)) :
    Throughout (fun past event => event.isService → Admitted session peer (greetings past)) []
      (log ++ [event]) :=
  (throughout_append ..).mpr ⟨consistent.service, entitled, trivial⟩

theorem Consistent.main (consistent : server.Consistent session peer log threads)
    (exchange : Exchange) {next : exchange.request.Reply → Program (Except Error Unit)}
    (left : threads.main = .ask exchange.request next) (free : threads.taking = none)
    (other : isServe exchange.request = false) (admissible : exchange.Admissible) :
    server.Consistent session peer (log ++ [.main exchange])
      { threads with main := next exchange.reply } := by
  have further : Program.After (server.handle session peer).run
      (greetings log ++ [exchange]) (next exchange.reply) :=
    consistent.after.trans (left ▸ .ask admissible (.start _))
  have proper := (server.proper_of_after session peer further).at_split rfl
  constructor
  · simpa [greetings] using further
  · simp [free]
  · intro some
    simpa [greetings] using (consistent.streams some).append session peer [exchange]
  · exact consistent.asks
  · refine consistent.service_append fun service => ?_
    -- The first thread itself asks for no service.
    obtain ⟨request, reply⟩ := exchange
    cases request with
    | serve => simp [isServe] at other
    | dial | relay | observe => exact proper.elim
    | limit | receive | send | release | judge | connect | accept | openStream | pace | close
    | isClosed => simp [Event.isService] at service
  · intro kind serving
    simpa [greetings, requests, List.countP_cons] using consistent.alone kind serving

theorem Consistent.enter (consistent : server.Consistent session peer log threads)
    {client : Net.SocketAddress} {token : Bytes} {next : Unit → Program (Except Error Unit)}
    (left : threads.main = .ask (.serve session client token) next) :
    server.Consistent session peer (log ++ [.main ⟨.serve session client token, ()⟩])
      { threads with main := next (), taking := some (client, token) } := by
  have further : Program.After (server.handle session peer).run
      (greetings log ++ [⟨.serve session client token, ()⟩]) (next ()) :=
    consistent.after.trans (left ▸ .ask trivial (.start _))
  have admitted : Admitted session peer (greetings log) :=
    ((server.proper_of_after session peer further).at_split rfl).2.2
  constructor
  · simpa [greetings] using further
  · intro _
    simpa [greetings] using admitted.append session peer [⟨.serve session client token, ()⟩]
  · intro _
    simpa [greetings] using admitted.append session peer [⟨.serve session client token, ()⟩]
  · exact consistent.asks
  · exact consistent.service_append fun _ => admitted
  · intro kind serving
    simpa [greetings, requests, List.countP_cons] using consistent.alone kind serving

/-- Waiting for streams concerns nobody but the threads which serve them. -/
theorem Consistent.taken (consistent : server.Consistent session peer log threads)
    {client : Net.SocketAddress} {token : Bytes} (busy : threads.taking = some (client, token))
    (stream : Except Error StreamRef) {later : Threads} (main : later.main = threads.main)
    (asks : ∀ program ∈ later.streams, program.Asks Serving) :
    server.Consistent session peer (log ++ [.taken stream]) later := by
  have admitted : Admitted session peer (greetings log) := consistent.taking (by simp [busy])
  have same : greetings (log ++ [.taken stream]) = greetings log := by simp [greetings]
  constructor
  · rw [same, main]
    exact consistent.after
  · exact fun _ => same ▸ admitted
  · exact fun _ => same ▸ admitted
  · exact asks
  · exact consistent.service_append fun _ => admitted
  · intro kind serving
    simpa [greetings, requests] using consistent.alone kind serving

theorem Consistent.stream (consistent : server.Consistent session peer log threads)
    {number : Nat} (exchange : Exchange) {next : exchange.request.Reply → Program Unit}
    (left : threads.streams[number]? = some (.ask exchange.request next)) :
    server.Consistent session peer (log ++ [.stream number exchange])
      { threads with streams := threads.streams.set number (next exchange.reply) } := by
  have member : .ask exchange.request next ∈ threads.streams := List.mem_of_getElem? left
  have admitted : Admitted session peer (greetings log) :=
    consistent.streams (List.ne_nil_of_mem member)
  obtain ⟨serving, further⟩ := consistent.asks _ member
  have same : greetings (log ++ [.stream number exchange]) = greetings log := by
    simp [greetings]
  constructor
  · rw [same]
    exact consistent.after
  · exact fun _ => same ▸ admitted
  · exact fun _ => same ▸ admitted
  · intro program changed
    rcases List.mem_or_eq_of_mem_set changed with old | rfl
    · exact consistent.asks program old
    · exact further exchange.reply
  · exact consistent.service_append fun _ => admitted
  · intro kind quiet
    rw [same, ← consistent.alone kind quiet]
    simp [requests, quiet exchange.request serving]

end Steps

theorem consistent_of_reaches {log : List Event} {threads : Threads}
    (reached : server.Reaches session peer log threads) :
    server.Consistent session peer log threads := by
  induction reached with
  | start =>
      constructor
      · exact .start _
      · simp [Threads.start]
      · simp [Threads.start]
      · simp [Threads.start]
      · trivial
      · intro kind _
        rfl
  | step reached step ih =>
      cases step with
      | main exchange left free other admissible => exact ih.main exchange left free other admissible
      | enter left free => exact ih.enter left
      | @take client token stream busy =>
          refine ih.taken busy _ rfl fun program member => ?_
          rcases List.mem_append.mp member with old | new
          · exact ih.asks program old
          · rw [List.mem_singleton.mp new]
            exact server.asks_serving client token stream
      | lose stream busy => exact ih.taken busy _ rfl ih.asks
      | leave error busy => exact ih.taken busy _ rfl ih.asks
      | stream exchange left admissible => exact ih.stream exchange left

/-! ## The gate -/

/-- What holds whenever some events have led to some threads. -/
structure Gated (log : List Event) (threads : Threads) : Prop where
  /-- The client is judged at most once. -/
  judged_once : (requests log).countP isJudge ≤ 1
  /-- The client is judged by the whole greeting which was read from the first stream and which asks
  for traffic in both directions. -/
  judged : ∀ before client token rate verdict after,
    greetings log = before ++ ⟨.judge client token rate, verdict⟩ :: after →
      client = peer ∧ ∃ control hello, server.Greeted session before control hello ∧
        hello.token = token ∧ hello.rate.negotiate? server.ceiling = some rate
  /-- What the first thread writes is a judgement which has been made, and goes to the first
  stream. -/
  answered : ∀ before stream bytes reply after,
    greetings log = before ++ ⟨.send stream bytes, reply⟩ :: after →
      (⟨.accept session (some server.greetingLimit), .ok stream⟩ : Exchange) ∈ before ∧
        ∃ token rate, ∃ verdict : Verdict, (⟨.judge peer token rate, verdict⟩ : Exchange) ∈ before ∧
          ServerHello.layout ⟨verdict.accepted, rate, verdict.message⟩ = .ok bytes
  /-- No stream is taken, no destination is dialed and no observer is told anything unless the client
  has been let in, has been told so and is paced. -/
  served : ∀ before event after, log = before ++ event :: after → event.isService →
    Admitted session peer (greetings before)
  /-- The session is closed at most once. -/
  closed_once : (requests log).countP isClose ≤ 1
  /-- The code tells how the session went. -/
  closed : ∀ before closed code reason reply after,
    greetings log = before ++ ⟨.close closed code reason, reply⟩ :: after →
      closed = session ∧ (code = .auth ↔ Rejected peer before) ∧
        (code = .generic ↔ Asked isServe before) ∧
        (code = .protocol ↔ ¬ Rejected peer before ∧ ¬ Asked isServe before)
  /-- Once the first stream is given up, the client has been judged exactly if a whole greeting which
  asks for traffic in both directions was read. -/
  decided : ∀ before stream reply after, greetings log = before ++ ⟨.release stream, reply⟩ :: after →
    (Asked isJudge before ↔ ∃ control hello, server.Greeted session before control hello)
  /-- Once the first thread has ended, the session has been closed, and the client has been judged
  exactly if a whole greeting which asks for traffic in both directions was read. -/
  ended : ∀ result, threads.main = .done result → (requests log).countP isClose = 1 ∧
    (Asked isJudge (greetings log) ↔
      ∃ control hello, server.Greeted session (greetings log) control hello)

/-- The gate holds in every session of the server, whatever the client does. -/
theorem gated_of_reaches {log : List Event} {threads : Threads}
    (reached : server.Reaches session peer log threads) :
    server.Gated session peer log threads := by
  have consistent := server.consistent_of_reaches session peer reached
  have proper := server.proper_of_after session peer consistent.after
  have judges : (requests log).countP isJudge = _ :=
    consistent.alone isJudge fun _ serving => serving.1
  have closes : (requests log).countP isClose = _ :=
    consistent.alone isClose fun _ serving => serving.2
  constructor
  · rw [judges]
    exact server.judge_count_le_one session peer proper
  · intro before client token rate verdict after split
    obtain ⟨same, -, greeted⟩ := proper.at_split split
    exact ⟨same, greeted⟩
  · exact fun before stream bytes reply after split => proper.at_split split
  · exact fun before event after split => consistent.service.at_split split
  · rw [closes]
    exact server.close_count_le_one session peer proper
  · intro before closed code reason reply after split
    obtain ⟨same, -, codes⟩ := proper.at_split split
    exact ⟨same, codes⟩
  · exact fun before stream reply after split => proper.at_split split
  · intro result ended
    have run : Talk.Run (server.handle session peer) (greetings log) result := by
      rw [Talk.Run, Program.Run, ← ended]
      exact consistent.after
    have orderly := server.orderly_of_run session peer run
    refine ⟨?_, orderly.judged⟩
    have most := server.close_count_le_one session peer proper
    have least : 0 < (greetings log).countP (fun exchange => isClose exchange.request) := by
      obtain ⟨exchange, member, close⟩ := orderly.closed
      exact List.countP_pos_iff.mpr ⟨exchange, member, close⟩
    rw [closes]
    omega

/-- A client which sends a greeting and is let in gets a thread for a stream. -/
theorem exists_admitted_client (dispatcher : Acl.Dispatcher) :
    ∃ (log : List Event) (threads : Threads),
      Reaches { ceiling := {}, dispatcher } ⟨0⟩ default log threads ∧
        Event.taken (.ok (.shared 0 3)) ∈ log ∧
        threads.streams = [handleStream { ceiling := {}, dispatcher } default [] (.shared 0 3)] := by
  let server : Server := { ceiling := {}, dispatcher }
  let control : StreamRef := .shared 0 1
  obtain ⟨reads, -, reading⟩ := Talk.exists_read control none
    ((ClientHello.run_reader_iff _ [] ⟨⟨9, 5⟩, []⟩).mpr ⟨_, rfl, rfl⟩)
  have started : server.Reaches ⟨0⟩ default [] _ := .start
  have opened := started.step
    (.main ⟨.accept ⟨0⟩ (some 10000), .ok control⟩ rfl rfl rfl trivial)
  have limited := opened.step (.main ⟨.limit control (some 10000), .ok ()⟩ rfl rfl rfl trivial)
  have others : ∀ exchange ∈ reads, isServe exchange.request = false := by
    intro exchange member
    obtain ⟨_, _, _, same⟩ := Talk.onlyReads_of_run reading exchange member
    rw [same]
    rfl
  have greeted := limited.main _ _ _ rfl
    ((((Program.After.bind reading _).bind _).bind _).bind _) others
  have judged := greeted.step (.main ⟨.judge default [] ⟨5, 9⟩, ⟨true, ""⟩⟩ rfl rfl rfl trivial)
  have answered := judged.step (.main ⟨.send control _, .ok ()⟩ rfl rfl rfl trivial)
  have paced := answered.step (.main ⟨.pace ⟨0⟩ 5, .ok ()⟩ rfl rfl rfl trivial)
  have released := paced.step (.main ⟨.release control, ()⟩ rfl rfl rfl trivial)
  have entered := released.step (.enter rfl rfl)
  have reached := entered.step (.take (.shared 0 3) rfl)
  exact ⟨_, _, reached, by simp, rfl⟩

/-- A client which sends a greeting and is let in gets a stream served. -/
theorem gated_of_admitted_client :
    ∃ (server : Server) (log : List Event) (threads : Threads),
      server.Reaches ⟨0⟩ default log threads ∧
        (Event.taken (.ok (.shared 0 3))) ∈ log ∧
        server.Gated ⟨0⟩ default log threads := by
  obtain ⟨log, threads, reached, taken, -⟩ := exists_admitted_client (.server .none)
  exact ⟨_, log, threads, reached, taken, gated_of_reaches _ _ _ reached⟩

end Server
end Tunnel
end TunnelProxy
