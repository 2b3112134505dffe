import TunnelProxy.Proofs.Mux.Closing
import TunnelProxy.Proofs.Service.Run
import TunnelProxy.Proofs.Tunnel.Admission

/-!
# The end of a service

A service which terminates takes no more commands.  Every connection it was told of before has been
given to a session or abandoned, and those behind stay in the queue.  The tunnel server closes the
sessions which it serves; nobody closes the others.
-/

namespace TunnelProxy

/-! ## Closing a multiplexed session -/

namespace Mux
namespace Session

theorem isClosed_iff (session : Session) :
    session.isClosed = true ↔ ∃ code reason, session.table.closed = some (code, reason) := by
  rw [isClosed, Option.isSome_iff_exists, Prod.exists]

theorem isClosed_run {session : Session} (closed : session.isClosed = true)
    (operations : List Operation) : (session.run operations).isClosed = true := by
  obtain ⟨code, reason, closed⟩ := session.isClosed_iff.mp closed
  exact (isClosed_iff _).mpr ⟨code, reason, (run_closed closed operations).1⟩

/-- A session is closed after it has been closed. -/
theorem isClosed_close (session : Session) (code : CloseCode) (reason : String) :
    (session.close code reason).isClosed = true := by
  cases closed : session.table.closed with
  | some cause =>
      rw [(over_of_closed closed).again, isClosed, closed]
      rfl
  | none =>
      have marked := Table.closed_markClosed closed code reason
      rw [session.close_of_open closed, isClosed]
      cases emit_breaks { session with table := session.table.markClosed code reason }
        (.closing code reason) with
      | same same => exact (congrArg Option.isSome same).trans (congrArg Option.isSome marked)
      | broken unmarked => exact absurd (marked.symm.trans unmarked) (Option.some_ne_none _)

theorem isClosed_run_of_mem {operations : List Operation} {code : CloseCode} {reason : String}
    (member : .close code reason ∈ operations) (session : Session) :
    (session.run operations).isClosed = true := by
  obtain ⟨front, back, rfl⟩ := List.append_of_mem member
  rw [run, List.foldl_append]
  exact isClosed_run (isClosed_close _ code reason) back

/-- An open session is closed by one of the operations. -/
theorem exists_closes_of_run {session : Session} (opened : session.isClosed = false)
    {operations : List Operation} (closed : (session.run operations).isClosed = true) :
    ∃ operation ∈ operations, ∃ cause, operation.Closes cause := by
  induction operations generalizing session with
  | nil =>
      rw [run, List.foldl_nil, opened] at closed
      cases closed
  | cons operation operations ih =>
      cases here : (session.after operation).isClosed with
      | true =>
          obtain ⟨code, reason, marked⟩ := (isClosed_iff _).mp here
          have still : session.table.closed = none := by simpa [isClosed] using opened
          exact ⟨operation, List.mem_cons_self, _, after_closes still marked⟩
      | false =>
          obtain ⟨later, member, cause, closes⟩ := ih here closed
          exact ⟨later, List.mem_cons_of_mem _ member, cause, closes⟩

end Session
end Mux

namespace Service

/-! ## What the loop was told -/

/-- The connection of a command. -/
def Command.connection? : Command → Option Nat
  | connect connection _ => some connection
  | _ => none

/-- Whether a command is not about a session which has ended. -/
def Command.isOrder : Command → Bool
  | disconnect _ => false
  | _ => true

/-- What the loop was told, but for sessions which have ended. -/
def Event.order? : Event → Option Command
  | accepted connection peer => some (.connect connection peer)
  | sent command => if command.isOrder then some command else none
  | _ => none

/-- What the loop was told, in order, but for sessions which have ended. -/
def orders (log : List Event) : List Command :=
  log.filterMap Event.order?

@[simp] theorem orders_concat (log : List Event) (event : Event) :
    orders (log ++ [event]) = orders log ++ event.order?.toList := by
  rw [orders, List.filterMap_append, List.filterMap_cons, List.filterMap_nil]
  cases event.order? <;> rfl

/-- What the loop has not taken of it, together with the command to terminate which it follows. -/
def pending (service : Service) : List Command :=
  if service.stage.isOpen then service.queue.filter Command.isOrder
  else .terminate :: service.queue.filter Command.isOrder

theorem pending_post (service : Service) (command : Command) :
    (service.post command).pending =
      service.pending ++ if command.isOrder then [command] else [] := by
  rw [pending, pending, post]
  cases opened : service.stage.isOpen <;> cases order : command.isOrder <;>
    simp [order, List.filter_append]

theorem pending_of_serving {service : Service} {command : Command} {queue : List Command}
    (serves : service.stage = .serving) (next : service.queue = command :: queue) :
    service.pending = (if command.isOrder then [command] else []) ++
      pending { service with queue } := by
  rw [pending, pending, serves, next, List.filter_cons]
  cases command <;> rfl

theorem pending_start {service : Service} (serves : service.stage = .serving) (id : UInt32)
    (launch : Launch) (connection : Nat) (peer : Net.SocketAddress) :
    (service.start id launch connection peer).pending = service.pending := by
  cases launch with
  | running => simp [pending, start, serves, Stage.isOpen]
  | uninterruptible => rfl
  | threadless =>
      rw [start, pending_post]
      exact List.append_nil _

/-- The connections of the sessions, in order. -/
def connections (service : Service) : List Nat :=
  service.started.toList.map Started.connection

theorem connections_of_update {before after : Service} (change : Nat → Started → Started)
    (started : ∀ place, after.started[place]? = before.started[place]?.map (change place))
    (connection : ∀ place session, (change place session).connection = session.connection) :
    after.connections = before.connections := by
  refine List.ext_getElem? fun place => ?_
  rw [connections, connections, List.getElem?_map, List.getElem?_map, Array.getElem?_toList,
    Array.getElem?_toList, started, Option.map_map]
  refine congrArg (Option.map · _) ?_
  funext session
  exact connection place session

theorem connections_replaced {service : Service} {place : Nat} {session : Started}
    (found : service.started[place]? = some session) (change : Started → Started)
    (connection : ∀ session, (change session).connection = session.connection) :
    connections { service with started := service.started.setIfInBounds place (change session) } =
      service.connections :=
  connections_of_update _ (getElem?_replaced found change)
    (Started.of_changedAt Started.connection change connection place)

theorem connections_collected {service : Service} {place : Nat} {session : Started}
    (found : service.started[place]? = some session) (id : UInt32) :
    (service.collected id place session).connections = service.connections :=
  connections_replaced found Started.collect fun _ => rfl

/-- A connection is given to a session or abandoned. -/
theorem connections_start (service : Service) (id : UInt32) (launch : Launch) (connection : Nat)
    (peer : Net.SocketAddress) :
    (service.start id launch connection peer).connections ++
        (service.start id launch connection peer).abandoned =
      service.connections ++ connection :: service.abandoned := by
  cases launch with
  | running => simp [connections, start]
  | uninterruptible => rfl
  | threadless => rfl

/-- What the loop was told in front of the first command to terminate has come to something. -/
structure Ordered (log : List Event) (service : Service) (front : List Command) : Prop where
  /-- It was not asked to terminate. -/
  unasked : .terminate ∉ front
  /-- What it was told is that and what is pending. -/
  told : orders log = front ++ service.pending
  /-- Each connection has got a session or has been abandoned. -/
  taken : (front.filterMap Command.connection?).Perm (service.connections ++ service.abandoned)

namespace Ordered

variable {log : List Event} {before after : Service} {event : Event} {front : List Command}
  (ordered : Ordered log before front)

include ordered

theorem congr (pending : after.pending = before.pending)
    (connections : after.connections = before.connections)
    (abandoned : after.abandoned = before.abandoned) : Ordered log after front :=
  ⟨ordered.unasked, pending ▸ ordered.told, connections ▸ abandoned ▸ ordered.taken⟩

theorem still (quiet : event.order? = none) (pending : after.pending = before.pending)
    (connections : after.connections = before.connections)
    (abandoned : after.abandoned = before.abandoned) : Ordered (log ++ [event]) after front := by
  have same : orders (log ++ [event]) = orders log := by simp [quiet]
  obtain ⟨unasked, told, taken⟩ := ordered.congr pending connections abandoned
  exact ⟨unasked, same ▸ told, taken⟩

theorem post {command : Command}
    (told : event.order?.toList = if command.isOrder then [command] else []) :
    Ordered (log ++ [event]) (before.post command) front := by
  refine ⟨ordered.unasked, ?_, ordered.taken⟩
  rw [orders_concat, told, pending_post, ordered.told, List.append_assoc]

theorem start (serves : before.stage = .serving) {queue : List Command} {connection : Nat}
    {peer : Net.SocketAddress} (next : before.queue = .connect connection peer :: queue)
    (quiet : event.order? = none) (id : UInt32) (launch : Launch) :
    Ordered (log ++ [event]) ({ before with queue }.start id launch connection peer)
      (front ++ [.connect connection peer]) := by
  have still : Service.stage { before with queue } = .serving := serves
  have rest := pending_start still id launch connection peer
  refine ⟨by simpa using ordered.unasked, ?_, ?_⟩
  · rw [orders_concat, quiet, ordered.told, pending_of_serving serves next, rest]
    simp [Command.isOrder]
  · rw [List.filterMap_append, connections_start]
    calc front.filterMap Command.connection? ++ [connection]
      List.Perm _ (before.connections ++ before.abandoned ++ [connection]) :=
          ordered.taken.append_right _
      _ = before.connections ++ (before.abandoned ++ [connection]) := List.append_assoc ..
      List.Perm _ (before.connections ++ connection :: before.abandoned) :=
          (List.perm_append_singleton ..).append_left _

theorem move {choice : Choice} (moves : Move choice before after) (quiet : event.order? = none) :
    ∃ front, Ordered (log ++ [event]) after front := by
  cases moves with
  | terminate stage next =>
      refine ⟨front, ordered.still quiet ?_
        (connections_of_update _ (started_interruptAll _) fun _ _ => rfl) rfl⟩
      rw [pending_of_serving stage next]
      simp [pending, interruptAll, stage, Stage.isOpen, Command.isOrder]
  | start stage next fresh => exact ⟨_, ordered.start stage next quiet _ _⟩
  | ignore stage next unknown =>
      exact ⟨front, ordered.still quiet (pending_of_serving stage next).symm rfl rfl⟩
  | @collect queue id place session stage next listed found ended =>
      have taken : Service.started { before with queue } = before.started := rfl
      exact ⟨front, ordered.still quiet (pending_of_serving stage next).symm
        (connections_collected found id) rfl⟩
  | enter stage => exact ⟨front, ordered.still quiet (by simp [pending, stage, enter, Stage.isOpen]) rfl rfl⟩
  | @drain id place session stage listed found ended =>
      exact ⟨front, ordered.still quiet rfl (connections_collected found id) rfl⟩
  | leave stage nobody stopped =>
      exact ⟨front, ordered.still quiet (by simp [pending, stage, Stage.isOpen]) rfl rfl⟩

theorem step (step : Step before event after) : ∃ front, Ordered (log ++ [event]) after front := by
  cases step with
  | accept connection peer accepting => exact ⟨front, ordered.post rfl⟩
  | stop => exact ⟨front, ordered.still rfl rfl rfl rfl⟩
  | send command => exact ⟨front, ordered.post (by cases command <;> rfl)⟩
  | @finish place session ending running live =>
      have ended : Ordered log
          { before with started := before.started.setIfInBounds place (session.finished ending) } front :=
        ordered.congr rfl (connections_replaced running (.finished ending) fun _ => rfl) rfl
      rw [finish_eq running live]
      exact ⟨front, ended.post rfl⟩
  | move choice moves => exact ordered.move (move_of_step moves) rfl

end Ordered

theorem exists_ordered {log : List Event} {service : Service} (reached : Reaches log service) :
    ∃ front, Ordered log service front := by
  induction reached with
  | start => exact ⟨[], nofun, rfl, .refl _⟩
  | step _ step ih =>
      obtain ⟨front, ordered⟩ := ih
      exact ordered.step step

theorem leftBehind_eq (service : Service) :
    service.leftBehind = (service.queue.filter Command.isOrder).filterMap Command.connection? := by
  rw [leftBehind, List.filterMap_filter]
  refine List.filterMap_congr fun command _ => ?_
  cases command <;> rfl

/-! ## The sessions of the tunnel server -/

/-- What the handler of a session of the tunnel server has done. -/
inductive Handled (server : Tunnel.Server) (session : Started) : List Exchange → Prop
  /-- It has come to its end. -/
  | regular {exchanges : List Exchange} (ending : session.ending = some .regular)
      (run : Talk.Run (server.handle ⟨session.connection⟩ session.peer) exchanges (.ok ())) :
      Handled server session exchanges
  /-- It has failed. -/
  | failed {exchanges : List Exchange} {error : Error} (ending : session.ending = some (.failed error))
      (run : Talk.Run (server.handle ⟨session.connection⟩ session.peer) exchanges (.error error)) :
      Handled server session exchanges
  /-- It has stopped somewhere. -/
  | panicked {exchanges : List Exchange} {rest : Program (Except Error Unit)}
      (ending : session.ending = some .panicked)
      (after : Program.After (server.handle ⟨session.connection⟩ session.peer).run exchanges rest) :
      Handled server session exchanges
  /-- It still runs. -/
  | running {exchanges : List Exchange} {rest : Program (Except Error Unit)}
      (ending : session.ending = none)
      (after : Program.After (server.handle ⟨session.connection⟩ session.peer).run exchanges rest) :
      Handled server session exchanges

/-- Whether something happens to a session without anyone on this side. -/
def isForeign : Mux.Operation → Bool
  | .receive _ | .lose _ | .sever .. => true
  | _ => false

/-- The connections which were accepted are multiplexed sessions, and the service serves them. -/
structure Attended (server : Tunnel.Server) (service : Service) (deeds : Nat → List Exchange)
    (uses : Nat → List Mux.Operation) : Prop where
  /-- Each session has a handler. -/
  handled : ∀ (place : Nat) (session : Started), service.started[place]? = some session →
    Handled server session (deeds place)
  /-- What the handler closes is closed. -/
  closes : ∀ (place : Nat) (session : Started), service.started[place]? = some session → ∀ code reason,
    ⟨.close ⟨session.connection⟩ code reason, ()⟩ ∈ deeds place →
      .close code reason ∈ uses session.connection
  /-- What is interrupted is closed. -/
  interrupts : ∀ (place : Nat) (session : Started), service.started[place]? = some session → 0 < session.interrupts →
    .close .generic "server shutdown" ∈ uses session.connection
  /-- Nobody on this side does anything with a connection without a session. -/
  unused : ∀ connection, connection ∉ service.connections →
    ∀ operation ∈ uses connection, isForeign operation

/-- A handler which has come to an end has closed its session. -/
theorem Handled.exists_close {server : Tunnel.Server} {session : Started} {exchanges : List Exchange}
    (handled : Handled server session exchanges) (ended : session.ending.isSome)
    (sound : session.ending ≠ some .panicked) :
    ∃ code reason, ⟨.close ⟨session.connection⟩ code reason, ()⟩ ∈ exchanges := by
  have of_run {result : Except Error Unit}
      (run : Talk.Run (server.handle ⟨session.connection⟩ session.peer) exchanges result) :
      ∃ code reason, ⟨.close ⟨session.connection⟩ code reason, ()⟩ ∈ exchanges := by
    have orderly := server.orderly_of_run _ _ run
    obtain ⟨⟨request, reply⟩, member, closes⟩ := orderly.closed
    cases request with
    | close other code reason =>
        obtain ⟨front, back, split⟩ := List.append_of_mem member
        obtain ⟨rfl, -⟩ := orderly.proper.at_split split
        exact ⟨code, reason, member⟩
    | _ => cases closes
  cases handled with
  | regular _ run => exact of_run run
  | failed _ run => exact of_run run
  | panicked ending _ => exact absurd ending sound
  | running ending _ => simp [ending] at ended

/-- What has become of the connections of a tunnel server which has terminated. -/
structure Shut (log : List Event) (service : Service) (uses : Nat → List Mux.Operation) : Prop where
  /-- The connections of which the loop was told before it was asked to terminate have got sessions or
  been abandoned, and those of which it was told afterwards are left behind. -/
  order : ∃ front back, orders log = front ++ .terminate :: back ∧ .terminate ∉ front ∧
    (front.filterMap Command.connection?).Perm (service.connections ++ service.abandoned) ∧
      service.leftBehind = back.filterMap Command.connection?
  /-- Each session has ended and been collected once. -/
  joined : ∀ (place : Nat) (session : Started), service.started[place]? = some session →
    session.ending.isSome ∧ session.collected = 1
  /-- Its connection is closed, unless its handler panicked and it was not interrupted. -/
  closed : ∀ (place : Nat) (session : Started), service.started[place]? = some session →
    session.ending ≠ some .panicked ∨ 0 < session.interrupts →
      ∀ fresh : Mux.Session, (fresh.run (uses session.connection)).isClosed = true
  /-- A connection which was abandoned or left behind is closed only by what happens on the other
  side. -/
  unclosed : ((orders log).filterMap Command.connection?).Nodup →
    ∀ connection ∈ service.abandoned ++ service.leftBehind,
      ∀ fresh : Mux.Session, fresh.isClosed = false →
        (fresh.run (uses connection)).isClosed = true →
          ∃ operation ∈ uses connection, isForeign operation ∧ ∃ cause, operation.Closes cause

/-- Whatever is accepted and whenever it is asked to terminate, a tunnel server has joined each session
which it started and closed its connection in the end, but not the connections of which it was told
behind the command to terminate. -/
theorem shut_of_reaches {server : Tunnel.Server} {log : List Event} {service : Service}
    {deeds : Nat → List Exchange} {uses : Nat → List Mux.Operation} (reached : Reaches log service)
    (stopped : service.stage = .ended) (attended : Attended server service deeds uses) :
    Shut log service uses := by
  have sound := sound_of_reaches reached
  obtain ⟨front, ordered⟩ := exists_ordered reached
  have told := ordered.told
  rw [pending, stopped, if_neg (by simp [Stage.isOpen])] at told
  refine ⟨⟨front, _, told, ordered.unasked, ordered.taken, service.leftBehind_eq⟩,
    fun _ _ there => sound.joined stopped there,
    fun place session there closing fresh => ?_, fun distinct connection member fresh opened closed => ?_⟩
  · rcases closing with regular | interrupted
    · obtain ⟨code, reason, closes⟩ :=
        (attended.handled place session there).exists_close (sound.joined stopped there).1 regular
      exact Mux.Session.isClosed_run_of_mem (attended.closes place session there _ _ closes) fresh
    · exact Mux.Session.isClosed_run_of_mem (attended.interrupts place session there interrupted) fresh
  · have unserved : connection ∉ service.connections := by
      have all : ((orders log).filterMap Command.connection?).Perm
          (service.connections ++ (service.abandoned ++ service.leftBehind)) := by
        rw [told, List.filterMap_append, leftBehind_eq, ← List.append_assoc]
        exact ordered.taken.append_right _
      exact fun served => (List.nodup_append'.mp (all.nodup_iff.mp distinct)).2.2 served member
    obtain ⟨operation, used, closes⟩ := Mux.Session.exists_closes_of_run opened closed
    exact ⟨operation, used, attended.unused connection unserved operation used, closes⟩

/-- A connection is accepted behind the command to terminate.  It is left behind and stays open, while
the one before is interrupted. -/
theorem shut_of_late_connection :
    let peer : Net.SocketAddress := .v4 ⟨127, 0, 0, 1⟩ 80
    let server : Tunnel.Server := { ceiling := {}, dispatcher := .server .none }
    let failure : Error := .sessionClosed .generic "server shutdown"
    let log : List Event := [
      .accepted 0 peer, .moved (some (.connect 0 peer)) { candidates := [7] }, .moved none {},
      .sent .terminate, .accepted 1 peer, .moved (some .terminate) {}, .ended 0 (.failed failure),
      .moved none {}, .stopped, .moved none {}]
    let service : Service := {
      queue := [.connect 1 peer, .disconnect 7]
      started := #[⟨7, 0, peer, some (.failed failure), 1, 1⟩]
      stage := .ended
      acceptorTold := true
      acceptorEnded := true }
    let deeds : Nat → List Exchange := fun _ =>
      [⟨.accept ⟨0⟩ (some 10000), .error failure⟩, ⟨.close ⟨0⟩ .protocol "protocol error", ()⟩]
    let uses : Nat → List Mux.Operation := fun connection =>
      if connection = 0 then [.close .generic "server shutdown", .close .protocol "protocol error"]
      else []
    Reaches log service ∧ service.stage = .ended ∧ Attended server service deeds uses ∧
      service.leftBehind = [1] ∧ ((Mux.Session.start peer false none).run (uses 1)).isClosed = false ∧
        Shut log service uses := by
  intro peer server failure log service deeds uses
  have reached : Reaches ([] ++ log) service := reaches_of_foldlM .start rfl
  have only {place : Nat} {session : Started} (there : service.started[place]? = some session) :
      session = ⟨7, 0, peer, some (.failed failure), 1, 1⟩ := by
    rcases place with - | place
    · exact (Option.some.inj there).symm
    · simp [service] at there
  have attended : Attended server service deeds uses := by
    refine ⟨fun place session there => ?_, fun place session there code reason closes => ?_,
      fun place session there _ => ?_, fun connection unserved operation used => ?_⟩
    · obtain rfl := only there
      exact .failed rfl (Program.run_of_replay? rfl)
    · obtain rfl := only there
      simp_all [deeds, uses]
    · obtain rfl := only there
      simp [uses]
    · have other : connection ≠ 0 := by simpa [connections, service] using unserved
      simp [uses, other] at used
  exact ⟨reached, rfl, attended, rfl, rfl, shut_of_reaches reached rfl attended⟩

end Service
end TunnelProxy
