import Mathlib.Data.ENat.Lattice
import TunnelProxy.Proofs.Tunnel.Meeting
import TunnelProxy.Proofs.Tunnel.Response
import TunnelProxy.Tunnel.Client

/-!
# Agreement on the greetings

A tunnel client and the tunnel server exchange greetings over a session which loses nothing.  In
whatever order they go on, the exchange ends, and both sides have come to the same: either the client
has been let in and each side paces what it sends at the rate which was agreed on, or both have
failed for the same reason.
-/

namespace TunnelProxy
namespace Tunnel

open Text.Utf8 (encode)
open Wire (Reader)
open Server (isJudge isClose)

/-! ## Rates -/

/-- A bound of a rate; an absent or zero one does not restrict. -/
def bound : Option UInt64 → ℕ∞
  | some limit => if limit = 0 then ⊤ else limit.toNat
  | none => ⊤

/-- Rates of a server on which it agrees with a client that asks for some. -/
structure Negotiated (asked : Rate) (ceiling : RateCeiling) (rate : Rate) : Prop where
  /-- The server sends at most what the client receives, within the bound of sending. -/
  send : (rate.send.toNat : ℕ∞) = min (asked.recv.toNat : ℕ∞) (bound ceiling.send)
  /-- The server receives at most what the client sends, within the bound of receiving. -/
  recv : (rate.recv.toNat : ℕ∞) = min (asked.send.toNat : ℕ∞) (bound ceiling.recv)
  /-- The server may send. -/
  sending : 0 < rate.send
  /-- The server may receive. -/
  receiving : 0 < rate.recv

theorem toNat_min (bps limit : UInt64) : (min bps limit).toNat = min bps.toNat limit.toNat := by
  have unfolded : min bps limit = if bps ≤ limit then bps else limit := rfl
  rw [unfolded]
  split
  · rw [Nat.min_eq_left (UInt64.le_iff_toNat_le.mp ‹_›)]
  · rename_i more
    rw [UInt64.le_iff_toNat_le] at more
    rw [Nat.min_eq_right (Nat.le_of_not_le more)]

theorem toNat_cap (bps : UInt64) (limit : Option UInt64) :
    ((Rate.cap bps limit).toNat : ℕ∞) = min (bps.toNat : ℕ∞) (bound limit) := by
  cases limit with
  | none => simp [Rate.cap, bound]
  | some limit =>
      by_cases zero : limit = 0
      · simp [Rate.cap, bound, zero]
      · have positive : 0 < limit := UInt64.pos_iff_ne_zero.mpr zero
        rw [Rate.cap, if_pos positive, bound, if_neg zero, toNat_min]
        exact Nat.mono_cast.map_min

theorem cap_pos {bps : UInt64} (positive : bps ≠ 0) (limit : Option UInt64) :
    0 < Rate.cap bps limit := by
  have some : 0 < bps.toNat := UInt64.lt_iff_toNat_lt.mp (UInt64.pos_iff_ne_zero.mpr positive)
  rw [UInt64.lt_iff_toNat_lt, Rate.cap.eq_def]
  split
  · split
    · rename_i limited
      rw [toNat_min]
      exact Nat.lt_min.mpr ⟨some, UInt64.lt_iff_toNat_lt.mp limited⟩
    · exact some
  · exact some

theorem exists_negotiated {rate : Rate} (sends : rate.send ≠ 0) (receives : rate.recv ≠ 0)
    (ceiling : RateCeiling) :
    ∃ agreed, rate.negotiate? ceiling = some agreed ∧ Negotiated rate ceiling agreed := by
  refine ⟨_, if_neg (not_or.mpr ⟨sends, receives⟩), ?_⟩
  exact ⟨toNat_cap .., toNat_cap .., cap_pos receives _, cap_pos sends _⟩

/-! ## Layouts of greetings -/

theorem ClientHello.exists_layout (rate : Rate) {token : Bytes} (short : token.length ≤ 0xFFFF) :
    ∃ layout, ClientHello.layout ⟨rate, token⟩ = .ok layout := by
  obtain ⟨field, written⟩ := (Wire.long_eq_ok_iff token).mpr short
  refine ⟨version :: rateLayout rate ++ field, ?_⟩
  rw [ClientHello.layout, written]
  rfl

theorem ServerHello.exists_layout (accepted : Bool) (rate : Rate) {message : String}
    (short : (encode message).length ≤ 0xFFFF) :
    ∃ layout, ServerHello.layout ⟨accepted, rate, message⟩ = .ok layout := by
  obtain ⟨field, written⟩ := (Wire.long_eq_ok_iff _).mpr short
  exact ⟨_, (ServerHello.layout_eq_ok_iff ..).mpr ⟨field, written, rfl⟩⟩

/-! ## What was asked for -/

/-- Whether something paces a session. -/
def isPace : Request → Bool
  | .pace .. => true
  | _ => false

/-- Whether something writes to a stream. -/
def isSend : Request → Bool
  | .send .. => true
  | _ => false

/-- The requests of a kind. -/
def requestsOf (kind : Request → Bool) (past : List Exchange) : List Request :=
  (past.map Exchange.request).filter kind

@[simp] theorem requestsOf_nil (kind : Request → Bool) : requestsOf kind [] = [] := rfl

@[simp] theorem requestsOf_cons (kind : Request → Bool) (exchange : Exchange) (past : List Exchange) :
    requestsOf kind (exchange :: past) =
      if kind exchange.request then exchange.request :: requestsOf kind past
      else requestsOf kind past := by
  simp [requestsOf, List.filter_cons]

@[simp] theorem requestsOf_append (kind : Request → Bool) (front back : List Exchange) :
    requestsOf kind (front ++ back) = requestsOf kind front ++ requestsOf kind back := by
  simp [requestsOf]

theorem requestsOf_eq_nil {kind : Request → Bool} {past : List Exchange} (unasked : ¬ Asked kind past) :
    requestsOf kind past = [] := by
  refine List.filter_eq_nil_iff.mpr fun request member asked => ?_
  obtain ⟨exchange, past, rfl⟩ := List.mem_map.mp member
  exact unasked ⟨exchange, past, asked⟩

/-! ## The client -/

namespace Client

variable (client : Client)

/-- What a client has done until it waits for the server's greeting. -/
def opening (session : SessionRef) (control : StreamRef) (layout : Bytes) : List Exchange :=
  [⟨.connect, .ok session⟩, ⟨.openStream session, .ok control⟩,
    ⟨.limit control (some greetingLimit), .ok ()⟩, ⟨.send control layout, .ok ()⟩]

/-- What a client does once the greetings are over. -/
def conclude (session : SessionRef) (result : Except Error Unit) : Program (Except Error SessionRef) :=
  match result with
  | .ok () => .done (.ok session)
  | .error error => .ask (.close session (failureCode error) "") fun _ => .done (.error error)

/-- What a client does once it has read the server's greeting or failed to. -/
def answered (session : SessionRef) (control : StreamRef) :
    Except Error ServerHello → Program (Except Error SessionRef) :=
  Talk.following
    (fun hello =>
      if hello.accepted then Talk.pace session hello.rate.recv
      else throw (.authRejected hello.message))
    fun result => .ask (.release control) fun _ => conclude session result

theorem establish_run : client.establish.run =
    .ask .connect (Talk.following
      (fun session => Talk.attempt (client.greet session) >>= fun result =>
        ExceptT.mk (conclude session result)) .done) := by
  rw [← Program.bind_done client.establish.run, establish, Talk.run_bind_bind]
  congr 2

section Ends

variable {client} {β : Type} {judge : Judge} {far : Party β}
variable {final : Meeting (Except Error SessionRef) β → Prop}
variable {session : SessionRef} {control : StreamRef} {layout : Bytes}

/-- A client which can write its greeting does so and waits for the answer. -/
theorem ends_of_opening (written : ClientHello.layout ⟨client.rate, client.token⟩ = .ok layout)
    (ends : ∀ session control, Meeting.Ends judge final
      ⟨⟨(Talk.read control none ServerHello.reader).run.bind (answered session control),
        opening session control layout⟩, far⟩) :
    Meeting.Ends judge final ⟨⟨client.establish.run, []⟩, far⟩ := by
  rw [establish_run]
  refine .ask .connect ⟨.ok default, trivial, _, rfl⟩ ?_
  rintro _ - ⟨session, rfl⟩
  rw [Talk.following, Talk.run_bind_bind, Talk.run_attempt_bind, greet, Talk.run_bind_bind]
  refine .ask (.openStream session) ⟨.ok default, trivial, _, rfl⟩ ?_
  rintro _ - ⟨control, rfl⟩
  rw [Program.bind, Talk.following, Talk.run_releasing_bind, Talk.run_bind_bind]
  refine .answer (.limit control (some greetingLimit)) (.ok ()) trivial (fun _ => Iff.rfl) ?_
  rw [Program.bind, Talk.following, Talk.run_bind_bind, written, Talk.run_write_bind]
  refine .answer (.send control layout) (.ok ()) trivial (fun _ => Iff.rfl) ?_
  simp only [Except.mapError, Talk.following, Talk.run_bind_bind, ExceptT.run_mk, Program.bind_done]
  exact ends session control

/-- A client which is let in paces the session and keeps it, and one which is not fails. -/
theorem ends_of_answer {hello : ServerHello} {bytes : Bytes} (written : hello.layout = .ok bytes)
    (arrived : bytes <+: sent control far.past)
    (accepted : hello.accepted = true → ∀ reads, OnlyReads reads → Meeting.Ends judge final
      ⟨⟨.done (.ok session), opening session control layout ++ reads ++
        [⟨.pace session hello.rate.recv, .ok ()⟩, ⟨.release control, ()⟩]⟩, far⟩)
    (rejected : hello.accepted = false → ∀ reads, OnlyReads reads → Meeting.Ends judge final
      ⟨⟨.done (.error (.authRejected hello.message)), opening session control layout ++ reads ++
        [⟨.release control, ()⟩, ⟨.close session .generic "", ()⟩]⟩, far⟩) :
    Meeting.Ends judge final
      ⟨⟨(Talk.read control none ServerHello.reader).run.bind (answered session control),
        opening session control layout⟩, far⟩ := by
  have message := ServerHello.run_layout written []
  rw [List.append_nil] at message
  refine .read message arrived fun reads reading _ => ?_
  have only := Talk.onlyReads_of_run reading
  rw [answered, Talk.following]
  cases verdict : hello.accepted with
  | true =>
      rw [if_pos rfl]
      refine .answer (.pace session hello.rate.recv) (.ok ()) trivial (fun _ => Iff.rfl) ?_
      refine .release ?_
      rw [List.append_assoc _ [_]]
      exact accepted verdict reads only
  | false =>
      rw [if_neg Bool.false_ne_true]
      refine .release ?_
      refine .close ?_
      rw [List.append_assoc _ [_]]
      exact rejected verdict reads only

/-- A client to which the server does not answer fails. -/
theorem ends_of_silence (left : Asked (leaves control) far.past) (silent : sent control far.past = [])
    (ends : ∀ cause, Meeting.Ends judge final
      ⟨⟨.done (.error (.io cause)), opening session control layout ++
        [⟨.receive control 1 none, .error cause⟩, ⟨.release control, ()⟩,
          ⟨.close session .protocol "", ()⟩]⟩, far⟩) :
    Meeting.Ends judge final
      ⟨⟨(Talk.read control none ServerHello.reader).run.bind (answered session control),
        opening session control layout⟩, far⟩ := by
  obtain ⟨following, first⟩ : ∃ following, ServerHello.reader = .take 1 following := ⟨_, rfl⟩
  rw [first]
  refine .unread Nat.one_pos left silent fun cause => ?_
  refine .release ?_
  refine .close ?_
  rw [List.append_assoc _ [_], List.append_assoc _ [_]]
  exact ends cause

end Ends
end Client

/-! ## The server -/

namespace Server

variable (server : Server) (session : SessionRef) (peer : Net.SocketAddress)

/-- What a server does once the greetings are over. -/
def conclude : Except Error Admission → Program (Except Error Unit)
  | .ok (.admitted token) =>
      .ask (.serve session peer token) fun _ => (closing session .generic "" (.ok ())).run
  | .ok (.rejected message) =>
      .ask (.close session .auth "auth error") fun _ => .done (.error (.authRejected message))
  | .error error => .ask (.close session .protocol "protocol error") fun _ => .done (.error error)

/-- What a server does once it has read the client's greeting or failed to. -/
def judging (control : StreamRef) : Except Error ClientHello → Program (Except Error Unit) :=
  Talk.following
    (fun hello =>
      match hello.rate.negotiate? server.ceiling with
      | none => throw (.invalidRate hello.rate)
      | some rate => do
          let verdict ← Talk.judge peer hello.token rate
          Talk.write control (ServerHello.layout ⟨verdict.accepted, rate, verdict.message⟩)
          if verdict.accepted then
            Talk.pace session rate.send
            return .admitted hello.token
          else return .rejected verdict.message)
    fun result => .ask (.release control) fun _ => conclude session peer result

theorem handle_run : (server.handle session peer).run =
    (server.welcome session peer).run.bind (conclude session peer) := by
  rw [← Program.bind_done (server.handle session peer).run, handle, Talk.run_bind_bind,
    Talk.run_attempt_bind]
  congr 1
  funext result
  rcases result with error | token | message <;> rfl

section Ends

variable {server session peer} {α : Type} {judge : Judge} {far : Party α}
variable {final : Meeting (Except Error Unit) α → Prop}
variable {control : StreamRef} {layout : Bytes} {hello : ClientHello} {past : List Exchange}

/-- A server to which a client has written its greeting reads it. -/
theorem ends_of_greeting (first : [control] <+: opened far.past)
    (written : hello.layout = .ok layout) (arrived : layout <+: sent control far.past)
    (ends : ∀ reads, OnlyReads reads → Meeting.Ends judge final
      ⟨⟨server.judging session peer control (.ok hello), server.opening session control reads⟩, far⟩) :
    Meeting.Ends judge final ⟨⟨(server.handle session peer).run, []⟩, far⟩ := by
  have message := (ClientHello.run_reader_iff layout [] hello).mpr ⟨layout, written, by simp⟩
  rw [handle_run, welcome, Talk.run_bind_bind]
  refine .answer (.accept session (some server.greetingLimit)) (.ok control) trivial
    (carried_accept_iff (show taken [] ++ [control] <+: opened far.past from first) _ _) ?_
  rw [Program.bind, Talk.following, greet, Talk.run_releasing_bind, Talk.run_bind_bind]
  refine .answer (.limit control (some server.greetingLimit)) (.ok ()) trivial (fun _ => Iff.rfl) ?_
  rw [Program.bind, Talk.following, Talk.run_bind_bind]
  refine .read message arrived fun reads reading _ => ?_
  exact ends reads (Talk.onlyReads_of_run reading)

/-- A server which is asked for no traffic in a direction fails. -/
theorem ends_of_standstill (refused : hello.rate.negotiate? server.ceiling = none)
    (ends : Meeting.Ends judge final
      ⟨⟨.done (.error (.invalidRate hello.rate)), past ++
        [⟨.release control, ()⟩, ⟨.close session .protocol "protocol error", ()⟩]⟩, far⟩) :
    Meeting.Ends judge final ⟨⟨server.judging session peer control (.ok hello), past⟩, far⟩ := by
  rw [judging, Talk.following, refused]
  refine .release ?_
  refine .close ?_
  rw [List.append_assoc _ [_]]
  exact ends

/-- A server which agrees with the client on rates has it judged and answers. -/
theorem ends_of_judgement {rate : Rate} {bytes : Bytes}
    (agreed : hello.rate.negotiate? server.ceiling = some rate)
    (written : ServerHello.layout ⟨(judge peer hello.token rate).accepted, rate,
      (judge peer hello.token rate).message⟩ = .ok bytes)
    (accepted : (judge peer hello.token rate).accepted = true → Meeting.Ends judge final
      ⟨⟨conclude session peer (.ok (.admitted hello.token)), past ++
        [⟨.judge peer hello.token rate, judge peer hello.token rate⟩, ⟨.send control bytes, .ok ()⟩,
          ⟨.pace session rate.send, .ok ()⟩, ⟨.release control, ()⟩]⟩, far⟩)
    (rejected : (judge peer hello.token rate).accepted = false → Meeting.Ends judge final
      ⟨⟨.done (.error (.authRejected (judge peer hello.token rate).message)), past ++
        [⟨.judge peer hello.token rate, judge peer hello.token rate⟩, ⟨.send control bytes, .ok ()⟩,
          ⟨.release control, ()⟩, ⟨.close session .auth "auth error", ()⟩]⟩, far⟩) :
    Meeting.Ends judge final ⟨⟨server.judging session peer control (.ok hello), past⟩, far⟩ := by
  rw [judging, Talk.following, agreed]
  simp only [Talk.run_bind_bind, Talk.run_judge_bind]
  refine .answer (.judge peer hello.token rate) (judge peer hello.token rate) trivial
    (fun _ => Iff.rfl) ?_
  rw [Talk.following, Talk.run_bind_bind, written, Talk.run_write_bind]
  refine .answer (.send control bytes) (.ok ()) trivial (fun _ => Iff.rfl) ?_
  rw [Except.mapError, Talk.following]
  cases verdict : (judge peer hello.token rate).accepted with
  | true =>
      rw [if_pos rfl, Talk.run_bind_bind]
      refine .answer (.pace session rate.send) (.ok ()) trivial (fun _ => Iff.rfl) ?_
      refine .release ?_
      simp only [List.append_assoc, List.cons_append, List.nil_append]
      exact accepted verdict
  | false =>
      rw [if_neg Bool.false_ne_true]
      refine .release ?_
      refine .close ?_
      simp only [List.append_assoc, List.cons_append, List.nil_append]
      exact rejected verdict

end Ends
end Server

/-! ## Both sides -/

/-- A client which makes a session, and the server to which it does. -/
abbrev Greetings := Meeting (Except Error SessionRef) (Except Error Unit)

/-- Nothing has happened yet. -/
def greetings (client : Client) (server : Server) (session : SessionRef)
    (peer : Net.SocketAddress) : Greetings :=
  ⟨⟨client.establish.run, []⟩, ⟨(server.handle session peer).run, []⟩⟩

/-- Both sides have failed, and the client has not even been judged. -/
structure Standstill (meeting : Greetings) : Prop where
  /-- The client has failed. -/
  client : ∃ error, meeting.near.program = .done (.error error)
  /-- The server has failed. -/
  server : ∃ error, meeting.far.program = .done (.error error)
  /-- The server has judged nobody. -/
  unjudged : requestsOf isJudge meeting.far.past = []
  /-- The server has written nothing. -/
  unanswered : requestsOf isSend meeting.far.past = []
  /-- Neither side has paced the session. -/
  unpaced : requestsOf isPace meeting.near.past = [] ∧ requestsOf isPace meeting.far.past = []

/-- Both sides have come to what the judgement says. -/
structure Judged (client : Client) (judge : Judge) (session : SessionRef)
    (peer : Net.SocketAddress) (rate : Rate) (meeting : Greetings) : Prop where
  /-- The client was judged once, by its token and the rates which were agreed on. -/
  judged : requestsOf isJudge meeting.far.past = [.judge peer client.token rate]
  /-- A client which is let in keeps its session, and the server takes its streams; each side paces
  what it sends. -/
  accepted : (judge peer client.token rate).accepted = true →
    ∃ kept next, meeting.near.program = .done (.ok kept) ∧ ¬ Asked isClose meeting.near.past ∧
      meeting.far.program = .ask (.serve session peer client.token) next ∧
      requestsOf isPace meeting.near.past = [.pace kept rate.recv] ∧
      requestsOf isPace meeting.far.past = [.pace session rate.send]
  /-- A client which is not let in fails as the server does, and neither side paces the session. -/
  rejected : (judge peer client.token rate).accepted = false →
    let error := Error.authRejected (judge peer client.token rate).message
    meeting.near.program = .done (.error error) ∧ meeting.far.program = .done (.error error) ∧
      requestsOf isPace meeting.near.past = [] ∧ requestsOf isPace meeting.far.past = []

/-- The client keeps its session exactly if the server takes streams of it. -/
theorem Judged.kept_iff {client : Client} {judge : Judge} {session : SessionRef}
    {peer : Net.SocketAddress} {rate : Rate} {meeting : Greetings}
    (judged : Judged client judge session peer rate meeting) :
    (∃ kept, meeting.near.program = .done (.ok kept)) ↔
      ∃ next, meeting.far.program = .ask (.serve session peer client.token) next := by
  cases verdict : (judge peer client.token rate).accepted with
  | true =>
      obtain ⟨kept, next, keeps, -, serves, -⟩ := judged.accepted verdict
      exact ⟨fun _ => ⟨next, serves⟩, fun _ => ⟨kept, keeps⟩⟩
  | false =>
      obtain ⟨fails, failed, -⟩ := judged.rejected verdict
      simp [fails, failed]

/-- Both sides have come to the same. -/
structure Agreed (client : Client) (server : Server) (judge : Judge) (session : SessionRef)
    (peer : Net.SocketAddress) (meeting : Greetings) : Prop where
  /-- A client which asks for no traffic in a direction is refused. -/
  standstill : client.rate.send = 0 ∨ client.rate.recv = 0 → Standstill meeting
  /-- Every other client is judged. -/
  judged : client.rate.send ≠ 0 → client.rate.recv ≠ 0 →
    ∃ rate, Negotiated client.rate server.ceiling rate ∧
      Judged client judge session peer rate meeting ∧
      ((∃ kept, meeting.near.program = .done (.ok kept)) ↔
        ∃ next, meeting.far.program = .ask (.serve session peer client.token) next)

theorem Judged.agreed {client : Client} {server : Server} {judge : Judge} {session : SessionRef}
    {peer : Net.SocketAddress} {rate : Rate} {meeting : Greetings}
    (judged : Judged client judge session peer rate meeting)
    (negotiated : Negotiated client.rate server.ceiling rate) (sends : client.rate.send ≠ 0)
    (receives : client.rate.recv ≠ 0) : Agreed client server judge session peer meeting where
  standstill zero := absurd zero (not_or.mpr ⟨sends, receives⟩)
  judged _ _ := ⟨rate, negotiated, judged, judged.kept_iff⟩

section Agreement

variable {client : Client} {server : Server} {judge : Judge} {session : SessionRef}
variable {peer : Net.SocketAddress}

theorem requestsOf_opening {control : StreamRef} {reads : List Exchange} (only : OnlyReads reads)
    {kind : Request → Bool} (quiet : ∀ stream count deadline, ¬ kind (.receive stream count deadline))
    (later : ∀ session time, ¬ kind (.accept session time))
    (unlimited : ∀ stream time, ¬ kind (.limit stream time)) :
    requestsOf kind (server.opening session control reads) = [] := by
  have none := requestsOf_eq_nil (only.not_asked quiet)
  simp [Server.opening, none, later, unlimited]

/-- The answer of the server reaches the client, whatever the server does after it. -/
theorem answer_arrives {control : StreamRef} {reads : List Exchange} (only : OnlyReads reads)
    {token : Bytes} {rate : Rate} {verdict : Verdict} {bytes : Bytes} (tail : List Exchange) :
    bytes <+: sent control (server.opening session control reads ++
      ⟨.judge peer token rate, verdict⟩ :: ⟨.send control bytes, .ok ()⟩ :: tail) := by
  -- The server keeps the stream up to here, so all it has written reaches the client.
  let front := server.opening session control reads ++
    [⟨.judge peer token rate, verdict⟩, ⟨.send control bytes, .ok ()⟩]
  have stays : ¬ Asked (leaves control) front := by
    have unread : ¬ Asked (leaves control) reads := only.not_asked (by simp [leaves])
    simp [front, Server.opening, leaves, unread]
  have silent : messages control reads = [] :=
    Server.messages_eq_nil (only.not_asked (by simp [Server.isTransfer]))
  have once : messages control front = [bytes] := by
    simp only [front, Server.opening, messages, List.cons_append, List.flatMap_cons,
      List.flatMap_append, Exchange.messages] at silent ⊢
    simp [silent]
  have whole := sent_append stays tail
  rw [once, List.flatten_singleton] at whole
  rw [show server.opening session control reads ++ ⟨.judge peer token rate, verdict⟩ ::
    ⟨.send control bytes, .ok ()⟩ :: tail = front ++ tail by simp [front], whole]
  exact List.prefix_append ..

/-- A client which is refused without an answer fails as the server does. -/
theorem agreed_of_silence {kept : SessionRef} {control : StreamRef} {layout : Bytes}
    {reads : List Exchange} (only : OnlyReads reads)
    (refused : client.rate.negotiate? server.ceiling = none) :
    Meeting.Ends judge (Agreed client server judge session peer)
      ⟨⟨(Talk.read control none ServerHello.reader).run.bind (Client.answered kept control),
        Client.opening kept control layout⟩,
      ⟨.done (.error (.invalidRate client.rate)), server.opening session control reads ++
        [⟨.release control, ()⟩, ⟨.close session .protocol "protocol error", ()⟩]⟩⟩ := by
  have silent : sent control (server.opening session control reads ++
      [⟨.release control, ()⟩, ⟨.close session .protocol "protocol error", ()⟩]) = [] := by
    have unread : ¬ Asked (leaves control) reads := only.not_asked (by simp [leaves])
    have unsent : messages control reads = [] :=
      Server.messages_eq_nil (only.not_asked (by simp [Server.isTransfer]))
    have stays : ¬ Asked (leaves control) (server.opening session control reads) := by
      simp [Server.opening, leaves, unread]
    rw [sent_append stays]
    simp only [Server.opening, messages, List.flatMap_cons, Exchange.messages] at unsent ⊢
    simp [unsent, sent, before, leaves, messages]
  refine Client.ends_of_silence (by simp [leaves]) silent fun cause => ?_
  refine .of_stuck (Meeting.not_step_done _ _ _ _) ⟨fun _ => ⟨⟨_, rfl⟩, ⟨_, rfl⟩, ?_, ?_, ?_⟩, ?_⟩
  · simp [requestsOf_opening only, isJudge]
  · simp [requestsOf_opening only, isSend]
  · simp [requestsOf_opening only, Client.opening, isPace]
  · intro sends receives
    rw [Server.negotiate?_eq_none_iff] at refused
    exact absurd refused (not_or.mpr ⟨sends, receives⟩)

/-- What the judgement says becomes of a client which is let in. -/
theorem agreed_of_accepted {kept : SessionRef} {control : StreamRef} {layout bytes : Bytes}
    {reads : List Exchange} (only : OnlyReads reads) {rate : Rate}
    (negotiated : Negotiated client.rate server.ceiling rate) {verdict : Verdict}
    (given : judge peer client.token rate = verdict) (accepted : verdict.accepted = true)
    (sends : client.rate.send ≠ 0) (receives : client.rate.recv ≠ 0)
    (written : ServerHello.layout ⟨verdict.accepted, rate, verdict.message⟩ = .ok bytes) :
    Meeting.Ends judge (Agreed client server judge session peer)
      ⟨⟨(Talk.read control none ServerHello.reader).run.bind (Client.answered kept control),
        Client.opening kept control layout⟩,
      ⟨Server.conclude session peer (.ok (.admitted client.token)),
        server.opening session control reads ++
          [⟨.judge peer client.token rate, verdict⟩, ⟨.send control bytes, .ok ()⟩,
            ⟨.pace session rate.send, .ok ()⟩, ⟨.release control, ()⟩]⟩⟩ := by
  refine Client.ends_of_answer written (answer_arrives only _) (fun _ answer answer_only => ?_)
    fun rejected => absurd (accepted.symm.trans rejected) Bool.noConfusion
  have unclosed : ¬ Asked isClose (Client.opening kept control layout ++ answer ++
      [⟨.pace kept rate.recv, .ok ()⟩, ⟨.release control, ()⟩]) := by
    have unread : ¬ Asked isClose answer := answer_only.not_asked (by simp [isClose])
    simp [Client.opening, isClose, unread]
  refine .of_stuck (Meeting.not_step_serve _ unclosed) (Judged.agreed ?_ negotiated sends receives)
  refine ⟨?_, fun _ => ⟨kept, _, rfl, unclosed, rfl, ?_, ?_⟩, ?_⟩
  · simp [requestsOf_opening only, isJudge]
  · have unpaced : requestsOf isPace answer = [] :=
      requestsOf_eq_nil (answer_only.not_asked (by simp [isPace]))
    simp [Client.opening, isPace, unpaced]
  · simp [requestsOf_opening only, isPace]
  · rw [given, accepted]
    exact Bool.noConfusion

/-- What the judgement says becomes of a client which is not let in. -/
theorem agreed_of_rejected {kept : SessionRef} {control : StreamRef} {layout bytes : Bytes}
    {reads : List Exchange} (only : OnlyReads reads) {rate : Rate}
    (negotiated : Negotiated client.rate server.ceiling rate) {verdict : Verdict}
    (given : judge peer client.token rate = verdict) (rejected : verdict.accepted = false)
    (sends : client.rate.send ≠ 0) (receives : client.rate.recv ≠ 0)
    (written : ServerHello.layout ⟨verdict.accepted, rate, verdict.message⟩ = .ok bytes) :
    Meeting.Ends judge (Agreed client server judge session peer)
      ⟨⟨(Talk.read control none ServerHello.reader).run.bind (Client.answered kept control),
        Client.opening kept control layout⟩,
      ⟨.done (.error (.authRejected verdict.message)), server.opening session control reads ++
        [⟨.judge peer client.token rate, verdict⟩, ⟨.send control bytes, .ok ()⟩,
          ⟨.release control, ()⟩, ⟨.close session .auth "auth error", ()⟩]⟩⟩ := by
  refine Client.ends_of_answer written (answer_arrives only _)
    (fun accepted => absurd (rejected.symm.trans accepted) Bool.noConfusion)
    fun _ answer answer_only => ?_
  refine .of_stuck (Meeting.not_step_done _ _ _ _) (Judged.agreed ?_ negotiated sends receives)
  refine ⟨?_, ?_, fun _ => ⟨?_, ?_, ?_, ?_⟩⟩
  · simp [requestsOf_opening only, isJudge]
  · rw [given, rejected]
    exact Bool.noConfusion
  · rw [given]
  · rw [given]
  · have unpaced : requestsOf isPace answer = [] :=
      requestsOf_eq_nil (answer_only.not_asked (by simp [isPace]))
    simp [Client.opening, isPace, unpaced]
  · simp [requestsOf_opening only, isPace]

/-- A client and a server which exchange greetings agree, in whatever order they go on: a client which
asks for traffic in both directions is judged by its token and the rates of which the client's and the
server's bounds allow the most, and what the judgement says becomes of both sides; a client which asks
for no traffic in a direction makes both fail. -/
theorem greetings_agree (short : client.token.length ≤ 0xFFFF)
    (fits : ∀ rate, (encode (judge peer client.token rate).message).length ≤ 0xFFFF) :
    Meeting.Ends judge (Agreed client server judge session peer)
      (greetings client server session peer) := by
  obtain ⟨layout, written⟩ := ClientHello.exists_layout client.rate short
  refine Client.ends_of_opening written fun kept control => ?_
  have first : [control] <+: opened (Client.opening kept control layout) := List.prefix_rfl
  have arrived : layout <+: sent control (Client.opening kept control layout) := by
    simp [sent, before, Client.opening, leaves, messages, Exchange.messages]
  -- The client waits for an answer, so it is up to the server now.
  suffices served : Meeting.Ends judge
      (fun meeting : Meeting (Except Error Unit) (Except Error SessionRef) =>
        Agreed client server judge session peer meeting.swap)
      ⟨⟨(server.handle session peer).run, []⟩,
        ⟨(Talk.read control none ServerHello.reader).run.bind (Client.answered kept control),
          Client.opening kept control layout⟩⟩ from served.swap
  refine Server.ends_of_greeting first written arrived fun reads only => ?_
  by_cases zero : client.rate.send = 0 ∨ client.rate.recv = 0
  · have refused := (Server.negotiate?_eq_none_iff client.rate server.ceiling).mpr zero
    exact Server.ends_of_standstill refused (agreed_of_silence only refused).swap
  obtain ⟨sends, receives⟩ := not_or.mp zero
  obtain ⟨rate, agreed, negotiated⟩ := exists_negotiated sends receives server.ceiling
  obtain ⟨bytes, answer⟩ :=
    ServerHello.exists_layout (judge peer client.token rate).accepted rate (fits rate)
  exact Server.ends_of_judgement agreed answer
    (fun accepted => (agreed_of_accepted only negotiated rfl accepted sends receives answer).swap)
    fun rejected => (agreed_of_rejected only negotiated rfl rejected sends receives answer).swap

/-- A client with the right password is let in and paced at what it receives, as far as the server
sends that much. -/
theorem greetings_agree_on_bounded_rate :
    ∃ (client : Client) (server : Server) (judge : Judge) (last : Greetings) (kept : SessionRef)
      (rate : Rate), Relation.ReflTransGen (Meeting.Step judge) (greetings client server ⟨0⟩ default) last ∧
        last.near.program = .done (.ok kept) ∧
        requestsOf isPace last.near.past = [.pace kept rate.recv] ∧
        requestsOf isPace last.far.past = [.pace ⟨0⟩ rate.send] ∧
        rate.recv.toNat = 9 ∧ rate.send.toNat = 4 := by
  let client : Client := ⟨⟨9, 5⟩, [1]⟩
  let server : Server := { ceiling := ⟨some 4, none⟩, dispatcher := .server .none }
  have fits : ∀ rate, (encode (Judge.password [1] default client.token rate).message).length ≤ 0xFFFF :=
    fun _ => show (encode "Welcome").length ≤ 0xFFFF by decide
  have ends : Meeting.Ends (Judge.password [1]) (Agreed client server _ ⟨0⟩ default) _ :=
    greetings_agree (by decide) fits
  obtain ⟨last, path, agreed⟩ := ends.exists_final
  obtain ⟨rate, negotiated, judged, -⟩ := agreed.judged (by decide) (by decide)
  obtain ⟨kept, next, keeps, -, -, near, far⟩ := judged.accepted rfl
  refine ⟨client, server, Judge.password [1], last, kept, rate, path, keeps, near, far, ?_, ?_⟩
  · have recv : (rate.recv.toNat : ℕ∞) = min ((9 : ℕ) : ℕ∞) ⊤ := negotiated.recv
    rw [min_eq_left le_top] at recv
    exact_mod_cast recv
  · have send : (rate.send.toNat : ℕ∞) = min ((5 : ℕ) : ℕ∞) ((4 : ℕ) : ℕ∞) := negotiated.send
    rw [min_eq_right (by decide)] at send
    exact_mod_cast send

end Agreement

end Tunnel
end TunnelProxy
