import TunnelProxy.Proofs.Mux.Operations

/-!
# Closed sessions

A session is closed by a user, by a frame, by a write which fails or by the loss of the connection,
and the first of these says why for good.  From then on the session is silent: nothing is written to
the connection, and every operation is over at once.  What had arrived before is still handed out.
-/

namespace TunnelProxy
namespace Mux

variable {session : Session} {code : CloseCode} {reason : String}

/-! ## What a closed session gives -/

namespace Session

/-- What is got when so many streams are accepted one after another. -/
def accepts (session : Session) : Nat → List (Option (Except Error UInt32))
  | 0 => []
  | count + 1 =>
      let (accepted, after) := session.accept
      accepted :: after.accepts count

/-- What is got when a stream is read again and again, at most so many bytes each time. -/
def reads (session : Session) (id : UInt32) : List Nat → List (Option (Except IoError Bytes))
  | [] => []
  | count :: counts =>
      let (result, after) := session.read id count
      result :: after.reads id counts

end Session

/-- What reads of at most so many bytes make of some bytes and of what stands behind them. -/
def handOut (behind : Except IoError Bytes) : Bytes → List Nat → List (Except IoError Bytes)
  | _, [] => []
  | [], _ :: counts => behind :: handOut behind [] counts
  | byte :: bytes, count :: counts =>
      .ok ((byte :: bytes).take count) :: handOut behind ((byte :: bytes).drop count) counts

/-- What reads find behind the bytes of a stream when no more can arrive: the end of a stream which was
finished by the other side or closed here, and else the reason why no more arrive. -/
def Table.behind (table : Table) (id : UInt32) (cause : Error) : Except IoError Bytes :=
  match table.find? id with
  | some entry =>
      if entry.finished || entry.closedHere then .ok []
      else .error ⟨.connectionAborted, cause.message⟩
  | none => .ok []

/-- What users meet at a session which was closed with a code and a reason. -/
structure Over (code : CloseCode) (reason : String) (session : Session) : Prop where
  /-- The code and the reason are those with which the session was closed. -/
  closed : session.table.closed = some (code, reason)
  /-- No stream is opened, and the session stays as it is. -/
  opens : session.openStream = (.error (.sessionClosed code reason), session)
  /-- Nothing can be written to a stream. -/
  writes : ∀ id bytes, session.write id bytes =
    (.error ⟨.brokenPipe, (Error.sessionClosed code reason).message⟩, session)
  /-- No bytes can be written to a stream completely. -/
  sends : ∀ id bytes, bytes ≠ [] → session.send id bytes =
    (.error ⟨.brokenPipe, (Error.sessionClosed code reason).message⟩, session)
  /-- Streams are closed as ever, but the other side is not told. -/
  closes : ∀ id, session.closeStream id = (.ok (), { session with table := session.table.erase id })
  /-- Closing the session again does nothing. -/
  again : ∀ code' reason', session.close code' reason' = session
  /-- The streams which wait are accepted in order, and then there are no more. -/
  accepts : ∀ count, session.accepts count =
    ((session.table.queue.map Except.ok ++
      List.replicate count (Except.error (Error.sessionClosed code reason))).take count).map some
  /-- What is kept of a stream is read, and then what stands behind it. -/
  reads : ∀ id counts, (∀ count ∈ counts, 0 < count) → session.reads id counts =
    (handOut (session.table.behind id (.sessionClosed code reason)) (session.table.buffered id)
      counts).map some
  /-- So many bytes are read, or it is told at once that there are not as many. -/
  gathers : ∀ id count, ∃ result, (session.readExactly id count).1 = some result

/-! ## Operations on a closed session -/

theorem Table.closedError?_eq {table : Table} (closed : table.closed = some (code, reason)) :
    table.closedError? = some (.sessionClosed code reason) := by
  rw [closedError?, closed]
  rfl

namespace Session

theorem openStream_of_closed (closed : session.table.closed = some (code, reason)) :
    session.openStream = (.error (.sessionClosed code reason), session) := by
  simp only [openStream, Table.reserve, Table.closedError?_eq closed]

theorem write_of_closed (closed : session.table.closed = some (code, reason)) (id : UInt32)
    (bytes : Bytes) :
    session.write id bytes =
      (.error ⟨.brokenPipe, (Error.sessionClosed code reason).message⟩, session) := by
  simp only [write, Table.checkWrite, Table.closedError?_eq closed]

theorem send_of_closed (closed : session.table.closed = some (code, reason)) (id : UInt32)
    {bytes : Bytes} (nonempty : bytes ≠ []) :
    session.send id bytes =
      (.error ⟨.brokenPipe, (Error.sessionClosed code reason).message⟩, session) := by
  rw [send, sendAll, dif_neg nonempty, write_of_closed closed]
  rfl

theorem closeStream_of_closed (closed : session.table.closed = some (code, reason)) (id : UInt32) :
    session.closeStream id = (.ok (), { session with table := session.table.erase id }) := by
  simp [closeStream, Table.closeStream, closed]

theorem close_of_closed (closed : session.table.closed = some (code, reason)) (other : CloseCode)
    (text : String) : session.close other text = session := by
  simp only [close, closed]

theorem take_append_replicate_succ {α : Type} (front : List α) (count : Nat) (last : α) :
    (front ++ List.replicate (count + 1) last).take count =
      (front ++ List.replicate count last).take count := by
  rw [List.replicate_succ', ← List.append_assoc, List.take_append_of_le_length (by simp)]

theorem accepts_of_closed (closed : session.table.closed = some (code, reason)) (count : Nat) :
    session.accepts count =
      ((session.table.queue.map Except.ok ++
        List.replicate count (Except.error (Error.sessionClosed code reason))).take count).map some := by
  induction count generalizing session with
  | zero => rfl
  | succ count ih =>
      cases waiting : session.table.queue with
      | nil =>
          have refused : session.accept = (some (.error (.sessionClosed code reason)), session) := by
            simp only [accept, Table.accept, waiting, Table.closedError?_eq closed, Option.map_some]
          rw [accepts, refused]
          dsimp only
          rw [ih closed, waiting]
          simp [List.replicate_succ]
      | cons id queue =>
          have accepted : session.accept =
              (some (.ok id), { session with table := { session.table with queue } }) := by
            simp only [accept, Table.accept, waiting]
          have later := @ih { session with table := { session.table with queue } } closed
          rw [accepts, accepted]
          dsimp only at later ⊢
          rw [later, List.map_cons, List.cons_append, List.take_succ_cons, List.map_cons,
            take_append_replicate_succ]

/-- A read of a closed session hands out bytes, or it says what stands behind them. -/
theorem read_of_closed (closed : session.table.closed = some (code, reason)) (id : UInt32)
    {count : Nat} (room : 0 < count) :
    (session.table.buffered id = [] ∧
        session.read id count =
          (some (session.table.behind id (.sessionClosed code reason)), session)) ∨
      session.table.buffered id ≠ [] ∧ ∃ table,
        session.read id count =
          (some (.ok ((session.table.buffered id).take count)), { session with table }) ∧
        table.closed = some (code, reason) ∧
        table.buffered id = (session.table.buffered id).drop count ∧
        table.behind id (.sessionClosed code reason) =
          session.table.behind id (.sessionClosed code reason) := by
  have some_room : count ≠ 0 := by omega
  cases found : session.table.find? id with
  | none =>
      refine .inl ⟨by rw [Table.buffered, found]; rfl, ?_⟩
      rw [read, Table.read_of_missing found, Table.behind, found]
  | some entry =>
      have kept : session.table.buffered id = entry.data := by rw [Table.buffered, found]; rfl
      rw [kept]
      by_cases empty : entry.data = []
      · refine .inl ⟨empty, ?_⟩
        rw [read, Table.read_of_empty found empty, Table.behind, found, Table.closedError?_eq closed]
        simp only [some_room, decide_false, Bool.false_or, Option.map_some]
        split <;> rfl
      · refine .inr ⟨empty, session.table.insert id { entry with data := entry.data.drop count },
          ?_, closed, ?_, ?_⟩
        · rw [read, Table.read_of_data found empty]
        · rw [Table.buffered, Table.find?_insert, if_pos rfl]
          rfl
        · rw [Table.behind, Table.find?_insert, if_pos rfl, Table.behind, found]

theorem reads_of_closed (closed : session.table.closed = some (code, reason)) (id : UInt32)
    {counts : List Nat} (room : ∀ count ∈ counts, 0 < count) :
    session.reads id counts =
      (handOut (session.table.behind id (.sessionClosed code reason)) (session.table.buffered id)
        counts).map some := by
  induction counts generalizing session with
  | nil => simp [reads, handOut]
  | cons count counts ih =>
      obtain ⟨here, later⟩ := List.forall_mem_cons.mp room
      rcases read_of_closed closed id here with ⟨empty, ended⟩ | ⟨nonempty, table, read, same⟩
      · rw [reads, ended]
        dsimp only
        rw [ih closed later, empty, handOut, List.map_cons]
      · obtain ⟨closed_after, rest, behind⟩ := same
        rw [reads, read]
        dsimp only
        rw [ih closed_after later, rest, behind]
        cases kept : session.table.buffered id with
        | nil => exact absurd kept nonempty
        | cons byte bytes => rw [handOut, List.map_cons]

theorem readExactly_of_closed (closed : session.table.closed = some (code, reason)) (id : UInt32)
    (count : Nat) : ∃ result, (session.readExactly id count).1 = some result := by
  refine Option.isSome_iff_exists.mp ?_
  simp only [readExactly, Table.readExactly, Table.closedError?_eq closed]
  split
  · rfl
  · split_ifs <;> rfl

end Session

theorem over_of_closed (closed : session.table.closed = some (code, reason)) :
    Over code reason session where
  closed := closed
  opens := Session.openStream_of_closed closed
  writes := Session.write_of_closed closed
  sends id _ nonempty := Session.send_of_closed closed id nonempty
  closes := Session.closeStream_of_closed closed
  again := Session.close_of_closed closed
  accepts := Session.accepts_of_closed closed
  reads id _ room := Session.reads_of_closed closed id room
  gathers := Session.readExactly_of_closed closed

/-! ## A closed session stays closed and silent -/

namespace Table

variable (table : Table) (id : UInt32)

theorem modify_closed (change : StreamEntry → StreamEntry) :
    (table.modify id change).closed = table.closed := by
  unfold modify
  split <;> rfl

theorem receive_closed (kind : FrameKind) (payload : Bytes) :
    (table.receive kind id payload).closed = table.closed := by
  cases kind with
  | opening | close => rfl
  | data | fin => exact table.modify_closed id _

theorem accept_closed : table.accept.2.closed = table.closed := by
  rcases table.accept_cases with ⟨id, queue, -, accepted⟩ | ⟨result, accepted, -⟩ <;> rw [accepted]

theorem read_closed (count : Nat) : (table.read id count).2.closed = table.closed := by
  rcases table.read_table id count with same | ⟨entry, inserted⟩
  · rw [same]
  · rw [inserted]
    rfl

theorem readExactly_closed (count : Nat) :
    (table.readExactly id count).2.closed = table.closed := by
  rcases table.readExactly_table id count with same | ⟨entry, rest, -, inserted⟩
  · rw [same]
  · rw [inserted]
    rfl

theorem markClosed_of_closed {table : Table} (closed : table.closed = some (code, reason))
    (other : CloseCode) (text : String) : table.markClosed other text = table := by
  rw [markClosed, closed]

theorem closed_markClosed {table : Table} (opened : table.closed = none) (code : CloseCode)
    (reason : String) : (table.markClosed code reason).closed = some (code, reason) := by
  rw [markClosed, opened]

end Table

namespace Session

theorem receive_closed (closed : session.table.closed = some (code, reason)) (frame : RawFrame) :
    (session.receive frame).table.closed = some (code, reason) ∧
      (session.receive frame).link.written = session.link.written := by
  unfold receive
  split
  · rw [fail, Table.markClosed_of_closed closed]
    exact ⟨closed, rfl⟩
  · split
    · exact ⟨(session.table.receive_closed _ _ _).trans closed, rfl⟩
    · exact ⟨closed, rfl⟩

theorem lose_closed (closed : session.table.closed = some (code, reason)) (cause : IoError) :
    (session.lose cause).table.closed = some (code, reason) ∧
      (session.lose cause).link.written = session.link.written := by
  unfold lose
  split_ifs
  · exact ⟨closed, rfl⟩
  · rw [fail, Table.markClosed_of_closed closed]
    exact ⟨closed, rfl⟩
  · exact ⟨closed, rfl⟩

/-- Nothing opens a closed session again, and nothing is written to its connection. -/
theorem after_closed (closed : session.table.closed = some (code, reason)) (operation : Operation) :
    (session.after operation).table.closed = some (code, reason) ∧
      (session.after operation).link.written = session.link.written := by
  have facts := over_of_closed closed
  cases operation with
  | openStream => rw [after, facts.opens]; exact ⟨closed, rfl⟩
  | accept => exact ⟨session.table.accept_closed.trans closed, rfl⟩
  | read id count => exact ⟨(session.table.read_closed id count).trans closed, rfl⟩
  | readExactly id count => exact ⟨(session.table.readExactly_closed id count).trans closed, rfl⟩
  | write id bytes => rw [after, facts.writes]; exact ⟨closed, rfl⟩
  | send id bytes =>
      rw [after]
      by_cases empty : bytes = []
      · rw [send, sendAll, dif_pos empty]
        exact ⟨closed, rfl⟩
      · rw [facts.sends id bytes empty]
        exact ⟨closed, rfl⟩
  | closeStream id => rw [after, facts.closes]; exact ⟨closed, rfl⟩
  | setLimit id limit => exact ⟨(session.table.modify_closed id _).trans closed, rfl⟩
  | setPacing pacing => exact ⟨closed, rfl⟩
  | close other text => rw [after, facts.again]; exact ⟨closed, rfl⟩
  | receive frame => exact receive_closed closed frame
  | lose cause => exact lose_closed closed cause
  | sever count kind => exact ⟨closed, rfl⟩

theorem run_closed (closed : session.table.closed = some (code, reason))
    (operations : List Operation) :
    (session.run operations).table.closed = some (code, reason) ∧
      (session.run operations).link.written = session.link.written := by
  induction operations generalizing session with
  | nil => exact ⟨closed, rfl⟩
  | cons operation operations ih =>
      obtain ⟨closed_after, silent⟩ := after_closed closed operation
      obtain ⟨closed_run, silent_run⟩ := ih closed_after
      exact ⟨closed_run, silent_run.trans silent⟩

end Session

/-! ## What closes a session -/

/-- The code and the reason of a session which a failed write has closed. -/
def WriteError (cause : CloseCode × String) : Prop :=
  ∃ error, cause = (.generic, s!"write error: {(Error.io error).message}")

/-- What an operation can close a session with. -/
def Operation.Closes (cause : CloseCode × String) : Operation → Prop
  | .close code reason => cause = (code, reason)
  | .receive frame => frame.ending? = some cause
  | .lose error => cause = (.generic, s!"connection lost: {(Error.io error).message}")
  | .openStream | .write _ _ | .send _ _ | .closeStream _ => WriteError cause
  | .accept | .read _ _ | .readExactly _ _ | .setLimit _ _ | .setPacing _ | .sever _ _ => False

/-- A session is closed as before, or a write has closed it. -/
inductive Table.Breaks (before after : Table) : Prop
  /-- Nothing has closed the session. -/
  | same (closed : after.closed = before.closed)
  /-- A write has closed the session. -/
  | broken (opened : before.closed = none) (cause : CloseCode × String)
      (closed : after.closed = some cause) (failed : WriteError cause)

theorem Table.Breaks.trans {first second third : Table} (near : first.Breaks second)
    (far : second.Breaks third) : first.Breaks third := by
  cases near with
  | same closed =>
      cases far with
      | same later => exact .same (later.trans closed)
      | broken opened cause later failed => exact .broken (closed ▸ opened) cause later failed
  | broken opened cause closed failed =>
      cases far with
      | same later => exact .broken opened cause (later.trans closed) failed
      | broken reopened => rw [closed] at reopened; cases reopened

theorem Table.Breaks.writeError {before after : Table} (breaks : before.Breaks after)
    {cause : CloseCode × String} (closed : after.closed = some cause)
    (opened : before.closed = none) : WriteError cause := by
  cases breaks with
  | same same => rw [same, opened] at closed; cases closed
  | broken _ other broken failed =>
      rw [broken] at closed
      cases closed
      exact failed

namespace Session

variable (session)

theorem emit_breaks (frame : Frame) : session.table.Breaks (session.emit frame).2.table := by
  obtain ⟨link, mask, same⟩ := session.transmit_eq frame.layout
  rw [emit]
  split
  · rename_i after written
    rw [written] at same
    obtain rfl : after = { session with link, mask } := same
    exact .same rfl
  · rename_i error after broken
    rw [broken] at same
    obtain rfl : after = { session with link, mask } := same
    cases closed : session.table.closed with
    | some cause => exact .same (congrArg Table.closed (Table.markClosed_of_closed closed _ _))
    | none =>
        refine .broken closed _ ?_ ⟨error, rfl⟩
        exact Table.closed_markClosed closed _ _

theorem write_breaks (id : UInt32) (bytes : Bytes) :
    session.table.Breaks (session.write id bytes).2.table := by
  cases possible : session.table.checkWrite id with
  | error error =>
      rw [write, possible]
      exact .same rfl
  | ok _ =>
      have emitted := (session.pace (bytes.take maximumPayload).length).emit_breaks
        { kind := .data, id, payload := bytes.take maximumPayload }
      rw [write_eq possible]
      dsimp only
      split <;> (rename_i sent; rw [sent] at emitted; exact emitted)

theorem send_breaks (id : UInt32) (bytes : Bytes) :
    session.table.Breaks (session.send id bytes).2.table := by
  rw [send]
  split
  · rename_i outcome sent
    exact sendAll_keeps (fun state => session.table.Breaks state.table)
      (fun state bytes breaks => breaks.trans (state.write_breaks id bytes)) (.same rfl) sent
  · exact .same rfl

/-- Closing an open session marks it, and no failure of the last frame says anything else. -/
theorem close_of_open (opened : session.table.closed = none) (code : CloseCode) (reason : String) :
    session.close code reason =
      ({ session with table := session.table.markClosed code reason }.emit
        (.closing code reason)).2.closeLink := by
  rw [close, opened]

variable {session}

/-- An open session is closed only with what the operation says. -/
theorem after_closes (opened : session.table.closed = none) {operation : Operation}
    (closed : (session.after operation).table.closed = some (code, reason)) :
    operation.Closes (code, reason) := by
  have stays {table : Table} (same : table.closed = session.table.closed) :
      table.closed ≠ some (code, reason) := by
    rw [same, opened]
    exact (Option.some_ne_none _).symm
  have marked (other : CloseCode) (text : String) :
      (session.table.markClosed other text).closed = some (other, text) :=
    Table.closed_markClosed opened other text
  cases operation with
  | openStream =>
      rcases session.openStream_cases with ⟨cause, -, refused⟩ | ⟨-, opens⟩
      · rw [after, refused] at closed
        exact absurd closed (stays rfl)
      · rw [after, opens] at closed
        exact (emit_breaks _ _).writeError closed opened
  | accept => exact absurd closed (stays session.table.accept_closed)
  | read id count => exact absurd closed (stays (session.table.read_closed id count))
  | readExactly id count => exact absurd closed (stays (session.table.readExactly_closed id count))
  | write id bytes => exact (session.write_breaks id bytes).writeError closed opened
  | send id bytes => exact (session.send_breaks id bytes).writeError closed opened
  | closeStream id =>
      rcases session.closeStream_cases id with silent | tells
      · rw [after, silent] at closed
        exact absurd closed (stays rfl)
      · rw [after, tells] at closed
        exact (emit_breaks _ _).writeError closed opened
  | setLimit id limit => exact absurd closed (stays (session.table.modify_closed id _))
  | setPacing pacing => exact absurd closed (stays rfl)
  | close other text =>
      rw [after, session.close_of_open opened] at closed
      have kept := emit_breaks { session with table := session.table.markClosed other text }
        (.closing other text)
      cases kept with
      | same same =>
          have closing : some (other, text) = some (code, reason) :=
            (marked other text).symm.trans (same.symm.trans closed)
          exact (Option.some.inj closing).symm
      | broken unmarked => exact absurd ((marked other text).symm.trans unmarked) (Option.some_ne_none _)
  | receive frame =>
      rw [after, receive] at closed
      cases ending : frame.ending? with
      | some cause =>
          rw [ending] at closed
          exact ending.trans ((marked _ _).symm.trans closed)
      | none =>
          rw [ending] at closed
          dsimp only at closed
          split at closed
          · exact absurd closed (stays (session.table.receive_closed _ _ _))
          · exact absurd closed (stays rfl)
  | lose cause =>
      rw [after, lose] at closed
      split_ifs at closed
      · exact absurd closed (stays rfl)
      · exact Option.some.inj (closed.symm.trans (marked _ _))
      · exact absurd closed (stays rfl)
  | sever count kind => exact absurd closed (stays rfl)

/-! ## What closing a session writes -/

section Output

variable {keystream : Option Keystream} {taken : Nat}

theorem Aligned.with_table (aligned : session.Aligned keystream taken) (table : Table) :
    { session with table }.Aligned keystream taken := aligned

/-- A frame is written as far as the connection takes it. -/
theorem Aligned.emit (aligned : session.Aligned keystream taken) (frame : Frame) :
    (session.emit frame).2.Aligned keystream taken ∧ ∃ front, front <+: frame.layout ∧
      (session.emit frame).2.output keystream = session.output keystream ++ front := by
  obtain ⟨result, link, mask, transmitted, kept, transmits⟩ :=
    transmit_spec aligned frame.layout_ne_nil
  rw [Session.emit, transmitted]
  cases transmits with
  | all _ _ written => exact ⟨kept, frame.layout, List.prefix_rfl, written⟩
  | part error _ front back cut _ _ _ written => exact ⟨kept, front, ⟨back, cut.symm⟩, written⟩

theorem Aligned.write (aligned : session.Aligned keystream taken) (id : UInt32) (bytes : Bytes) :
    (session.write id bytes).2.Aligned keystream taken := by
  cases possible : session.table.checkWrite id with
  | error error =>
      rw [Session.write, possible]
      exact aligned
  | ok _ =>
      have paced : (session.pace (bytes.take maximumPayload).length).Aligned keystream taken :=
        aligned
      have emitted := (paced.emit { kind := .data, id, payload := bytes.take maximumPayload }).1
      rw [write_eq possible]
      dsimp only
      split <;> (rename_i sent; rw [sent] at emitted; exact emitted)

theorem Aligned.send (aligned : session.Aligned keystream taken) (id : UInt32) (bytes : Bytes) :
    (session.send id bytes).2.Aligned keystream taken := by
  rw [Session.send]
  split
  · rename_i outcome sent
    exact sendAll_keeps (Aligned keystream taken)
      (fun state bytes aligned => aligned.write id bytes) aligned sent
  · exact aligned

/-- The obfuscation stays where the connection is, whatever happens. -/
theorem Aligned.after (aligned : session.Aligned keystream taken) (operation : Operation) :
    (session.after operation).Aligned keystream taken := by
  cases operation with
  | openStream =>
      rcases session.openStream_cases with ⟨cause, -, refused⟩ | ⟨-, opens⟩
      · rw [Session.after, refused]
        exact aligned
      · rw [Session.after, opens]
        exact ((aligned.with_table _).emit _).1
  | write id bytes => exact aligned.write id bytes
  | send id bytes => exact aligned.send id bytes
  | closeStream id =>
      rcases session.closeStream_cases id with silent | tells
      · rw [Session.after, silent]
        exact aligned
      · rw [Session.after, tells]
        exact ((aligned.with_table _).emit _).1
  | close code reason =>
      rw [Session.after, close]
      split
      · exact aligned
      · exact ((aligned.with_table _).emit _).1
  | receive frame =>
      rw [Session.after, receive]
      split
      · exact aligned
      · split <;> exact aligned
  | lose cause =>
      rw [Session.after, lose]
      split_ifs <;> exact aligned
  | accept | read _ _ | readExactly _ _ | setLimit _ _ | setPacing _ | sever _ _ => exact aligned

theorem Aligned.run (aligned : session.Aligned keystream taken) (operations : List Operation) :
    (session.run operations).Aligned keystream taken := by
  induction operations generalizing session with
  | nil => exact aligned
  | cons operation operations ih => exact ih (aligned.after operation)

theorem aligned_start (remote : Net.SocketAddress) (dialed : Bool) (keystream : Option Keystream)
    {link : Endpoint} (unused : link.pieces = []) :
    (start remote dialed keystream link).Aligned keystream 0 := by
  have nothing : link.written = [] := by rw [Endpoint.written, unused]; rfl
  cases keystream with
  | none => rfl
  | some stream =>
      change some (ObfuscatedStream.mk stream 0 0) = some ⟨stream, 0, link.written.length⟩
      rw [nothing]
      rfl

end Output

end Session

/-- What closes a session takes away nothing that had arrived, apart from the streams which the
operation itself opens or closes. -/
theorem Operation.Closes.keeps {operation : Operation} {cause : CloseCode × String}
    (closes : operation.Closes cause) (session : Session) :
    (session.after operation).table.queue = session.table.queue ∧
      ∀ id, operation ≠ .openStream → operation ≠ .closeStream id →
        (session.after operation).table.find? id = session.table.find? id := by
  have same := session.after_sameStreams operation
  suffices kept : (session.table.after operation).queue = session.table.queue ∧
      ∀ id, operation ≠ .openStream → operation ≠ .closeStream id →
        (session.table.after operation).find? id = session.table.find? id from
    ⟨same.queue.trans kept.1, fun id other elsewhere =>
      (same.find?_eq id).trans (kept.2 id other elsewhere)⟩
  cases operation with
  | openStream =>
      refine ⟨?_, fun id opens => absurd rfl opens⟩
      rw [Table.after]
      rcases session.table.reserve_cases with ⟨error, refused⟩ | reserved
      · rw [refused]
      · rw [reserved]
        rfl
  | closeStream stream =>
      refine ⟨rfl, fun id _ elsewhere => ?_⟩
      rw [Table.after, Table.find?_erase, if_neg fun (same : id = stream) => elsewhere (same ▸ rfl)]
  | receive frame =>
      have ending : frame.ending? = some cause := closes
      rw [Table.after, ending]
      exact ⟨rfl, fun _ _ _ => rfl⟩
  | write _ _ | send _ _ | close _ _ | lose _ => exact ⟨rfl, fun _ _ _ => rfl⟩
  | accept | read _ _ | readExactly _ _ | setLimit _ _ | setPacing _ | sever _ _ => exact closes.elim

/-- **Closing.**  The operation which closes a session says why for good and takes away nothing that
had arrived.  Nothing that happens later writes to the connection, and users meet what `Over` says.  A
user who closes the session writes one frame, as far as the connection takes it. -/
theorem over_of_run (remote : Net.SocketAddress) (dialed : Bool) (keystream : Option Keystream)
    {link : Endpoint} (unused : link.pieces = []) {before : List Operation} {operation : Operation}
    {later : List Operation} {opened closed : Session} {cause : CloseCode × String}
    (running : (Session.start remote dialed keystream link).run before = opened)
    (still_open : opened.table.closed = none) (closes : opened.after operation = closed)
    (closing : closed.table.closed = some cause) :
    operation.Closes cause ∧ Over cause.1 cause.2 (closed.run later) ∧
      (closed.run later).link.written = closed.link.written ∧
      closed.table.queue = opened.table.queue ∧
      (∀ id, operation ≠ .openStream → operation ≠ .closeStream id →
        closed.table.find? id = opened.table.find? id) ∧
      (operation = .close cause.1 cause.2 →
        ∃ front, front <+: (Frame.closing cause.1 cause.2).layout ∧
          closed.output keystream = opened.output keystream ++ front) := by
  obtain ⟨code, reason⟩ := cause
  subst closes
  obtain ⟨stays, silent⟩ := Session.run_closed closing later
  have closes := Session.after_closes still_open closing
  obtain ⟨queue, streams⟩ := closes.keeps opened
  refine ⟨closes, over_of_closed stays, silent, queue, streams, ?_⟩
  rintro rfl
  have aligned : opened.Aligned keystream 0 :=
    running ▸ (Session.aligned_start remote dialed keystream unused).run before
  obtain ⟨-, written⟩ :=
    (aligned.with_table (opened.table.markClosed code reason)).emit (.closing code reason)
  rw [Session.after, opened.close_of_open still_open]
  exact written

/-- A user closes a session while two bytes of a stream wait and another stream has not been accepted.
Then one of the bytes is read, and the session is closed and used again. -/
theorem over_of_close_with_waiting_bytes :
    ∃ opened closed : Session,
      (Session.start default false (some ⟨#[7, 200], by decide⟩)).run
        [.receive ⟨0, 1, []⟩, .receive ⟨1, 1, [104, 105]⟩, .accept, .receive ⟨0, 3, []⟩] = opened ∧
      opened.table.closed = none ∧ opened.after (.close .auth "bye") = closed ∧
      closed.table.closed = some (.auth, "bye") ∧
      (closed.run [.read 1 1, .close .generic "late", .openStream]).table.buffered 1 = [105] ∧
      (closed.run [.read 1 1, .close .generic "late", .openStream]).table.queue = [3] ∧
      Over .auth "bye" (closed.run [.read 1 1, .close .generic "late", .openStream]) := by
  refine ⟨_, _, rfl, ?still_open, rfl, ?closing, ?buffered, ?queue,
    (over_of_run default false (some ⟨#[7, 200], by decide⟩) rfl rfl ?still_open rfl
      ?closing).2.1⟩
  all_goals decide +kernel

end Mux
end TunnelProxy
