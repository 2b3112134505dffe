import TunnelProxy.Proofs.Mux.Pair
import TunnelProxy.Session.Pacing

/-!
# Sessions in use

What users do with a session and what arrives at it, one thing after another.  An operation changes the
streams of a session, or it writes to the connection, and a write which fails marks the session as
closed but changes no stream.
-/

namespace TunnelProxy
namespace Mux

/-! ## Operations -/

/-- A frame which has been read completely is applied, even if the session was closed meanwhile. -/
def Session.receive (session : Session) (frame : RawFrame) : Session :=
  match frame.ending? with
  | some (code, reason) => session.fail code reason
  | none =>
      match FrameKind.ofByte? frame.kind with
      | some kind => { session with table := session.table.receive kind frame.id frame.payload }
      | none => session

/-- What can happen to a session. -/
inductive Operation where
  /-- A stream is opened. -/
  | openStream
  /-- A stream is accepted. -/
  | accept
  /-- A stream is read. -/
  | read (id : UInt32) (count : Nat)
  /-- A stream is read until there are so many bytes. -/
  | readExactly (id : UInt32) (count : Nat)
  /-- A stream is written to once. -/
  | write (id : UInt32) (bytes : Bytes)
  /-- A stream is written to until everything was taken. -/
  | send (id : UInt32) (bytes : Bytes)
  /-- A stream is closed. -/
  | closeStream (id : UInt32)
  /-- The time of reads of a stream is limited. -/
  | setLimit (id : UInt32) (limit : Option Nat)
  /-- The session is paced, which changes when its frames leave and nothing else. -/
  | setPacing (pacing : Pacing)
  /-- The session is closed. -/
  | close (code : CloseCode) (reason : String)
  /-- A frame has arrived. -/
  | receive (frame : RawFrame)
  /-- Nothing more arrives. -/
  | lose (cause : IoError)
  /-- The connection fails for writers after so many bytes more. -/
  | sever (count : Nat) (kind : IoKind)

namespace Session

/-- The session after an operation. -/
def after (session : Session) : Operation → Session
  | .openStream => session.openStream.2
  | .accept => session.accept.2
  | .read id count => (session.read id count).2
  | .readExactly id count => (session.readExactly id count).2
  | .write id bytes => (session.write id bytes).2
  | .send id bytes => (session.send id bytes).2
  | .closeStream id => (session.closeStream id).2
  | .setLimit id limit => session.setLimit id limit
  | .setPacing _ => session
  | .close code reason => session.close code reason
  | .receive frame => session.receive frame
  | .lose cause => session.lose cause
  | .sever count kind => { session with link := session.link.sever count kind }

/-- The session after some operations. -/
def run (session : Session) (operations : List Operation) : Session := operations.foldl after session

/-- Bytes which arrive are frames which arrive one after another. -/
theorem receives_of_receiveAll (session : Session) (bytes : Bytes) :
    ∃ frames : List RawFrame, frames.foldl receive session =
      let received := session.table.receiveAll bytes
      let after := { session with table := received.1 }
      if received.2.2 then after.closeLink else after := by
  induction bytes using RawFrame.cut_induction generalizing session with
  | incomplete bytes split =>
      rw [session.table.receiveAll_of_incomplete split]
      exact ⟨[], rfl⟩
  | frame bytes frame rest split ih =>
      rw [session.table.receiveAll_of_split split]
      cases ending : frame.ending? with
      | some cause =>
          obtain ⟨code, reason⟩ := cause
          refine ⟨[frame], ?_⟩
          simp only [List.foldl_cons, List.foldl_nil, receive, ending, if_true]
          rfl
      | none =>
          cases known : FrameKind.ofByte? frame.kind with
          | some kind =>
              obtain ⟨frames, received⟩ :=
                ih { session with table := session.table.receive kind frame.id frame.payload }
              refine ⟨frame :: frames, ?_⟩
              rw [List.foldl_cons, receive, ending, known]
              exact received
          | none =>
              obtain ⟨frames, received⟩ := ih session
              refine ⟨frame :: frames, ?_⟩
              rw [List.foldl_cons, receive, ending, known]
              exact received

/-- What arrives changes a session as its frames do, apart from what is left of them. -/
theorem arrive_eq_receives {session : Session} (reading : session.reading = true) (bytes : Bytes) :
    ∃ (frames : List RawFrame) (unread : Bytes) (mask : Option ObfuscatedStream),
      session.arrive bytes = { frames.foldl receive session with unread, mask } := by
  obtain ⟨frames, received⟩ :=
    session.receives_of_receiveAll (session.unread ++ session.clear bytes)
  refine ⟨frames, (session.arrive bytes).unread, (session.arrive bytes).mask, ?_⟩
  rw [received, arrive_eq reading]
  dsimp only
  split <;> rfl

end Session

/-! ## What operations do to streams -/

theorem Table.reserve_of_closed {table : Table} {cause : CloseCode × String}
    (closed : table.closed = some cause) : table.reserve.2 = table := by
  rw [reserve, closedError?, closed]
  rfl

theorem Table.reserve_of_open {table : Table} (opened : table.closed = none) :
    table.reserve.2 = { table.insert table.nextId {} with nextId := table.nextId + 2 } := by
  rw [reserve, closedError?, opened]
  rfl

/-- Reading exactly leaves the table alone, or it takes bytes of its stream. -/
theorem Table.readExactly_table (table : Table) (id : UInt32) (count : Nat) :
    (table.readExactly id count).2 = table ∨
      ∃ entry rest, table.find? id = some entry ∧
        (table.readExactly id count).2 = table.insert id { entry with data := rest } := by
  unfold readExactly
  split
  · exact .inl rfl
  · rename_i entry found
    dsimp only
    split_ifs
    · exact .inr ⟨entry, _, found, rfl⟩
    · exact .inr ⟨entry, [], found, rfl⟩
    · cases table.closedError? with
      | none => exact .inl rfl
      | some error => exact .inr ⟨entry, [], found, rfl⟩

/-- The streams after an operation. -/
def Table.after (table : Table) : Operation → Table
  | .openStream => table.reserve.2
  | .accept => table.accept.2
  | .read id count => (table.read id count).2
  | .readExactly id count => (table.readExactly id count).2
  | .closeStream id => table.erase id
  | .setLimit id limit => table.setLimit id limit
  | .receive frame =>
      match frame.ending? with
      | some _ => table
      | none =>
          match FrameKind.ofByte? frame.kind with
          | some kind => table.receive kind frame.id frame.payload
          | none => table
  | .write _ _ | .send _ _ | .setPacing _ | .close _ _ | .lose _ | .sever _ _ => table

/-- The streams of two tables are the same. -/
structure Table.SameStreams (before after : Table) : Prop where
  /-- The streams are kept. -/
  entries : after.entries = before.entries
  /-- The same streams wait. -/
  queue : after.queue = before.queue
  /-- The next number stays. -/
  nextId : after.nextId = before.nextId

namespace Table.SameStreams

variable {first second third : Table}

theorem refl (table : Table) : table.SameStreams table := ⟨rfl, rfl, rfl⟩

theorem trans (near : first.SameStreams second) (far : second.SameStreams third) :
    first.SameStreams third :=
  ⟨far.entries.trans near.entries, far.queue.trans near.queue, far.nextId.trans near.nextId⟩

theorem find?_eq (same : first.SameStreams second) (id : UInt32) :
    second.find? id = first.find? id := by
  rw [find?, find?, same.entries]

theorem markClosed (table : Table) (code : CloseCode) (reason : String) :
    table.SameStreams (table.markClosed code reason) := by
  unfold Table.markClosed
  split
  · exact refl table
  · exact ⟨rfl, rfl, rfl⟩

end Table.SameStreams

/-- Whatever single writes keep is kept by writing completely. -/
theorem sendAll_keeps {State : Type} {write : State → Bytes → Except IoError Nat × State}
    (keep : State → Prop) (keeps : ∀ state bytes, keep state → keep (write state bytes).2)
    {before after : State} {bytes : Bytes} {result : Except IoError Unit} (kept : keep before)
    (sent : sendAll write before bytes = some (result, after)) : keep after := by
  induction size : bytes.length using Nat.strongRecOn generalizing before bytes with
  | _ length ih =>
      rw [sendAll] at sent
      split at sent
      · cases sent
        exact kept
      · rename_i nonempty
        have next := keeps before bytes kept
        split at sent
        · rename_i error middle wrote
          rw [wrote] at next
          split at sent
          · cases sent
          · cases sent
            exact next
        · rename_i count middle wrote
          rw [wrote] at next
          split at sent
          · have shorter : (bytes.drop count).length < length := by
              have := List.length_pos_iff.mpr nonempty
              rw [List.length_drop]
              omega
            exact ih _ shorter next sent rfl
          · cases sent
            exact next

namespace Session

variable (session : Session)

theorem emit_sameStreams (frame : Frame) :
    session.table.SameStreams (session.emit frame).2.table := by
  obtain ⟨link, mask, same⟩ := session.transmit_eq frame.layout
  rw [emit]
  split
  · rename_i after written
    rw [written] at same
    obtain rfl : after = { session with link, mask } := same
    exact .refl _
  · rename_i cause after broken
    rw [broken] at same
    obtain rfl : after = { session with link, mask } := same
    exact .markClosed _ _ _

theorem write_sameStreams (id : UInt32) (bytes : Bytes) :
    session.table.SameStreams (session.write id bytes).2.table := by
  cases possible : session.table.checkWrite id with
  | error error =>
      rw [write, possible]
      exact .refl _
  | ok _ =>
      have emitted := (session.pace (bytes.take maximumPayload).length).emit_sameStreams
        { kind := .data, id, payload := bytes.take maximumPayload }
      rw [write_eq possible]
      dsimp only
      split <;> (rename_i sent; rw [sent] at emitted; exact emitted)

theorem send_sameStreams (id : UInt32) (bytes : Bytes) :
    session.table.SameStreams (session.send id bytes).2.table := by
  rw [send]
  split
  · rename_i outcome sent
    exact sendAll_keeps (fun state => session.table.SameStreams state.table)
      (fun state bytes same => same.trans (state.write_sameStreams id bytes)) (.refl _) sent
  · exact .refl _

/-- A stream is opened in the table before the other side is told of it, unless the session is
closed. -/
theorem openStream_cases :
    (∃ cause, session.table.closed = some cause ∧ session.openStream.2 = session) ∨
      session.table.closed = none ∧ session.openStream.2 =
        ({ session with table :=
            { session.table.insert session.table.nextId {} with
              nextId := session.table.nextId + 2 } }.emit
          { kind := .opening, id := session.table.nextId }).2 := by
  rw [openStream, Table.reserve, Table.closedError?]
  cases closed : session.table.closed with
  | some cause => exact .inl ⟨cause, rfl, rfl⟩
  | none => exact .inr ⟨rfl, rfl⟩

/-- A stream is closed in the table before the other side is told of it, if it has to be. -/
theorem closeStream_cases (id : UInt32) :
    (session.closeStream id).2 = { session with table := session.table.erase id } ∨
      (session.closeStream id).2 =
        ({ session with table := session.table.erase id }.emit { kind := .fin, id }).2 := by
  rw [closeStream, Table.closeStream]
  dsimp only
  split
  · exact .inr rfl
  · exact .inl rfl

/-- An operation does to the streams of a session what it does to those of the table, even if it closes
the session. -/
theorem after_sameStreams (operation : Operation) :
    (session.table.after operation).SameStreams (session.after operation).table := by
  cases operation with
  | openStream =>
      rcases session.openStream_cases with ⟨cause, closed, refused⟩ | ⟨opened, opens⟩
      · rw [after, refused, Table.after, Table.reserve_of_closed closed]
        exact .refl _
      · rw [after, opens, Table.after, Table.reserve_of_open opened]
        exact emit_sameStreams { session with table := _ } _
  | write id bytes => exact session.write_sameStreams id bytes
  | send id bytes => exact session.send_sameStreams id bytes
  | closeStream id =>
      rcases session.closeStream_cases id with silent | tells
      · rw [after, silent]
        exact .refl _
      · rw [after, tells]
        exact emit_sameStreams { session with table := session.table.erase id } _
  | close code reason =>
      have marked := Table.SameStreams.markClosed session.table code reason
      rw [after, close]
      split
      · exact .refl _
      · exact marked.trans (emit_sameStreams { session with table := _ } _)
  | receive frame =>
      rw [after, receive, Table.after]
      cases frame.ending? with
      | some cause => exact .markClosed _ _ _
      | none => cases FrameKind.ofByte? frame.kind <;> exact .refl _
  | lose error =>
      rw [after, lose]
      split_ifs
      · exact .refl _
      · exact .markClosed _ _ _
      · exact .refl _
  | accept | read _ _ | readExactly _ _ | setLimit _ _ | setPacing _ | sever _ _ => exact .refl _

end Session
end Mux
end TunnelProxy
