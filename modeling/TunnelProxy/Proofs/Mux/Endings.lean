import Mathlib.Data.List.Perm.Subperm
import TunnelProxy.Proofs.Mux.Connection
import TunnelProxy.Proofs.Mux.Openings

/-!
# Finished streams

Whether bytes may be sent on a stream is looked up before they are written, and a stream is forgotten
before the other side is told that it is finished.  So a write which was let through before the stream
was closed can overtake the end of the stream, and its bytes follow the frame which says that none do.
Nothing else ever stands behind this frame, as long as the number of the stream is announced once.
-/

namespace TunnelProxy
namespace Mux

/-! ## What is said of a stream -/

/-- What some frames say of a stream. -/
def said (id : UInt32) (frames : List Frame) : List Frame :=
  frames.filter fun frame => frame.kind ≠ .close ∧ frame.id = id

section Said

variable {id : UInt32} {frame : Frame}

@[simp] theorem said_append (first second : List Frame) :
    said id (first ++ second) = said id first ++ said id second := by
  simp [said]

theorem said_singleton :
    said id [frame] = if frame.kind ≠ .close ∧ frame.id = id then [frame] else [] := by
  by_cases about : frame.kind ≠ .close ∧ frame.id = id <;> simp [said, about]

theorem said_of_about (about : frame.kind ≠ .close ∧ frame.id = id) : said id [frame] = [frame] := by
  rw [said_singleton, if_pos about]

theorem said_of_other (other : ¬(frame.kind ≠ .close ∧ frame.id = id)) : said id [frame] = [] := by
  rw [said_singleton, if_neg other]

end Said

theorem Table.find?_of_checkWrite {table : Table} {id : UInt32}
    (possible : table.checkWrite id = .ok ()) : table.find? id ≠ none := by
  intro missing
  rw [checkWrite, missing] at possible
  split at possible <;> cases possible

/-- What arrives does to the streams what its frames do one after another. -/
theorem Table.receiveAll_sameStreams (table : Table) (bytes : Bytes) :
    ((applied bytes).foldl receiveFrame table).SameStreams (table.receiveAll bytes).1 := by
  induction bytes using RawFrame.cut_induction generalizing table with
  | incomplete bytes split =>
      rw [applied_of_incomplete split, table.receiveAll_of_incomplete split]
      exact .refl table
  | frame bytes frame rest split ih =>
      rw [applied_of_split split, table.receiveAll_of_split split]
      cases ending : frame.ending? with
      | some cause => exact .markClosed table _ _
      | none =>
          cases known : FrameKind.ofByte? frame.kind with
          | some kind => exact ih (table.receive kind frame.id frame.payload)
          | none => simp [RawFrame.ending?, known] at ending

theorem Session.arrive_sameStreams {session : Session} (reading : session.reading = true)
    (bytes : Bytes) :
    ((applied (session.unread ++ session.clear bytes)).foldl Table.receiveFrame
      session.table).SameStreams (session.arrive bytes).table := by
  have same := session.table.receiveAll_sameStreams (session.unread ++ session.clear bytes)
  rw [arrive_eq reading]
  dsimp only
  split <;> exact same

/-- Nothing is kept of a stream before it is announced. -/
theorem Table.find?_receiveFrames {table : Table} {id : UInt32} (unknown : table.find? id = none)
    {frames : List Frame} (unannounced : id ∉ Mux.opens frames) :
    (frames.foldl receiveFrame table).find? id = none := by
  induction frames generalizing table with
  | nil => exact unknown
  | cons frame frames ih =>
      rw [← List.singleton_append, opens_append, opens_singleton, List.mem_append, not_or]
        at unannounced
      refine ih (find?_receive_unknown unknown (fun opening here => unannounced.1 ?_) _) unannounced.2
      rw [if_pos opening, here]
      exact List.mem_singleton_self _

namespace Party

/-! ## What an action says of a stream -/

/-- No side announces a stream, and it comes back neither to the table nor to the queue. -/
structure Stays (id : UInt32) (before after : Party) : Prop where
  /-- The stream is not opened here. -/
  opened : id ∈ after.opened ↔ id ∈ before.opened
  /-- The stream is not announced by the other side. -/
  announced : id ∈ opens after.processed ↔ id ∈ opens before.processed
  /-- If nothing is kept of the stream, nothing is kept of it afterwards. -/
  missing : before.session.table.find? id = none → after.session.table.find? id = none
  /-- If the stream does not wait to be accepted, it does not wait afterwards. -/
  queued : id ∈ after.session.table.queue → id ∈ before.session.table.queue

/-- What an action does to a stream the number of which is announced only once. -/
inductive Effect (id : UInt32) (before : Party) (action : Action) (after : Party) : Prop
  /-- Nothing is said of the stream. -/
  | quiet (stays : before.Stays id after)
      (held : id ∈ after.held → id ∈ before.held ∨ id ∈ before.session.table.queue)
      (sent : said id after.sent = said id before.sent)
      (pending : said id after.pending = said id before.pending)
  /-- The stream is opened here, and its announcement waits. -/
  | opening (unopened : id ∉ before.opened) (unannounced : id ∉ opens before.processed)
      (opened : id ∈ after.opened) (still_unannounced : id ∉ opens after.processed)
      (queued : id ∈ after.session.table.queue → id ∈ before.session.table.queue)
      (held : id ∈ after.held → id ∈ before.held)
      (sent : said id after.sent = said id before.sent)
      (pending : said id after.pending = said id before.pending ++ [{ kind := .opening, id }])
  /-- The stream is announced by the other side. -/
  | arriving (unopened : id ∉ before.opened) (unannounced : id ∉ opens before.processed)
      (still_unopened : id ∉ after.opened) (announced : id ∈ opens after.processed)
      (sent : said id after.sent = said id before.sent)
      (pending : said id after.pending = said id before.pending)
  /-- A write is let through, and its bytes wait. -/
  | writing (stays : before.Stays id after) (held : id ∈ before.held)
      (present : before.session.table.find? id ≠ none) (frame : Frame) (data : frame.kind = .data)
      (sent : said id after.sent = said id before.sent)
      (pending : said id after.pending = said id before.pending ++ [frame])
  /-- The stream is forgotten, and telling the other side waits. -/
  | closing (stays : before.Stays id after) (held : id ∈ before.held)
      (present : before.session.table.find? id ≠ none) (closes : action = .closeStream id)
      (forgotten : after.session.table.find? id = none)
      (sent : said id after.sent = said id before.sent)
      (pending : said id after.pending = said id before.pending ++ [{ kind := .fin, id }])
  /-- A frame which waits is written. -/
  | sending (stays : before.Stays id after) (frame : Frame)
      (held : id ∈ after.held → id ∈ before.held ∨ frame.kind = .opening)
      (moved : (said id before.pending).Perm (frame :: said id after.pending))
      (sent : said id after.sent = said id before.sent ++ [frame])
  /-- A frame which waits is given up. -/
  | dropping (stays : before.Stays id after) (frame : Frame)
      (held : id ∈ after.held → id ∈ before.held)
      (moved : (said id before.pending).Perm (frame :: said id after.pending))
      (sent : said id after.sent = said id before.sent)

section Effects

variable {party : Party} {id : UInt32} {action : Action}

theorem Stays.refl (id : UInt32) (party : Party) : party.Stays id party :=
  ⟨.rfl, .rfl, fun missing => missing, fun waits => waits⟩

theorem Effect.refl : Effect id party action party :=
  .quiet (.refl id party) .inl rfl rfl

theorem said_begin_of_about (party : Party) {frame : Frame} (rest : List Task)
    (nothing_else : rest.filterMap Task.frame? = []) (about : frame.kind ≠ .close ∧ frame.id = id) :
    said id (party.begin (.send frame :: rest)).pending = said id party.pending ++ [frame] := by
  have frames : (Task.send frame :: rest).filterMap Task.frame? = [frame] :=
    congrArg (frame :: ·) nothing_else
  rw [pending_begin, frames, said_append, said_of_about about]

theorem said_begin_of_other (party : Party) {frame : Frame} (rest : List Task)
    (nothing_else : rest.filterMap Task.frame? = [])
    (other : ¬(frame.kind ≠ .close ∧ frame.id = id)) :
    said id (party.begin (.send frame :: rest)).pending = said id party.pending := by
  have frames : (Task.send frame :: rest).filterMap Task.frame? = [frame] :=
    congrArg (frame :: ·) nothing_else
  rw [pending_begin, frames, said_append, said_of_other other, List.append_nil]

theorem Effect.openStream
    (once : (party.openStream.opened ++ opens party.openStream.processed).count id ≤ 1) :
    Effect id party action party.openStream := by
  rw [Party.openStream] at once ⊢
  rcases party.session.table.reserve_cases with ⟨error, refused⟩ | reserved
  · rw [refused]
    exact .refl
  · rw [reserved] at once ⊢
    generalize party.session.table.nextId = stream at once ⊢
    dsimp only at once ⊢
    by_cases here : id = stream
    · subst here
      change ((party.opened ++ [id]) ++ opens party.processed).count id ≤ 1 at once
      rw [List.count_append, List.count_append, List.count_singleton_self] at once
      have unopened : id ∉ party.opened := List.count_eq_zero.mp (by omega)
      have unannounced : id ∉ opens party.processed := List.count_eq_zero.mp (by omega)
      exact .opening unopened unannounced (List.mem_append_right _ (List.mem_singleton_self id))
        unannounced (fun waits => waits) (fun got => got) rfl
        (said_begin_of_about _ [] rfl ⟨by simp, rfl⟩)
    · have elsewhere : id ∉ [stream] := fun among => here (List.mem_singleton.mp among)
      refine .quiet ⟨?_, .rfl, ?_, fun waits => waits⟩ .inl rfl
        (said_begin_of_other _ [] rfl fun about => here about.2.symm)
      · change id ∈ party.opened ++ [stream] ↔ id ∈ party.opened
        rw [List.mem_append, or_iff_left elsewhere]
      · exact fun missing => Table.find?_insert_unknown missing here {}

theorem Effect.write (stream : UInt32) (bytes : Bytes) :
    Effect id party action (party.write stream bytes) := by
  rw [Party.write]
  split
  · rename_i held
    split
    · rename_i possible
      by_cases here : stream = id
      · subst here
        exact .writing { Stays.refl stream party with } held
          (Table.find?_of_checkWrite possible) _ rfl rfl (said_begin_of_about _ [] rfl ⟨by simp, rfl⟩)
      · exact .quiet { Stays.refl id party with } .inl rfl
          (said_begin_of_other _ [] rfl fun about => here about.2)
    · exact .refl
  · exact .refl

theorem Effect.closeStream (stream : UInt32) :
    Effect id party (.closeStream stream) (party.closeStream stream) := by
  rw [Party.closeStream]
  split
  · rename_i held
    have forgotten : (party.session.table.erase stream).find? stream = none := by
      rw [Table.find?_erase, if_pos rfl]
    have missing (unknown : party.session.table.find? id = none) :
        (party.session.table.erase stream).find? id = none := by
      rw [Table.find?_erase, unknown, ite_self]
    have told (tell : (party.session.table.closeStream stream).1 = true) :
        party.session.table.find? stream ≠ none := by
      intro unknown
      rw [Table.closeStream, unknown] at tell
      cases tell
    obtain ⟨tell, table_eq⟩ : ∃ tell, party.session.table.closeStream stream =
        (tell, party.session.table.erase stream) := ⟨_, rfl⟩
    rw [table_eq] at told ⊢
    cases tell with
    | false =>
        refine .quiet { Stays.refl id party with missing } .inl rfl ?_
        exact congrArg (said id) ((pending_begin _ []).trans (List.append_nil _))
    | true =>
        by_cases here : stream = id
        · subst here
          exact .closing { Stays.refl stream party with missing } held (told rfl) rfl forgotten rfl
            (said_begin_of_about _ [] rfl ⟨by simp, rfl⟩)
        · exact .quiet { Stays.refl id party with missing } .inl rfl
            (said_begin_of_other _ [] rfl fun about => here about.2)
  · exact .refl

theorem Effect.close (code : CloseCode) (reason : String) :
    Effect id party action (party.close code reason) := by
  rw [Party.close]
  split
  · exact .refl
  · refine .quiet { Stays.refl id party with missing := ?_, queued := ?_ } .inl rfl
      (said_begin_of_other _ [.unlink] rfl fun about => about.1 rfl)
    · exact fun unknown => (Table.find?_markClosed _ _ _ _).trans unknown
    · exact fun waits => (Table.markClosed_queue _ _ _) ▸ waits

theorem Effect.accept : Effect id party action party.accept := by
  rw [Party.accept, Session.accept]
  rcases party.session.table.accept_cases with
    ⟨stream, queue, waiting, accepted⟩ | ⟨result, none, no_id⟩
  · rw [accepted]
    refine .quiet { Stays.refl id party with queued := ?_ } ?_ rfl rfl
    · intro waits
      rw [waiting]
      exact List.mem_cons_of_mem _ waits
    · intro got
      rcases List.mem_append.mp got with before | new
      · exact .inl before
      · rw [waiting, List.mem_singleton.mp new]
        exact .inr List.mem_cons_self
  · rw [none]
    rcases result with _ | _ | stream
    · exact .quiet { Stays.refl id party with } .inl rfl rfl
    · exact .quiet { Stays.refl id party with } .inl rfl rfl
    · exact absurd rfl (no_id stream)

theorem Effect.read (stream : UInt32) (count : Nat) :
    Effect id party action (party.read stream count) := by
  refine .quiet { Stays.refl id party with missing := ?_, queued := ?_ } .inl rfl rfl
  · exact fun unknown => @Table.find?_after_unknown _ _ (.read stream count) unknown nofun
  · exact fun waits => (Table.read_queue _ _ _) ▸ waits

theorem Effect.setLimit (stream : UInt32) (limit : Option Nat) :
    Effect id party action { party with session := party.session.setLimit stream limit } := by
  refine .quiet { Stays.refl id party with missing := ?_, queued := ?_ } .inl rfl rfl
  · exact fun unknown => Table.find?_modify_unknown unknown stream _
  · exact fun waits => (Table.modify_queue _ _ _) ▸ waits

/-- A thread goes on, and the frame which it was about to write does not wait any more. -/
theorem pending_removed {thread : Nat} {frame : Frame} {rest later : List Task}
    (found : party.threads[thread]? = some (.send frame :: rest))
    (same : later.filterMap Task.frame? = rest.filterMap Task.frame?) :
    ∃ front back, party.pending = front ++ frame :: back ∧
      { party with threads := party.threads.set thread later }.pending = front ++ back := by
  obtain ⟨front, back, before, after⟩ := pending_set found
  refine ⟨front, rest.filterMap Task.frame? ++ back, ?_, ?_⟩
  · rw [before, List.append_assoc]
    rfl
  · rw [after, same, List.append_assoc]

section Threads

variable {thread : Nat} {frame : Frame} {rest later : List Task}

theorem said_removed_of_about (found : party.threads[thread]? = some (.send frame :: rest))
    (same : later.filterMap Task.frame? = rest.filterMap Task.frame?)
    (about : frame.kind ≠ .close ∧ frame.id = id) :
    (said id party.pending).Perm
      (frame :: said id { party with threads := party.threads.set thread later }.pending) := by
  obtain ⟨front, back, before, after⟩ := pending_removed found same
  rw [before, after, ← List.singleton_append, said_append, said_append, said_append,
    said_of_about about]
  exact List.perm_middle

theorem said_removed_of_other (found : party.threads[thread]? = some (.send frame :: rest))
    (same : later.filterMap Task.frame? = rest.filterMap Task.frame?)
    (other : ¬(frame.kind ≠ .close ∧ frame.id = id)) :
    said id { party with threads := party.threads.set thread later }.pending =
      said id party.pending := by
  obtain ⟨front, back, before, after⟩ := pending_removed found same
  rw [before, after, ← List.singleton_append, said_append, said_append, said_append,
    said_of_other other, List.nil_append]

theorem Effect.send (found : party.threads[thread]? = some (.send frame :: rest)) :
    Effect id party action (party.perform thread (.send frame) rest) := by
  obtain ⟨link, mask, same⟩ := party.session.transmit_eq frame.layout
  rw [perform]
  split
  · rename_i after written
    rw [written] at same
    obtain rfl : after = { party.session with link, mask } := same
    by_cases about : frame.kind ≠ .close ∧ frame.id = id
    · refine .sending { Stays.refl id party with } frame ?_ (said_removed_of_about found rfl about) ?_
      · intro got
        dsimp only at got
        split at got
        · exact .inr ‹_›
        · exact .inl got
      · exact (said_append _ _).trans (congrArg _ (said_of_about about))
    · refine .quiet { Stays.refl id party with } ?_ ?_ (said_removed_of_other found rfl about)
      · intro got
        dsimp only at got
        split at got
        · rename_i opening
          refine .inl ((List.mem_append.mp got).resolve_right fun new => about ⟨?_, ?_⟩)
          · rw [opening]
            decide
          · exact (List.mem_singleton.mp new).symm
        · exact .inl got
      · refine (said_append _ _).trans ?_
        rw [said_of_other about, List.append_nil]
  · rename_i cause after broken
    rw [broken] at same
    obtain rfl : after = { party.session with link, mask } := same
    by_cases about : frame.kind ≠ .close ∧ frame.id = id
    · exact .dropping { Stays.refl id party with } frame (fun got => got)
        (said_removed_of_about found rfl about) rfl
    · exact .quiet { Stays.refl id party with } .inl rfl (said_removed_of_other found rfl about)

theorem Effect.proceed (thread : Nat) : Effect id party action (party.proceed thread) := by
  rw [Party.proceed]
  split
  · rename_i task rest found
    cases task with
    | send frame => exact .send found
    | mark code reason =>
        obtain ⟨front, back, before, after⟩ := pending_set found
        refine .quiet { Stays.refl id party with missing := ?_, queued := ?_ } .inl rfl
          (congrArg (said id) ((after rest).trans before.symm))
        · exact fun unknown => (Table.find?_markClosed _ _ _ _).trans unknown
        · exact fun waits => (Table.markClosed_queue _ _ _) ▸ waits
    | unlink =>
        obtain ⟨front, back, before, after⟩ := pending_set found
        exact .quiet { Stays.refl id party with } .inl rfl
          (congrArg (said id) ((after rest).trans before.symm))
  · exact .refl

end Threads

/-- A reader which stops writes nothing. -/
theorem settle_eq (party : Party) (after : Session) :
    ∃ threads, party.settle after =
        { party with session := { after with link := party.session.link }, threads } ∧
      (party.settle after).pending = party.pending := by
  rw [settle]
  by_cases reading : after.reading = true
  · rw [if_pos reading]
    exact ⟨party.threads, rfl, rfl⟩
  · rw [if_neg reading]
    exact ⟨_, rfl, (pending_begin _ _).trans (List.append_nil _)⟩

theorem Effect.lose (cause : IoError) : Effect id party action (party.lose cause) := by
  rw [Party.lose]
  split
  · rename_i reading
    have same := party.session.after_sameStreams (.lose cause)
    obtain ⟨threads, settled, pending⟩ := party.settle_eq (party.session.lose cause)
    have said_pending := congrArg (said id) pending
    rw [settled] at said_pending ⊢
    refine .quiet { Stays.refl id party with missing := ?_, queued := ?_ } .inl rfl said_pending
    · exact fun unknown => (same.find?_eq id).trans unknown
    · exact fun waits => same.queue ▸ waits
  · exact .refl

theorem Effect.arrive (incoming : Bytes) (count : Nat)
    (once : ((party.arrive incoming count).opened ++
      opens (party.arrive incoming count).processed).count id ≤ 1) :
    Effect id party action (party.arrive incoming count) := by
  rw [Party.arrive] at once ⊢
  split
  · rename_i reading
    rw [if_pos reading] at once
    dsimp only at once ⊢
    generalize (incoming.drop party.taken).take count = chunk at once ⊢
    have same := party.session.arrive_sameStreams reading chunk
    generalize applied (party.session.unread ++ party.session.clear chunk) = frames at once same ⊢
    obtain ⟨threads, settled, pending⟩ := settle_eq
      { party with
        taken := party.taken + chunk.length
        processed := party.processed ++ frames } (party.session.arrive chunk)
    have said_pending := congrArg (said id) pending
    rw [settled] at said_pending once ⊢
    dsimp only at once
    rw [opens_append, ← List.append_assoc, List.count_append, List.count_append] at once
    by_cases here : id ∈ opens frames
    · have announced := List.count_pos_iff.mpr here
      have unopened : id ∉ party.opened := List.count_eq_zero.mp (by omega)
      have unannounced : id ∉ opens party.processed := List.count_eq_zero.mp (by omega)
      refine .arriving unopened unannounced unopened ?_ rfl said_pending
      rw [opens_append]
      exact List.mem_append_right _ here
    · refine .quiet { Stays.refl id party with announced := ?_, missing := ?_, queued := ?_ } .inl rfl
        said_pending
      · rw [opens_append, List.mem_append, or_iff_left here]
      · exact fun unknown => (same.find?_eq id).trans (Table.find?_receiveFrames unknown here)
      · intro waits
        have waiting : id ∈ party.session.table.queue ++ opens frames :=
          Table.receiveFrames_queue _ _ ▸ same.queue ▸ waits
        exact (List.mem_append.mp waiting).resolve_right here
  · exact .refl

/-- What happens at one side does one of these things to a stream. -/
theorem Effect.act (incoming : Bytes) (action : Action)
    (once : ((party.act incoming action).opened ++
      opens (party.act incoming action).processed).count id ≤ 1) :
    Effect id party action (party.act incoming action) := by
  cases action with
  | openStream => exact .openStream once
  | write stream bytes => exact .write stream bytes
  | closeStream stream => exact .closeStream stream
  | close code reason => exact .close code reason
  | proceed thread => exact .proceed thread
  | accept => exact .accept
  | read stream count => exact .read stream count
  | setLimit stream limit => exact .setLimit stream limit
  | arrive count => exact .arrive incoming count once
  | lose cause => exact .lose cause
  | sever count kind => exact .quiet { Stays.refl id party with } .inl rfl rfl

end Effects

/-! ## The life of a stream -/

/-- Things happen at one side one after another, each after the other side has written some bytes. -/
def run (party : Party) (events : List (Bytes × Action)) : Party :=
  events.foldl (fun party event => party.act event.1 event.2) party

theorem run_concat (party : Party) (events : List (Bytes × Action)) (event : Bytes × Action) :
    party.run (events ++ [event]) = (party.run events).act event.1 event.2 :=
  List.foldl_concat ..

/-- The frame which announces a stream to the other side, if it was opened here. -/
def announcement (party : Party) (id : UInt32) : List Frame :=
  if id ∈ party.opened then [{ kind := .opening, id }] else []

/-- One of the sides has announced a stream. -/
def Known (party : Party) (id : UInt32) : Prop := id ∈ party.opened ∨ id ∈ opens party.processed

/-- A stream is closed after some of the events, while only bytes of it wait to be written. -/
structure ClosedAfter (first : Party) (events : List (Bytes × Action)) (id : UInt32)
    (past : List (Bytes × Action)) : Prop where
  /-- Closing the stream is one of the events. -/
  closes : ∃ incoming rest, events = past ++ (incoming, .closeStream id) :: rest
  /-- Only bytes wait. -/
  waiting : ∀ frame ∈ said id (first.run past).pending, frame.kind = .data

/-- How far a stream the number of which is announced only once has come. -/
inductive Phase (first : Party) (events : List (Bytes × Action)) (id : UInt32) (party : Party) : Prop
  /-- Nobody has announced the stream. -/
  | unknown (unknown : ¬party.Known id) (unheld : id ∉ party.held)
      (sent : said id party.sent = []) (pending : said id party.pending = [])
  /-- The stream was opened here.  Its announcement waits, or was given up. -/
  | opened (opened : id ∈ party.opened) (unannounced : id ∉ opens party.processed)
      (unheld : id ∉ party.held) (sent : said id party.sent = [])
      (pending : said id party.pending = [{ kind := .opening, id }] ∨ said id party.pending = [])
  /-- Bytes may be written to the stream. -/
  | going (known : party.Known id) (front : List Frame) (data : ∀ frame ∈ front, frame.kind = .data)
      (sent : said id party.sent = party.announcement id ++ front)
      (pending : ∀ frame ∈ said id party.pending, frame.kind = .data)
  /-- The stream was closed, and the other side was not told yet. -/
  | closed (known : party.Known id) (front : List Frame) (data : ∀ frame ∈ front, frame.kind = .data)
      (sent : said id party.sent = party.announcement id ++ front)
      (past : List (Bytes × Action)) (closed : ClosedAfter first events id past)
      (pending : (said id party.pending).Subperm
        ({ kind := .fin, id } :: said id (first.run past).pending))
      (forgotten : party.session.table.find? id = none)
  /-- The other side was told that the stream is finished. -/
  | finished (known : party.Known id) (front late : List Frame)
      (data : ∀ frame ∈ front ++ late, frame.kind = .data)
      (sent : said id party.sent = party.announcement id ++ front ++ { kind := .fin, id } :: late)
      (past : List (Bytes × Action)) (closed : ClosedAfter first events id past)
      (pending : (late ++ said id party.pending).Subperm (said id (first.run past).pending))
      (forgotten : party.session.table.find? id = none)

section Life

variable {id : UInt32} {first before after : Party} {events : List (Bytes × Action)}
  {past : List (Bytes × Action)} {event : Bytes × Action} {frame : Frame}

theorem Stays.known (stays : before.Stays id after) : after.Known id ↔ before.Known id :=
  or_congr stays.opened stays.announced

theorem Stays.announcement (stays : before.Stays id after) :
    after.announcement id = before.announcement id := by
  simp only [Party.announcement, stays.opened]

theorem ClosedAfter.concat (closed : ClosedAfter first events id past) (event : Bytes × Action) :
    ClosedAfter first (events ++ [event]) id past := by
  obtain ⟨incoming, rest, rfl⟩ := closed.closes
  exact ⟨⟨incoming, rest ++ [event], by simp⟩, closed.waiting⟩

theorem Phase.quiet (phase : Phase first events id before)
    (queued : id ∈ before.session.table.queue → id ∈ opens before.processed)
    (stays : before.Stays id after)
    (held : id ∈ after.held → id ∈ before.held ∨ id ∈ before.session.table.queue)
    (sent : said id after.sent = said id before.sent)
    (pending : said id after.pending = said id before.pending) :
    Phase first (events ++ [event]) id after := by
  have unheld (unannounced : id ∉ opens before.processed) (before_unheld : id ∉ before.held) :
      id ∉ after.held :=
    fun got => (held got).elim before_unheld fun waits => unannounced (queued waits)
  cases phase with
  | unknown unknown before_unheld nothing idle =>
      exact .unknown (mt stays.known.mp unknown)
        (unheld (fun announced => unknown (.inr announced)) before_unheld) (sent.trans nothing)
        (pending.trans idle)
  | opened opened unannounced before_unheld nothing waits =>
      exact .opened (stays.opened.mpr opened) (mt stays.announced.mp unannounced)
        (unheld unannounced before_unheld) (sent.trans nothing) (pending ▸ waits)
  | going known front data written waits =>
      refine .going (stays.known.mpr known) front data ?_ (pending ▸ waits)
      rw [sent, written, stays.announcement]
  | closed known front data written past closed waits forgotten =>
      refine .closed (stays.known.mpr known) front data ?_ past (closed.concat event)
        (pending ▸ waits) (stays.missing forgotten)
      rw [sent, written, stays.announcement]
  | finished known front late data written past closed waits forgotten =>
      refine .finished (stays.known.mpr known) front late data ?_ past (closed.concat event)
        (pending ▸ waits) (stays.missing forgotten)
      rw [sent, written, stays.announcement]

/-- Nothing has been done with a stream which nobody has announced. -/
theorem Phase.untouched (phase : Phase first events id before) (unknown : ¬before.Known id) :
    id ∉ before.held ∧ said id before.sent = [] ∧ said id before.pending = [] := by
  cases phase with
  | unknown _ unheld nothing idle => exact ⟨unheld, nothing, idle⟩
  | opened opened => exact absurd (.inl opened) unknown
  | going known => exact absurd known unknown
  | closed known => exact absurd known unknown
  | finished known => exact absurd known unknown

/-- Nothing begins on a stream which is not in the table. -/
theorem Phase.of_present (phase : Phase first events id before) (held : id ∈ before.held)
    (present : before.session.table.find? id ≠ none) :
    before.Known id ∧ (∀ frame ∈ said id before.pending, frame.kind = .data) ∧
      ∃ front, (∀ frame ∈ front, frame.kind = .data) ∧
        said id before.sent = before.announcement id ++ front := by
  cases phase with
  | unknown _ unheld => exact absurd held unheld
  | opened _ _ unheld => exact absurd held unheld
  | going known front data written waits => exact ⟨known, waits, front, data, written⟩
  | closed _ _ _ _ _ _ _ forgotten => exact absurd forgotten present
  | finished _ _ _ _ _ _ _ _ forgotten => exact absurd forgotten present

theorem Phase.writing (phase : Phase first events id before) (stays : before.Stays id after)
    (held : id ∈ before.held) (present : before.session.table.find? id ≠ none)
    (data : frame.kind = .data) (sent : said id after.sent = said id before.sent)
    (pending : said id after.pending = said id before.pending ++ [frame]) :
    Phase first (events ++ [event]) id after := by
  obtain ⟨known, waits, front, front_data, written⟩ := phase.of_present held present
  refine .going (stays.known.mpr known) front front_data ?_ ?_
  · rw [sent, written, stays.announcement]
  · rw [pending]
    intro waiting among
    rcases List.mem_append.mp among with before | new
    · exact waits waiting before
    · rw [List.mem_singleton.mp new]
      exact data

theorem Phase.closing (phase : Phase first events id before) (reached : first.run events = before)
    (stays : before.Stays id after) (held : id ∈ before.held)
    (present : before.session.table.find? id ≠ none) (closes : event.2 = .closeStream id)
    (forgotten : after.session.table.find? id = none)
    (sent : said id after.sent = said id before.sent)
    (pending : said id after.pending = said id before.pending ++ [{ kind := .fin, id }]) :
    Phase first (events ++ [event]) id after := by
  obtain ⟨known, waits, front, front_data, written⟩ := phase.of_present held present
  obtain ⟨incoming, action⟩ := event
  obtain rfl : action = .closeStream id := closes
  subst reached
  refine .closed (stays.known.mpr known) front front_data ?_ events ⟨⟨incoming, [], rfl⟩, waits⟩ ?_
    forgotten
  · rw [sent, written, stays.announcement]
  · rw [pending]
    exact (List.perm_append_singleton _ _).subperm

theorem Phase.sending (phase : Phase first events id before) (stays : before.Stays id after)
    (held : id ∈ after.held → id ∈ before.held ∨ frame.kind = .opening)
    (moved : (said id before.pending).Perm (frame :: said id after.pending))
    (sent : said id after.sent = said id before.sent ++ [frame]) :
    Phase first (events ++ [event]) id after := by
  have among : frame ∈ said id before.pending := moved.mem_iff.mpr List.mem_cons_self
  have fewer {waiting : Frame} (later : waiting ∈ said id after.pending) :
      waiting ∈ said id before.pending := moved.mem_iff.mpr (List.mem_cons_of_mem _ later)
  cases phase with
  | unknown _ _ _ idle =>
      rw [idle] at among
      exact absurd among List.not_mem_nil
  | opened opened unannounced unheld nothing waits =>
      rcases waits with waits | idle
      · rw [waits] at moved among
        obtain rfl := List.mem_singleton.mp among
        have nothing_left : said id after.pending = [] :=
          ((List.perm_cons _).mp moved).nil_eq.symm
        refine .going (stays.known.mpr (.inl opened)) [] nofun ?_ (nothing_left ▸ nofun)
        rw [sent, nothing, stays.announcement, Party.announcement, if_pos opened]
        rfl
      · rw [idle] at among
        exact absurd among List.not_mem_nil
  | going known front data written waits =>
      refine .going (stays.known.mpr known) (front ++ [frame]) ?_ ?_
        fun _ later => waits _ (fewer later)
      · simpa [or_imp, forall_and, waits frame among] using data
      · rw [sent, written, stays.announcement, List.append_assoc]
  | closed known front data written past closed waits forgotten =>
      have left := moved.symm.subperm.trans waits
      rcases List.mem_cons.mp (left.subset List.mem_cons_self) with rfl | let_through
      · refine .finished (stays.known.mpr known) front [] ?_ ?_ past (closed.concat event)
          ((List.subperm_cons _).mp left) (stays.missing forgotten)
        · rwa [List.append_nil]
        · rw [sent, written, stays.announcement]
      · refine .closed (stays.known.mpr known) (front ++ [frame]) ?_ ?_ past (closed.concat event)
          ((List.sublist_cons_self _ _).subperm.trans left) (stays.missing forgotten)
        · simpa [or_imp, forall_and, closed.waiting frame let_through] using data
        · rw [sent, written, stays.announcement, List.append_assoc]
  | finished known front late data written past closed waits forgotten =>
      have left : ((late ++ [frame]) ++ said id after.pending).Subperm
          (said id (first.run past).pending) := by
        rw [List.append_assoc]
        exact (moved.symm.append_left late).subperm.trans waits
      have let_through := left.subset (List.mem_append_left _ (List.mem_append_right _
        (List.mem_singleton_self frame)))
      refine .finished (stays.known.mpr known) front (late ++ [frame]) ?_ ?_ past
        (closed.concat event) left (stays.missing forgotten)
      · rw [← List.append_assoc]
        simpa [or_imp, forall_and, closed.waiting frame let_through] using data
      · rw [sent, written, stays.announcement, List.append_assoc, List.cons_append]

theorem Phase.dropping (phase : Phase first events id before) (stays : before.Stays id after)
    (held : id ∈ after.held → id ∈ before.held)
    (moved : (said id before.pending).Perm (frame :: said id after.pending))
    (sent : said id after.sent = said id before.sent) :
    Phase first (events ++ [event]) id after := by
  have fewer : (said id after.pending).Subperm (said id before.pending) :=
    (List.sublist_cons_self _ _).subperm.trans moved.symm.subperm
  cases phase with
  | unknown _ _ _ idle =>
      rw [idle] at moved
      exact absurd moved.symm List.not_perm_cons_nil
  | opened opened unannounced unheld nothing waits =>
      refine .opened (stays.opened.mpr opened) (mt stays.announced.mp unannounced) (mt held unheld)
        (sent.trans nothing) (.inr ?_)
      have size := moved.length_eq
      rcases waits with waits | idle
      · rw [waits] at size
        exact List.length_eq_zero_iff.mp (by simpa using size.symm)
      · rw [idle] at size
        cases size
  | going known front data written waits =>
      refine .going (stays.known.mpr known) front data ?_ fun _ later => waits _ (fewer.subset later)
      rw [sent, written, stays.announcement]
  | closed known front data written past closed waits forgotten =>
      refine .closed (stays.known.mpr known) front data ?_ past (closed.concat event)
        (fewer.trans waits) (stays.missing forgotten)
      rw [sent, written, stays.announcement]
  | finished known front late data written past closed waits forgotten =>
      refine .finished (stays.known.mpr known) front late data ?_ past (closed.concat event) ?_
        (stays.missing forgotten)
      · rw [sent, written, stays.announcement]
      · exact ((List.subperm_append_left late).mpr fewer).trans waits

/-- A step of the life of a stream. -/
theorem Phase.step (phase : Phase first events id before) (reached : first.run events = before)
    (queued : id ∈ before.session.table.queue → id ∈ opens before.processed)
    (effect : Effect id before event.2 after) : Phase first (events ++ [event]) id after := by
  cases effect with
  | quiet stays held sent pending => exact phase.quiet queued stays held sent pending
  | opening unopened unannounced opened still_unannounced _ held sent pending =>
      obtain ⟨unheld, nothing, idle⟩ := phase.untouched (not_or.mpr ⟨unopened, unannounced⟩)
      refine .opened opened still_unannounced (mt held unheld) (sent.trans nothing) (.inl ?_)
      rw [pending, idle, List.nil_append]
  | arriving unopened unannounced still_unopened announced sent pending =>
      obtain ⟨-, nothing, idle⟩ := phase.untouched (not_or.mpr ⟨unopened, unannounced⟩)
      refine .going (.inr announced) [] nofun ?_ (by rw [pending, idle]; nofun)
      rw [sent, nothing, announcement, if_neg still_unopened, List.append_nil]
  | writing stays held present frame data sent pending =>
      exact phase.writing stays held present data sent pending
  | closing stays held present closes forgotten sent pending =>
      exact phase.closing reached stays held present closes forgotten sent pending
  | sending stays frame held moved sent => exact phase.sending stays held moved sent
  | dropping stays frame held moved sent => exact phase.dropping stays held moved sent

/-- Only streams which the other side has announced wait to be accepted. -/
theorem Effect.queued {action : Action} (effect : Effect id before action after)
    (queued : id ∈ before.session.table.queue → id ∈ opens before.processed) :
    id ∈ after.session.table.queue → id ∈ opens after.processed := by
  intro waits
  cases effect with
  | opening _ unannounced _ _ still_waits => exact absurd (queued (still_waits waits)) unannounced
  | arriving _ _ _ announced => exact announced
  | quiet stays | writing stays | closing stays | sending stays | dropping stays =>
      exact stays.announced.mpr (queued (stays.queued waits))

/-- What was applied stays applied. -/
theorem act_processed (party : Party) (incoming : Bytes) (action : Action) :
    party.processed <+: (party.act incoming action).processed := by
  obtain ⟨bytes, same⟩ := party.act_processed_eq incoming action
  rw [same]
  exact List.prefix_append _ _

/-- A number which is announced only once was announced no more often before. -/
theorem once_of_act {party : Party} {incoming : Bytes} {action : Action}
    (once : ((party.act incoming action).opened ++
      opens (party.act incoming action).processed).count id ≤ 1) :
    (party.opened ++ opens party.processed).count id ≤ 1 := by
  have opened := (party.act_opened incoming action).sublist.count_le id
  have announced : (opens party.processed).count id ≤
      (opens (party.act incoming action).processed).count id :=
    (((party.act_processed incoming action).sublist.filter _).map _).count_le id
  rw [List.count_append] at once ⊢
  omega

theorem phase_of_run (remote : Net.SocketAddress) (dialed : Bool) (keystream : Option Keystream)
    (link : Endpoint) (events : List (Bytes × Action)) {party : Party}
    (run : (start remote dialed keystream link).run events = party)
    (once : (party.opened ++ opens party.processed).count id ≤ 1) :
    (id ∈ party.session.table.queue → id ∈ opens party.processed) ∧
      Phase (start remote dialed keystream link) events id party := by
  induction events using List.reverseRecOn generalizing party with
  | nil =>
      subst run
      exact ⟨nofun, .unknown (not_or.mpr ⟨nofun, nofun⟩) nofun rfl rfl⟩
  | append_singleton events event ih =>
      rw [run_concat] at run
      subst run
      obtain ⟨queued, phase⟩ := ih rfl (once_of_act once)
      have effect := Effect.act event.1 event.2 once
      exact ⟨effect.queued queued, phase.step rfl queued effect⟩

end Life
end Party

/-! ## What is written of a stream -/

/-- What one side has written of a stream the number of which is announced only once. -/
inductive Emits (first : Party) (events : List (Bytes × Action)) (id : UInt32) (party : Party) : Prop
  /-- Nothing, because nobody has announced the stream, or its announcement waits or has failed. -/
  | nothing (sent : said id party.sent = [])
  /-- The announcement of a stream which was opened here, and bytes. -/
  | unfinished (front : List Frame) (data : ∀ frame ∈ front, frame.kind = .data)
      (sent : said id party.sent = party.announcement id ++ front)
  /-- The announcement of a stream which was opened here, bytes, one frame which says that no more
  follow, and then only bytes which waited to be written when the stream was closed. -/
  | finished (front late : List Frame) (data : ∀ frame ∈ front ++ late, frame.kind = .data)
      (sent : said id party.sent = party.announcement id ++ front ++ { kind := .fin, id } :: late)
      (past : List (Bytes × Action)) (incoming : Bytes) (rest : List (Bytes × Action))
      (closes : events = past ++ (incoming, .closeStream id) :: rest)
      (overtaken : late.Subperm (said id (first.run past).pending))

/-- **Finishing.**  However the users and the reader of a session take turns, bytes of a stream follow
its end only if their write was let through before the stream was closed. -/
theorem emits_of_run (remote : Net.SocketAddress) (dialed : Bool) (keystream : Option Keystream)
    (link : Endpoint) (events : List (Bytes × Action)) {party : Party}
    (run : (Party.start remote dialed keystream link).run events = party) {id : UInt32}
    (once : (party.opened ++ opens party.processed).count id ≤ 1) :
    Emits (Party.start remote dialed keystream link) events id party := by
  obtain ⟨-, phase⟩ := Party.phase_of_run remote dialed keystream link events run once
  cases phase with
  | unknown _ _ sent _ => exact .nothing sent
  | opened _ _ _ sent _ => exact .nothing sent
  | going _ front data sent _ => exact .unfinished front data sent
  | closed _ front data sent _ _ _ _ => exact .unfinished front data sent
  | finished _ front late data sent past closed pending _ =>
      obtain ⟨incoming, rest, closes⟩ := closed.closes
      exact .finished front late data sent past incoming rest closes
        ((List.sublist_append_left _ _).subperm.trans pending)

/-- A byte is let through, but before it is written the stream is closed and the other side is told. -/
theorem emits_of_overtaken_write :
    ∃ party : Party,
      (Party.start default true none {}).run
        [([], .openStream), ([], .proceed 0), ([], .write 1 [120]), ([], .closeStream 1),
          ([], .proceed 2), ([], .proceed 1)] = party ∧
      (party.opened ++ opens party.processed).count 1 ≤ 1 ∧
      said 1 party.sent = [⟨.opening, 1, []⟩, ⟨.fin, 1, []⟩, ⟨.data, 1, [120]⟩] ∧
      Emits (Party.start default true none {})
        [([], .openStream), ([], .proceed 0), ([], .write 1 [120]), ([], .closeStream 1),
          ([], .proceed 2), ([], .proceed 1)] 1 party := by
  refine ⟨_, rfl, ?once, ?sent, emits_of_run default true none {} _ rfl ?once⟩
  all_goals decide +kernel

end Mux
end TunnelProxy
