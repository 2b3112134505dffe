import TunnelProxy.Proofs.Mux.Closing
import TunnelProxy.Proofs.Mux.Connection
import TunnelProxy.Proofs.Stream.Message
import TunnelProxy.Proofs.Text.Cut

/-!
# Why a session was closed

Whoever closes a session tells the other side why.  The frame has no room for a long reason, so its
bytes are cut off, and what the other side reads of them is the reason up to the cut, with a replacement
character behind it where the cut falls inside a character.  Whatever else happens at the two sides, a
side which is open when the whole frame has arrived records this and keeps it.
-/

namespace TunnelProxy
namespace Mux

open Text.Utf8 (Splits replacement)

/-! ## The frame which ends a session -/

/-- The most bytes of a reason for which there is room. -/
def reasonRoom : Nat := maximumPayload - 2

/-- What the other side reads of a reason. -/
def conveyed (reason : String) : String :=
  Text.Utf8.decode ((Text.Utf8.encode reason).take reasonRoom)

theorem RawFrame.ending?_closing (code : CloseCode) (reason : String) :
    (Frame.closing code reason).raw.ending? =
      some (.ofCode code.code, conveyed reason) := by
  have number (high low : UInt8) (spelled : Wire.word16 code.code = [high, low]) :
      UInt16.ofNat (Wire.ofBigEndian [high, low]) = code.code := by
    rw [← spelled, Wire.ofBigEndian_word16, UInt16.ofNat_toNat]
  obtain ⟨high, low, spelled⟩ : ∃ high low, Wire.word16 code.code = [high, low] :=
    ⟨_, _, rfl⟩
  simp only [ending?, Frame.raw, Frame.closing, FrameKind.ofByte?_byte, spelled, List.cons_append,
    List.nil_append, number high low spelled]
  rfl

/-- Frames end a session for the reason of the first one which closes it. -/
theorem Table.receiveAll_closing {code : CloseCode} {reason : String} {frames : List Frame}
    (fits : ∀ frame ∈ frames, frame.Fits)
    (only : ∀ frame ∈ frames, frame.kind = .close → frame = .closing code reason)
    (among : .closing code reason ∈ frames) (rest : Bytes) {table : Table}
    (opened : table.closed = none) :
    (table.receiveAll (layouts frames ++ rest)).1.closed =
      some (.ofCode code.code, conveyed reason) := by
  induction frames generalizing table with
  | nil => cases among
  | cons frame frames ih =>
      have frame_fits := fits frame List.mem_cons_self
      rw [layouts_cons, List.append_assoc]
      by_cases ends : frame.kind = .close
      · obtain rfl := only frame List.mem_cons_self ends
        rw [table.receiveAll_of_split (RawFrame.split?_layout frame_fits _),
          RawFrame.ending?_closing]
        exact closed_markClosed opened _ _
      · have later : .closing code reason ∈ frames := by
          refine (List.mem_cons.mp among).resolve_left ?_
          rintro rfl
          exact ends rfl
        rw [receiveAll_layout table frame_fits _ ends]
        exact ih (fun frame among => fits frame (List.mem_cons_of_mem _ among))
          (fun frame among => only frame (List.mem_cons_of_mem _ among)) later
          ((table.receive_closed _ _ _).trans opened)

theorem Table.markClosed_closed (table : Table) (code : CloseCode) (reason : String) :
    (table.markClosed code reason).closed = some (table.closed.getD (code, reason)) := by
  rw [markClosed]
  split <;> rename_i closed
  · rw [closed, Option.getD_some]
  · rw [closed, Option.getD_none]

/-- What arrives closes a session only if it ends it. -/
theorem Table.receiveAll_closed (table : Table) (bytes : Bytes) :
    (table.receiveAll bytes).1.closed = table.closed ∧ (table.receiveAll bytes).2.2 = false ∨
      (table.receiveAll bytes).2.2 = true ∧
        ∃ cause, (table.receiveAll bytes).1.closed = some (table.closed.getD cause) := by
  induction bytes using RawFrame.cut_induction generalizing table with
  | incomplete bytes split =>
      rw [table.receiveAll_of_incomplete split]
      exact .inl ⟨rfl, rfl⟩
  | frame bytes frame rest split ih =>
      rw [table.receiveAll_of_split split]
      cases ending : frame.ending? with
      | some cause => exact .inr ⟨rfl, cause, table.markClosed_closed cause.1 cause.2⟩
      | none =>
          cases known : FrameKind.ofByte? frame.kind with
          | none => exact ih table
          | some kind =>
              rw [← table.receive_closed frame.id kind frame.payload]
              exact ih (table.receive kind frame.id frame.payload)

theorem Session.arrive_closed {session : Session} (reading : session.reading = true)
    (bytes : Bytes) :
    (session.arrive bytes).table.closed = session.table.closed ∧
        (session.arrive bytes).reading = true ∨
      (session.arrive bytes).reading = false ∧ ∃ cause,
        (session.arrive bytes).table.closed = some (session.table.closed.getD cause) := by
  rw [arrive_eq reading]
  dsimp only
  rcases session.table.receiveAll_closed (session.unread ++ session.clear bytes) with
    ⟨closed, goes_on⟩ | ⟨stops, cause, closed⟩
  · rw [goes_on]
    exact .inl ⟨closed, reading⟩
  · rw [stops]
    exact .inr ⟨rfl, cause, closed⟩

namespace Party

/-! ## What an action does to the end of a session -/

/-- The frames which were written or are still to be written. -/
def frames (party : Party) : List Frame := party.sent ++ party.pending

/-- An action begins with which a frame is to be written. -/
inductive Begins (party : Party) : Action → Frame → Prop
  /-- A stream is opened. -/
  | opening (id : UInt32) : Begins party .openStream { kind := .opening, id }
  /-- Bytes are written. -/
  | data (id : UInt32) (bytes : Bytes) :
      Begins party (.write id bytes) { kind := .data, id, payload := bytes.take maximumPayload }
  /-- A stream is closed. -/
  | fin (id : UInt32) : Begins party (.closeStream id) { kind := .fin, id }
  /-- The session is closed, and nothing has closed it before. -/
  | closing (code : CloseCode) (reason : String) (opened : party.session.table.closed = none) :
      Begins party (.close code reason) (.closing code reason)

/-- The connection is not closed before the session is marked. -/
def Heralded : List Task → Prop
  | [] | .mark _ _ :: _ => True
  | .send _ :: rest => Heralded rest
  | .unlink :: _ => False

/-- The reader of an open session reads, and nobody is about to stop it. -/
def Attentive (party : Party) : Prop :=
  party.session.table.closed = none →
    party.session.reading = true ∧ ∀ tasks ∈ party.threads, Heralded tasks

/-- What an action does to the end of a session. -/
structure Evolves (before : Party) (action : Action) (after : Party) : Prop where
  /-- A session stays closed, for the same reason. -/
  closed : ∀ cause, before.session.table.closed = some cause →
    after.session.table.closed = some cause
  /-- Frames are written only after something has begun. -/
  frames : ∀ frame ∈ after.frames, frame ∈ before.frames ∨ before.Begins action frame
  /-- An open session is read. -/
  attentive : before.Attentive → after.Attentive

namespace Evolves

variable {party middle after : Party} {action : Action}

theorem refl : Evolves party action party :=
  ⟨fun _ already => already, fun _ => .inl, id⟩

/-- What writes no frame and closes nothing does not touch the end of a session. -/
theorem still (closed : after.session.table.closed = party.session.table.closed)
    (reading : after.session.reading = party.session.reading)
    (threads : after.threads = party.threads) (sent : after.sent = party.sent) :
    Evolves party action after where
  closed cause already := closed.trans already
  frames frame among := by
    rw [Party.frames, pending, threads, sent] at among
    exact .inl among
  attentive before opened := by
    obtain ⟨reads, all⟩ := before (closed.symm.trans opened)
    exact ⟨reading.trans reads, threads.symm ▸ all⟩

/-- Something begins. -/
theorem begin (evolves : Evolves party action middle) {tasks : List Task}
    (heralded : middle.session.table.closed = none → Heralded tasks)
    (begins : ∀ frame ∈ tasks.filterMap Task.frame?, party.Begins action frame) :
    Evolves party action (middle.begin tasks) where
  closed := evolves.closed
  frames frame among := by
    rw [Party.frames, pending_begin, ← List.append_assoc, List.mem_append] at among
    exact among.elim (evolves.frames frame) fun new => .inr (begins frame new)
  attentive before opened := by
    obtain ⟨reads, all⟩ := evolves.attentive before opened
    refine ⟨reads, fun thread among => ?_⟩
    rcases List.mem_append.mp among with old | new
    · exact all thread old
    · rw [List.mem_singleton.mp new]
      exact heralded opened

/-- The session is marked as closed. -/
theorem mark (same : after.frames ⊆ party.frames) {cause : CloseCode × String}
    (marked : after.session.table.closed = some (party.session.table.closed.getD cause)) :
    Evolves party action after where
  closed first already := by rw [marked, already, Option.getD_some]
  frames frame among := .inl (same among)
  attentive _ opened := by
    rw [opened] at marked
    cases marked

theorem openStream (party : Party) : Evolves party .openStream party.openStream := by
  rw [Party.openStream]
  rcases party.session.table.reserve_cases with ⟨error, refused⟩ | reserved
  · rw [refused]
    exact refl
  · rw [reserved]
    refine begin ?_ ?_ fun frame new => ?_
    · exact still rfl rfl rfl rfl
    · exact fun _ => trivial
    · obtain rfl := List.mem_singleton.mp new
      exact .opening _

theorem write (party : Party) (id : UInt32) (bytes : Bytes) :
    Evolves party (.write id bytes) (party.write id bytes) := by
  rw [Party.write]
  split
  · split
    · refine begin ?_ ?_ fun frame new => ?_
      · exact still rfl rfl rfl rfl
      · exact fun _ => trivial
      · obtain rfl := List.mem_singleton.mp new
        exact .data id bytes
    · exact refl
  · exact refl

theorem closeStream (party : Party) (id : UInt32) :
    Evolves party (.closeStream id) (party.closeStream id) := by
  rw [Party.closeStream]
  split
  · obtain ⟨tell, table_eq⟩ : ∃ tell, party.session.table.closeStream id =
        (tell, party.session.table.erase id) := ⟨_, rfl⟩
    rw [table_eq]
    refine begin ?_ ?_ fun frame new => ?_
    · exact still rfl rfl rfl rfl
    · intro _
      cases tell <;> trivial
    · cases tell with
      | false => cases new
      | true =>
          obtain rfl := List.mem_singleton.mp new
          exact .fin id
  · exact refl

theorem close (party : Party) (code : CloseCode) (reason : String) :
    Evolves party (.close code reason) (party.close code reason) := by
  rw [Party.close]
  split
  · exact refl
  · rename_i opened
    refine begin ?_ ?_ fun frame new => ?_
    · exact mark (fun _ among => among) (Table.markClosed_closed _ _ _)
    · intro still_open
      rw [Table.markClosed_closed] at still_open
      cases still_open
    · obtain rfl := List.mem_singleton.mp new
      exact .closing code reason opened

theorem accept (party : Party) : Evolves party .accept party.accept := by
  have closed := party.session.table.accept_closed
  rw [Party.accept, Session.accept]
  rcases accepted : party.session.table.accept with ⟨result, table⟩
  rw [accepted] at closed
  rcases result with _ | _ | id <;> exact still closed rfl rfl rfl

section Threads

variable {thread : Nat} {task : Task} {rest later : List Task}

/-- A thread goes on, and no other frame is to be written. -/
theorem pending_set_subset (found : party.threads[thread]? = some (task :: rest))
    (same : later.filterMap Task.frame? = rest.filterMap Task.frame?) :
    { party with threads := party.threads.set thread later }.pending ⊆ party.pending := by
  obtain ⟨front, back, before, after⟩ := pending_set found
  rw [before, after, same]
  refine List.Sublist.subset (.append (.append (.refl _) ?_) (.refl _))
  exact (List.sublist_cons_self task rest).filterMap _

theorem heralded_set (all : ∀ tasks ∈ party.threads, Heralded tasks) (next : Heralded later) :
    ∀ tasks ∈ party.threads.set thread later, Heralded tasks := by
  intro tasks among
  rcases List.mem_or_eq_of_mem_set among with old | rfl
  · exact all tasks old
  · exact next

theorem send {frame : Frame} (found : party.threads[thread]? = some (.send frame :: rest)) :
    Evolves party action (party.perform thread (.send frame) rest) := by
  obtain ⟨link, mask, same⟩ := party.session.transmit_eq frame.layout
  rw [perform]
  split <;> rename_i after transmitted <;> rw [transmitted] at same <;>
    obtain rfl : after = { party.session with link, mask } := same
  · refine ⟨fun _ already => already, fun other among => .inl ?_, fun before opened => ?_⟩
    · rcases List.mem_append.mp among with sent | waits
      · rcases List.mem_append.mp sent with before | new
        · exact List.mem_append_left _ before
        · rw [List.mem_singleton.mp new]
          exact List.mem_append_right _ (pending_of_thread found)
      · exact List.mem_append_right _ (pending_set_subset found rfl waits)
    · obtain ⟨reads, all⟩ := before opened
      have next : Heralded (.send frame :: rest) := all _ (List.mem_of_getElem? found)
      exact ⟨reads, heralded_set all next⟩
  · refine ⟨fun _ already => already, fun other among => .inl ?_, fun before opened => ?_⟩
    · rcases List.mem_append.mp among with sent | waits
      · exact List.mem_append_left _ sent
      · exact List.mem_append_right _ (pending_set_subset found (by rfl) waits)
    · obtain ⟨reads, all⟩ := before opened
      exact ⟨reads, heralded_set all trivial⟩

theorem proceed (party : Party) (thread : Nat) :
    Evolves party action (party.proceed thread) := by
  rw [Party.proceed]
  split
  · rename_i task rest found
    have fewer : party.sent ++ Party.pending { party with threads := party.threads.set thread rest } ⊆
        party.frames := fun other among =>
      List.mem_append.mpr ((List.mem_append.mp among).imp_right (pending_set_subset found rfl ·))
    cases task with
    | send frame => exact send found
    | mark code reason => exact mark fewer (Table.markClosed_closed _ _ _)
    | unlink =>
        refine ⟨fun _ already => already, fun other among => .inl (fewer among), ?_⟩
        -- The session is marked before its connection is closed.
        intro before opened
        exact (((before opened).2 _ (List.mem_of_getElem? found)) : False).elim
  · exact refl

end Threads

/-- The reader goes on, or it stops because the session is closed. -/
theorem settle {session : Session} (taken : Nat) (processed : List Frame)
    (marked : session.reading = false → ∃ cause,
      session.table.closed = some (party.session.table.closed.getD cause))
    (goes_on : session.reading = true →
      session.table.closed = party.session.table.closed ∧ party.session.reading = true) :
    Evolves party action ({ party with taken, processed }.settle session) := by
  rw [Party.settle]
  split <;> rename_i reading
  · obtain ⟨closed, before⟩ := goes_on reading
    exact still closed (reading.trans before.symm) rfl rfl
  · obtain ⟨cause, closed⟩ := marked (Bool.eq_false_iff.mpr reading)
    refine begin ?_ ?_ (List.forall_mem_nil _)
    · exact mark (fun _ among => among) closed
    · intro opened
      rw [closed] at opened
      cases opened

theorem arrive (party : Party) (incoming : Bytes) (count : Nat) :
    Evolves party action (party.arrive incoming count) := by
  rw [Party.arrive]
  split
  · rename_i reading
    rcases Session.arrive_closed reading ((incoming.drop party.taken).take count) with
      ⟨closed, goes_on⟩ | ⟨stops, cause, closed⟩
    · exact settle _ _ (fun stops => by cases goes_on.symm.trans stops) fun _ => ⟨closed, reading⟩
    · exact settle _ _ (fun _ => ⟨cause, closed⟩) fun goes_on => by cases goes_on.symm.trans stops
  · exact refl

theorem lose (party : Party) (cause : IoError) : Evolves party action (party.lose cause) := by
  rw [Party.lose]
  split
  · rename_i reading
    refine settle party.taken party.processed ?_ ?_ <;> rw [Session.lose, if_pos reading] <;> split
    · exact fun stopped => by cases reading.symm.trans stopped
    · exact fun _ => ⟨_, Table.markClosed_closed _ _ _⟩
    · exact fun _ => ⟨rfl, reading⟩
    · exact fun goes_on => absurd goes_on Bool.false_ne_true
  · exact refl

/-- Whatever happens at a side. -/
theorem act (party : Party) (incoming : Bytes) (action : Action) :
    Evolves party action (party.act incoming action) := by
  cases action with
  | openStream => exact openStream party
  | write id bytes => exact write party id bytes
  | closeStream id => exact closeStream party id
  | close code reason => exact close party code reason
  | proceed thread => exact proceed party thread
  | accept => exact accept party
  | read id count => exact still (party.session.table.read_closed id count) rfl rfl rfl
  | setLimit id limit => exact still (party.session.table.modify_closed id _) rfl rfl rfl
  | arrive count => exact arrive party incoming count
  | lose cause => exact lose party cause
  | sever count kind => exact still rfl rfl rfl rfl

end Evolves

/-! ## A side which says why it is closed -/

variable {party : Party} {action : Action}

theorem Begins.fits {frame : Frame} (begins : party.Begins action frame) : frame.Fits := by
  cases begins with
  | opening | fin => exact Nat.zero_le _
  | data id bytes => exact List.length_take_le ..
  | closing code reason => exact Frame.closing_fits code reason

/-- What holds of the end of a session at one side, whatever has happened there. -/
structure Candid (party : Party) : Prop where
  /-- No frame is too long. -/
  fits : ∀ frame ∈ party.frames, frame.Fits
  /-- The only reason which is told is the one for which the session is closed. -/
  tells : ∀ frame ∈ party.frames, frame.kind = .close → ∃ code reason,
    party.session.table.closed = some (code, reason) ∧ frame = .closing code reason
  /-- An open session is read. -/
  attentive : party.Attentive
  /-- No frame which ends the session is applied. -/
  goes_on : ∀ frame ∈ party.processed, frame.kind ≠ .close

theorem goes_on_of_applied (bytes : Bytes) : ∀ frame ∈ applied bytes, frame.kind ≠ .close := by
  induction bytes using RawFrame.cut_induction with
  | incomplete bytes split =>
      rw [applied_of_incomplete split]
      exact List.forall_mem_nil _
  | frame bytes first rest split ih =>
      rw [applied_of_split split]
      split
      · rename_i kind ending known
        refine List.forall_mem_cons.mpr ⟨?_, ih⟩
        rintro rfl
        rw [RawFrame.ending?, known] at ending
        dsimp only at ending
        split at ending <;> cases ending
      · exact List.forall_mem_nil _

/-- Frames which end a session are not applied. -/
theorem goes_on_act (goes_on : ∀ frame ∈ party.processed, frame.kind ≠ .close) (incoming : Bytes)
    (action : Action) : ∀ frame ∈ (party.act incoming action).processed, frame.kind ≠ .close := by
  obtain ⟨bytes, same⟩ := party.act_processed_eq incoming action
  rw [same]
  exact List.forall_mem_append.mpr ⟨goes_on, goes_on_of_applied bytes⟩

theorem close_closed (opened : party.session.table.closed = none) (code : CloseCode)
    (reason : String) :
    (party.close code reason).session.table.closed = some (code, reason) := by
  rw [Party.close, opened]
  exact Table.closed_markClosed opened code reason

theorem Candid.act (candid : party.Candid) (incoming : Bytes) (action : Action) :
    (party.act incoming action).Candid where
  fits frame among :=
    ((Evolves.act party incoming action).frames frame among).elim (candid.fits frame) (·.fits)
  tells frame among ends := by
    have evolves := Evolves.act party incoming action
    rcases evolves.frames frame among with before | begins
    · obtain ⟨code, reason, closed, frame_eq⟩ := candid.tells frame before ends
      exact ⟨code, reason, evolves.closed _ closed, frame_eq⟩
    · cases begins with
      | opening | data | fin => cases ends
      | closing code reason opened => exact ⟨code, reason, close_closed opened code reason, rfl⟩
  attentive := (Evolves.act party incoming action).attentive candid.attentive
  goes_on := goes_on_act candid.goes_on incoming action

theorem Candid.start (remote : Net.SocketAddress) (dialed : Bool) (keystream : Option Keystream)
    (link : Endpoint) : (Party.start remote dialed keystream link).Candid where
  fits := nofun
  tells := nofun
  attentive _ := ⟨rfl, nofun⟩
  goes_on := nofun

end Party

/-! ## From one side to the other -/

/-- What holds of one direction of a connection, however many streams have been opened. -/
structure Conveys (keystream : Option Keystream) (sender receiver : Party) : Prop where
  /-- What holds at the sending side. -/
  candid : sender.Candid
  /-- What was written is made of frames. -/
  writes : sender.Writes keystream
  /-- What has arrived was written. -/
  carries : Party.Carries keystream sender receiver

/-- A frame was written completely, and all of it has arrived. -/
def Delivered (frame : Frame) (sender receiver : Party) : Prop :=
  ∃ front, front ++ [frame] <+: sender.sent ∧ (layouts (front ++ [frame])).length ≤ receiver.taken

namespace Conveys

variable {keystream : Option Keystream} {near far : Party}

/-- Anything happens at one side. -/
theorem act (out : Conveys keystream near far) (back : Conveys keystream far near)
    (action : Action) :
    Conveys keystream (near.act far.session.link.written action) far ∧
      Conveys keystream far (near.act far.session.link.written action) := by
  have candid := out.candid.act far.session.link.written action
  rcases near.moves far.session.link.written action with
    ⟨count, rfl, reading⟩ | quiet | ⟨thread, frame, rest, found, same⟩
  · have chunk_eq : (far.session.link.written.drop near.taken).take count = _ := rfl
    obtain ⟨-, -, carries⟩ := back.carries.arrive back.writes
      (fun frame among => back.candid.fits frame (List.mem_append_left _ among))
      out.writes.aligned reading chunk_eq rfl
    have writes := out.writes.arrive far.session.link.written count
    obtain ⟨threads, arrive⟩ := Party.arrive_eq reading chunk_eq rfl
    rw [Party.act] at candid ⊢
    rw [arrive] at candid writes carries ⊢
    exact ⟨⟨candid, writes, { out.carries with }⟩, { back with carries }⟩
  · have sent : near.sent <+: (near.act far.session.link.written action).sent :=
      quiet.sent ▸ List.prefix_rfl
    have output : near.output keystream <+:
        (near.act far.session.link.written action).output keystream :=
      quiet.output ▸ List.prefix_rfl
    exact ⟨⟨candid, out.writes.quiet quiet, out.carries.more sent output⟩,
      { back with carries := back.carries.still quiet.toStill }⟩
  · rw [same] at candid ⊢
    have fits := out.candid.fits frame (List.mem_append_right _ (Party.pending_of_thread found))
    obtain ⟨writes, -, output⟩ := out.writes.send fits thread rest
    exact ⟨⟨candid, writes, out.carries.more (near.sent_perform_send thread frame rest) output⟩,
      { back with carries := back.carries.still (.send near thread frame rest) }⟩

theorem start (keystream : Option Keystream) (dialed : Bool) (link farLink : Endpoint)
    (address farAddress : Net.SocketAddress) :
    Conveys keystream (.start address dialed keystream link)
      (.start farAddress (!dialed) keystream farLink) where
  candid := .start address dialed keystream link
  writes := ⟨rfl, [], by cases keystream <;> rfl, incomplete_nil, absurd rfl⟩
  carries := ⟨List.prefix_rfl, fun _ => ⟨Nat.zero_le _, rfl⟩⟩

/-- When all of a frame has arrived at a side which has met no end of the session yet, all frames up to
it are among the bytes which are looked at. -/
theorem layouts_isPrefix (out : Conveys keystream near far) (back : Conveys keystream far near)
    (reading : far.session.reading = true) {frame : Frame} (ends : frame.kind = .close)
    {count : Nat} {chunk bytes : Bytes}
    (chunk_eq : chunk = (near.session.link.written.drop far.taken).take count)
    (bytes_eq : bytes = far.session.unread ++ far.session.clear chunk)
    {front : List Frame} (sent : front ++ [frame] <+: near.sent)
    (all : (layouts (front ++ [frame])).length ≤ far.taken + chunk.length) :
    ∃ middle, far.processed ++ (middle ++ [frame]) <+: near.sent ∧
      layouts (middle ++ [frame]) <+: bytes := by
  obtain ⟨remnant, output, -, -⟩ := out.writes.output
  have arrives := out.carries.take_clear back.writes.aligned reading chunk_eq
  rw [← bytes_eq] at arrives
  -- The frame itself has not been applied, since it ends the session.
  have before : far.processed <+: front := by
    rcases List.prefix_or_prefix_of_prefix out.carries.processed sent with early | late
    · refine (List.prefix_concat_iff.mp early).resolve_left fun whole => ?_
      refine back.candid.goes_on frame ?_ ends
      exact whole ▸ List.mem_append_right _ (List.mem_singleton_self frame)
    · exact absurd ends (back.candid.goes_on frame
        (late.subset (List.mem_append_right _ (List.mem_singleton_self frame))))
  obtain ⟨middle, rfl⟩ := before
  rw [List.append_assoc] at sent all
  refine ⟨middle, sent, ?_⟩
  have written : layouts (far.processed ++ (middle ++ [frame])) <+: near.output keystream := by
    obtain ⟨later, sent⟩ := sent
    rw [output, ← sent, layouts_append _ later, List.append_assoc]
    exact List.prefix_append _ _
  have looked := List.prefix_take_iff.mpr ⟨written, all⟩
  rw [arrives, layouts_append] at looked
  exact (List.prefix_append_right_inj _).mp looked

/-- A side which is open when the whole frame has arrived which ends the session records what the frame
says. -/
theorem closed_of_delivered (out : Conveys keystream near far) (back : Conveys keystream far near)
    {code : CloseCode} {reason : String}
    (closed : near.session.table.closed = some (code, reason))
    (opened : far.session.table.closed = none) {count : Nat}
    (delivered : Delivered (.closing code reason) near
      (far.arrive near.session.link.written count)) :
    (far.arrive near.session.link.written count).session.table.closed =
      some (.ofCode code.code, conveyed reason) := by
  obtain ⟨reading, -⟩ := back.candid.attentive opened
  have chunk_eq : (near.session.link.written.drop far.taken).take count = _ := rfl
  obtain ⟨threads, arrive⟩ := Party.arrive_eq reading chunk_eq rfl
  obtain ⟨front, sent, all⟩ := delivered
  rw [arrive] at all
  obtain ⟨middle, among, rest, bytes_eq⟩ :=
    out.layouts_isPrefix back reading rfl chunk_eq rfl sent all
  have written {frame : Frame} (here : frame ∈ middle ++ [.closing code reason]) :
      frame ∈ near.frames :=
    List.mem_append_left _ (among.subset (List.mem_append_right _ here))
  have ended : (far.session.table.receiveAll (layouts (middle ++ [.closing code reason]) ++
      rest)).1.closed = some (.ofCode code.code, conveyed reason) := by
    refine Table.receiveAll_closing (fun frame here => out.candid.fits frame (written here)) ?_
      (List.mem_append_right _ (List.mem_singleton_self _)) rest opened
    intro frame here ends
    obtain ⟨other, text, because, frame_eq⟩ := out.candid.tells frame (written here) ends
    rw [closed] at because
    cases because
    exact frame_eq
  rw [arrive, Session.arrive_eq reading, ← bytes_eq]
  dsimp only
  split <;> exact ended

end Conveys

namespace Pair

variable {keystream : Option Keystream} {pair : Pair}

/-- The side which dialed, if that is said, or else the other side. -/
def party (pair : Pair) : Bool → Party
  | true => pair.dialing
  | false => pair.listening

/-- What holds of both directions, however many streams have been opened. -/
def Linked (keystream : Option Keystream) (pair : Pair) : Prop :=
  ∀ side, Conveys keystream (pair.party side) (pair.party (!side))

theorem party_act (pair : Pair) (side : Bool) (action : Action) :
    (pair.act (side, action)).party side =
        (pair.party side).act (pair.party (!side)).session.link.written action ∧
      (pair.act (side, action)).party (!side) = pair.party (!side) := by
  cases side <;> exact ⟨rfl, rfl⟩

theorem Linked.act (linked : pair.Linked keystream) (step : Bool × Action) :
    (pair.act step).Linked keystream := by
  obtain ⟨side, action⟩ := step
  obtain ⟨here, there⟩ := pair.party_act side action
  have back := linked (!side)
  rw [Bool.not_not] at back
  obtain ⟨out, back⟩ := (linked side).act back action
  rw [← here, ← there] at out back
  intro other
  by_cases same : other = side
  · rw [same]
    exact out
  · rw [Bool.eq_not.mpr same, Bool.not_not]
    exact back

theorem Linked.run (linked : pair.Linked keystream) (actions : List (Bool × Action)) :
    (pair.run actions).Linked keystream := by
  induction actions generalizing pair with
  | nil => exact linked
  | cons step actions ih => exact ih (linked.act step)

theorem linked_start (keystream : Option Keystream) (dialingLink listeningLink : Endpoint)
    (dialingAddress listeningAddress : Net.SocketAddress) :
    (Pair.start keystream dialingLink listeningLink dialingAddress listeningAddress).Linked
      keystream
  | true => .start keystream true dialingLink listeningLink listeningAddress dialingAddress
  | false => .start keystream false listeningLink dialingLink dialingAddress listeningAddress

theorem act_closed (pair : Pair) (step : Bool × Action) {side : Bool} {cause : CloseCode × String}
    (closed : (pair.party side).session.table.closed = some cause) :
    ((pair.act step).party side).session.table.closed = some cause := by
  obtain ⟨acting, action⟩ := step
  obtain ⟨here, there⟩ := pair.party_act acting action
  by_cases same : side = acting
  · subst same
    rw [here]
    exact (Party.Evolves.act _ _ _).closed cause closed
  · obtain rfl := Bool.eq_not.mpr same
    rw [there]
    exact closed

/-- A side which is closed stays closed, for the same reason. -/
theorem run_closed (pair : Pair) (actions : List (Bool × Action)) {side : Bool}
    {cause : CloseCode × String} (closed : (pair.party side).session.table.closed = some cause) :
    ((pair.run actions).party side).session.table.closed = some cause := by
  induction actions generalizing pair with
  | nil => exact closed
  | cons step actions ih => exact ih _ (pair.act_closed step closed)

end Pair

/-! ## A connection which takes everything -/

/-- A plain connection which takes bytes takes all of them. -/
theorem Session.transmit_of_willing {session : Session} (plain : session.mask = none)
    (willing : session.link.Willing) (bytes : Bytes) :
    ∃ link, session.transmit bytes = (.ok (), { session with link }) ∧
      link.written = session.link.written ++ bytes := by
  obtain ⟨link, sent, written⟩ := willing.send bytes
  refine ⟨link, ?_, written⟩
  simp only [transmit, plain, sent]

/-- A side of a new plain connection which takes bytes writes the whole frame when it closes the
session. -/
theorem Party.sent_of_willing (remote : Net.SocketAddress) (dialed : Bool) {link : Endpoint}
    (willing : link.Willing) (code : CloseCode) (reason : String) {told : Party}
    (tells : ((Party.start remote dialed none link).close code reason).proceed 0 = told) :
    told.sent = [.closing code reason] ∧
      told.session.link.written = (Frame.closing code reason).layout := by
  subst tells
  have unused : Endpoint.Willing { link with pieces := [] } :=
    ⟨willing.isOpen, willing.unfailing, willing.room⟩
  have plain : ((Party.start remote dialed none link).close code reason).session.mask = none := rfl
  obtain ⟨after, transmitted, written⟩ :=
    Session.transmit_of_willing plain unused (Frame.closing code reason).layout
  have found : ((Party.start remote dialed none link).close code reason).threads[0]? =
    some [.send (.closing code reason), .unlink] := rfl
  obtain ⟨session, frames, -⟩ := Party.proceed_written found transmitted
  exact ⟨frames, session ▸ written⟩

/-- Every reason can be delivered: the new session is closed, the frame is written, and all of it
arrives at once. -/
theorem Pair.delivered_of_willing {dialingLink listeningLink : Endpoint}
    (dialing : dialingLink.Willing) (listening : listeningLink.Willing)
    (dialingAddress listeningAddress : Net.SocketAddress) (side : Bool)
    (code : CloseCode) (reason : String) {opened waiting arrived : Pair}
    (starts : Pair.start none dialingLink listeningLink dialingAddress listeningAddress = opened)
    (closes : (opened.act (side, .close code reason)).run [(side, .proceed 0)] = waiting)
    (arrives : waiting.act (!side, .arrive (Frame.closing code reason).layout.length) = arrived) :
    (opened.party side).session.table.closed = none ∧
      (waiting.party (!side)).session.table.closed = none ∧
      Delivered (.closing code reason) (arrived.party side) (arrived.party (!side)) := by
  subst starts
  have told : (waiting.party side).sent = [.closing code reason] ∧
      (waiting.party side).session.link.written = (Frame.closing code reason).layout := by
    subst closes
    cases side
    · exact Party.sent_of_willing _ _ listening code reason rfl
    · exact Party.sent_of_willing _ _ dialing code reason rfl
  have fresh : ∃ remote link, waiting.party (!side) = .start remote (!side) none link := by
    subst closes
    cases side
    · exact ⟨_, _, rfl⟩
    · exact ⟨_, _, rfl⟩
  obtain ⟨sent, written⟩ := told
  obtain ⟨remote, link, peer⟩ := fresh
  refine ⟨by cases side <;> rfl, by rw [peer]; rfl, [], ?_, ?_⟩
  · obtain ⟨-, there⟩ := waiting.party_act (!side) (.arrive (Frame.closing code reason).layout.length)
    rw [Bool.not_not] at there
    rw [← arrives, there, sent]
    exact List.prefix_rfl
  · obtain ⟨here, -⟩ := waiting.party_act (!side) (.arrive (Frame.closing code reason).layout.length)
    rw [Bool.not_not, peer, written] at here
    have reading : (Party.start remote (!side) none link).session.reading = true := rfl
    have chunk_eq : ((Frame.closing code reason).layout.drop 0).take
        (Frame.closing code reason).layout.length = _ := rfl
    obtain ⟨threads, arrive⟩ := Party.arrive_eq reading chunk_eq rfl
    rw [← arrives, here, Party.act, arrive]
    simp [layouts, Party.start]

/-! ## What the other side knows -/

/-- What is read of a reason. -/
structure Conveyed (reason read : String) : Prop where
  /-- The reason is read up to the cut. -/
  cut : Text.Utf8.Cut reasonRoom reason read
  /-- A reason for which there is room is read completely. -/
  whole : reason.utf8ByteSize ≤ reasonRoom → read = reason
  /-- What is read begins the reason, unless the cut falls inside a character. -/
  begins : read.toList <+: reason.toList ↔
    ∀ front char, Splits reasonRoom reason front char → char = replacement

theorem conveyed_spec (reason : String) : Conveyed reason (conveyed reason) where
  cut := Text.Utf8.cut_decode_take reasonRoom reason
  whole room := by
    rw [conveyed, List.take_of_length_le (by rwa [Text.Utf8.length_encode]),
      Text.Utf8.decode_encode]
  begins := (Text.Utf8.cut_decode_take reasonRoom reason).isPrefix_iff

/-- **The reason of a closed session.**  Whatever happens at the two sides before a side closes the open
session, until the whole frame has arrived at the other side, which is open until then, and afterwards,
the other side records the code and what is read of the reason. -/
theorem Pair.conveyed_of_delivered (keystream : Option Keystream)
    (dialingLink listeningLink : Endpoint) (dialingAddress listeningAddress : Net.SocketAddress)
    (side : Bool) (code : CloseCode) (reason : String) (count : Nat)
    (before between later : List (Bool × Action)) {opened waiting arrived : Pair}
    (starts : (Pair.start keystream dialingLink listeningLink dialingAddress listeningAddress).run
      before = opened)
    (still_open : (opened.party side).session.table.closed = none)
    (closes : (opened.act (side, .close code reason)).run between = waiting)
    (peer_open : (waiting.party (!side)).session.table.closed = none)
    (arrives : waiting.act (!side, .arrive count) = arrived)
    (delivered : Delivered (.closing code reason) (arrived.party side) (arrived.party (!side))) :
    ∃ read, ((arrived.run later).party (!side)).session.table.closed =
        some (.ofCode code.code, read) ∧ Conveyed reason read := by
  refine ⟨conveyed reason, ?_, conveyed_spec reason⟩
  apply run_closed
  have start := linked_start keystream dialingLink listeningLink dialingAddress listeningAddress
  have linked : waiting.Linked keystream := by
    rw [← closes, ← starts]
    exact ((start.run before).act _).run between
  have closed : (waiting.party side).session.table.closed = some (code, reason) := by
    rw [← closes]
    apply run_closed
    rw [(opened.party_act side _).1]
    exact Party.close_closed still_open code reason
  obtain ⟨here, there⟩ := waiting.party_act (!side) (.arrive count)
  rw [Bool.not_not] at here there
  rw [← arrives, here, there] at delivered
  rw [← arrives, here]
  have back := linked (!side)
  rw [Bool.not_not] at back
  exact (linked side).closed_of_delivered back closed peer_open delivered

/-- A reason of which the last character has two bytes, and there is room for one of them only. -/
theorem Pair.conveyed_with_split_character :
    let reason := String.ofList (List.replicate 16381 'a' ++ ['é'])
    ∃ opened waiting arrived : Pair,
      (Pair.start none {} {} default default).run [] = opened ∧
      (opened.party true).session.table.closed = none ∧
      (opened.act (true, .close .auth reason)).run [(true, .proceed 0)] = waiting ∧
      (waiting.party false).session.table.closed = none ∧
      waiting.act (false, .arrive (Frame.closing .auth reason).layout.length) = arrived ∧
      Delivered (.closing .auth reason) (arrived.party true) (arrived.party false) ∧
      ∃ read, ((arrived.run []).party false).session.table.closed =
          some (.ofCode CloseCode.auth.code, read) ∧
        Conveyed reason read ∧ ¬ read.toList <+: reason.toList := by
  intro reason
  have willing : Endpoint.Willing {} := ⟨rfl, rfl, nofun⟩
  obtain ⟨still_open, peer_open, delivered⟩ := delivered_of_willing willing willing default default
    true .auth reason rfl rfl rfl
  obtain ⟨read, closed, conveyed⟩ := conveyed_of_delivered none {} {} default default true .auth
    reason (Frame.closing .auth reason).layout.length [] [(true, .proceed 0)] [] rfl still_open rfl
    peer_open rfl delivered
  refine ⟨_, _, _, rfl, still_open, rfl, peer_open, rfl, delivered, read, closed, conveyed, ?_⟩
  have splits : Splits reasonRoom reason (List.replicate 16381 'a') 'é' := by
    refine ⟨String.toList_ofList.symm ▸ List.prefix_rfl, ?_, ?_⟩ <;>
      rw [Text.Utf8.utf8Len_replicate] <;> decide
  intro begins
  cases conveyed.begins.mp begins _ _ splits

end Mux
end TunnelProxy
