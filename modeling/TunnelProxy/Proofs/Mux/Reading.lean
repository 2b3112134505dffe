import TunnelProxy.Proofs.Mux.Closing

/-!
# Reading frames

What arrives is read in pieces of any size, and it may be malformed.  There is one way to cut it into
frames and a rest which is not a whole frame.  The frames are applied one after another up to the first
one which ends the session; if there is none, the end of the connection does.
-/

namespace TunnelProxy
namespace Mux

open Wire (bigEndian ofBigEndian word16)

/-! ## Frames in bytes -/

theorem splitExactly?_eq_some_iff {count : Nat} {bytes front rest : Bytes} :
    splitExactly? count bytes = some (front, rest) ↔
      front.length = count ∧ bytes = front ++ rest := by
  constructor
  · intro split
    rw [splitExactly?] at split
    split_ifs at split with enough
    cases split
    exact ⟨enough, (List.take_append_drop count bytes).symm⟩
  · rintro ⟨rfl, rfl⟩
    exact splitExactly?_append front rest

namespace RawFrame

/-- What stands before the payload. -/
def header (frame : RawFrame) : Bytes :=
  frame.kind :: bigEndian 4 frame.id.toNat ++ word16 (UInt16.ofNat frame.payload.length)

/-- A frame in bytes. -/
def layout (frame : RawFrame) : Bytes := frame.header ++ frame.payload

/-- The length of the payload can be written into the frame. -/
def Fits (frame : RawFrame) : Prop := frame.payload.length < 2 ^ 16

theorem header_eq_iff {frame : RawFrame} (fits : frame.Fits) {header : Bytes} :
    frame.header = header ↔
      header.length = headerLength ∧ frame.kind = header.headD 0 ∧
        frame.id = UInt32.ofNat (ofBigEndian ((header.drop 1).take 4)) ∧
        frame.payload.length = ofBigEndian (header.drop 5) := by
  constructor
  · rintro rfl
    have id_field : (frame.header.drop 1).take 4 = bigEndian 4 frame.id.toNat := by
      simp only [RawFrame.header, List.cons_append, List.drop_succ_cons, List.drop_zero]
      exact List.take_left' (by simp)
    have size_field : frame.header.drop 5 = word16 (UInt16.ofNat frame.payload.length) := by
      simp only [RawFrame.header, List.cons_append, List.drop_succ_cons]
      exact List.drop_left' (by simp)
    refine ⟨by simp [RawFrame.header, headerLength], rfl, ?_, ?_⟩
    · rw [id_field, Wire.ofBigEndian_bigEndian 4 _ frame.id.toNat_lt, UInt32.ofNat_toNat]
    · rw [size_field, Wire.ofBigEndian_word16, UInt16.toNat_ofNat', Nat.mod_eq_of_lt fits]
  · rintro ⟨seven, kind, id, size⟩
    obtain ⟨first, fields, rfl⟩ : ∃ first fields, header = first :: fields :=
      List.exists_cons_of_length_eq_add_one seven
    have six : fields.length = 6 := by simpa [headerLength] using seven
    have four : (fields.take 4).length = 4 := by
      rw [List.length_take]
      omega
    have two : (fields.drop 4).length = 2 := by
      rw [List.length_drop]
      omega
    have small : ofBigEndian (fields.take 4) < 2 ^ 32 := by
      have := Wire.ofBigEndian_lt (fields.take 4)
      rwa [four] at this
    rw [RawFrame.header, kind, id, size]
    simp only [List.headD_cons, List.drop_succ_cons, List.drop_zero]
    rw [UInt32.toNat_ofNat', Nat.mod_eq_of_lt small, Wire.word16_ofBigEndian two]
    have id_field := Wire.bigEndian_ofBigEndian (fields.take 4)
    rw [four] at id_field
    rw [id_field, List.cons_append, List.take_append_drop]

/-- A frame is cut off exactly if its bytes stand at the front. -/
theorem split?_iff {frame : RawFrame} {bytes rest : Bytes} :
    split? bytes = some (frame, rest) ↔ frame.Fits ∧ bytes = frame.layout ++ rest := by
  simp only [split?, Option.bind_eq_bind, Option.bind_eq_some_iff, Option.pure_def, Option.some_inj,
    Prod.exists, Prod.mk.injEq, splitExactly?_eq_some_iff]
  constructor
  · rintro ⟨header, middle, ⟨seven, rfl⟩, payload, _, ⟨size, rfl⟩, rfl, rfl⟩
    have fits : Fits ⟨header.headD 0, .ofNat (ofBigEndian ((header.drop 1).take 4)), payload⟩ := by
      have two : (header.drop 5).length = 2 := by
        rw [List.length_drop, seven, headerLength]
      have small := Wire.ofBigEndian_lt (header.drop 5)
      rw [two, ← size] at small
      exact small
    refine ⟨fits, ?_⟩
    rw [layout, (header_eq_iff fits).mpr ⟨seven, rfl, rfl, size⟩, List.append_assoc]
  · rintro ⟨fits, rfl⟩
    obtain ⟨seven, kind, id, size⟩ := (header_eq_iff fits).mp rfl
    refine ⟨frame.header, frame.payload ++ rest, ⟨seven, List.append_assoc ..⟩, frame.payload, rest,
      ⟨size, rfl⟩, ?_, rfl⟩
    rw [← kind, ← id]

theorem split?_eq_none_iff {bytes : Bytes} :
    split? bytes = none ↔ ∀ (frame : RawFrame) rest, frame.Fits → bytes ≠ frame.layout ++ rest := by
  rw [Option.eq_none_iff_forall_ne_some, Prod.forall]
  simp only [ne_eq, split?_iff, not_and]

theorem layout_ne_nil (frame : RawFrame) : frame.layout ≠ [] := by
  simp [layout, header]

end RawFrame

namespace Frame

theorem raw_fits {frame : Frame} (fits : frame.Fits) : frame.raw.Fits :=
  Nat.lt_of_le_of_lt fits (by decide)

end Frame

/-! ## Cutting -/

/-- Some bytes are frames one after another and a rest which does not begin with a whole frame. -/
structure Cut (bytes : Bytes) (frames : List RawFrame) (rest : Bytes) : Prop where
  /-- Each length fits into its field. -/
  fits : ∀ frame ∈ frames, frame.Fits
  /-- The bytes are those of the frames and the rest. -/
  bytes : bytes = frames.flatMap RawFrame.layout ++ rest
  /-- No further frame is whole. -/
  incomplete : ∀ (frame : RawFrame) later, frame.Fits → rest ≠ frame.layout ++ later

section Cutting

variable {bytes rest later : Bytes} {frame : RawFrame} {frames : List RawFrame}

theorem cut_of_incomplete (incomplete : RawFrame.split? bytes = none) : Cut bytes [] bytes :=
  ⟨nofun, rfl, RawFrame.split?_eq_none_iff.mp incomplete⟩

theorem Cut.cons (cut : Cut later frames rest)
    (split : RawFrame.split? bytes = some (frame, later)) : Cut bytes (frame :: frames) rest := by
  obtain ⟨fits, rfl⟩ := RawFrame.split?_iff.mp split
  refine ⟨List.forall_mem_cons.mpr ⟨fits, cut.fits⟩, ?_, cut.incomplete⟩
  rw [List.flatMap_cons, List.append_assoc, ← cut.bytes]

theorem Cut.append {front : List RawFrame} (cut : Cut later frames rest)
    (fits : ∀ frame ∈ front, frame.Fits) :
    Cut (front.flatMap RawFrame.layout ++ later) (front ++ frames) rest := by
  refine ⟨List.forall_mem_append.mpr ⟨fits, cut.fits⟩, ?_, cut.incomplete⟩
  rw [List.flatMap_append, List.append_assoc, ← cut.bytes]

theorem exists_cut (bytes : Bytes) : ∃ frames rest, Cut bytes frames rest := by
  induction bytes using RawFrame.cut_induction with
  | incomplete bytes split => exact ⟨[], bytes, cut_of_incomplete split⟩
  | frame bytes frame later split ih =>
      obtain ⟨frames, rest, cut⟩ := ih
      exact ⟨frame :: frames, rest, cut.cons split⟩

/-- There is only one way to cut. -/
theorem Cut.unique {others : List RawFrame} {remainder : Bytes} (cut : Cut bytes frames rest)
    (other : Cut bytes others remainder) : frames = others ∧ rest = remainder := by
  induction frames generalizing bytes others with
  | nil =>
      obtain rfl : bytes = rest := cut.bytes
      cases others with
      | nil => exact ⟨rfl, other.bytes⟩
      | cons first others =>
          have whole := other.bytes
          rw [List.flatMap_cons, List.append_assoc] at whole
          exact absurd whole (cut.incomplete first _ (other.fits first List.mem_cons_self))
  | cons frame frames ih =>
      have whole := cut.bytes
      rw [List.flatMap_cons, List.append_assoc] at whole
      have fits := cut.fits frame List.mem_cons_self
      cases others with
      | nil =>
          obtain rfl : bytes = remainder := other.bytes
          exact absurd whole (other.incomplete frame _ fits)
      | cons first others =>
          have other_whole := other.bytes
          rw [List.flatMap_cons, List.append_assoc] at other_whole
          have split := RawFrame.split?_iff.mpr ⟨fits, whole⟩
          have other_split := RawFrame.split?_iff.mpr
            ⟨other.fits first List.mem_cons_self, other_whole⟩
          rw [split, Option.some_inj, Prod.mk.injEq] at other_split
          obtain ⟨rfl, later⟩ := other_split
          have tail : Cut (frames.flatMap RawFrame.layout ++ rest) frames rest :=
            ⟨fun frame among => cut.fits frame (List.mem_cons_of_mem _ among), rfl, cut.incomplete⟩
          have other_tail : Cut (frames.flatMap RawFrame.layout ++ rest) others remainder :=
            ⟨fun frame among => other.fits frame (List.mem_cons_of_mem _ among), later,
              other.incomplete⟩
          obtain ⟨rfl, rfl⟩ := ih tail other_tail
          exact ⟨rfl, rfl⟩

/-- Frames which were sent are cut again. -/
theorem cut_layouts {frames : List Frame} (fits : ∀ frame ∈ frames, frame.Fits) :
    Cut (layouts frames) (frames.map Frame.raw) [] := by
  refine ⟨List.forall_mem_map.mpr fun frame among => Frame.raw_fits (fits frame among), ?_, ?_⟩
  · rw [List.append_nil, List.flatMap_map]
    rfl
  · intro frame later _ whole
    exact frame.layout_ne_nil (List.append_eq_nil_iff.mp whole.symm).1

end Cutting

/-! ## What ends reading -/

/-- A frame does not end the session. -/
def RawFrame.GoesOn (frame : RawFrame) : Prop :=
  ∃ kind, FrameKind.ofByte? frame.kind = some kind ∧ kind ≠ .close

/-- Why nothing is read behind the first frames any more, and with what the session is closed. -/
inductive Ending (cause : IoError) (front : List RawFrame) :
    List RawFrame → CloseCode → String → Prop
  /-- The other side has closed the session. -/
  | closed (frame : RawFrame) (back : List RawFrame) (high low : UInt8) (reason : Bytes)
      (kind : FrameKind.ofByte? frame.kind = some .close)
      (payload : frame.payload = high :: low :: reason) :
      Ending cause front (front ++ frame :: back)
        (.ofCode (UInt16.ofNat (ofBigEndian [high, low]))) (Text.Utf8.decode reason)
  /-- The other side wanted to close the session, but there is no code. -/
  | short (frame : RawFrame) (back : List RawFrame)
      (kind : FrameKind.ofByte? frame.kind = some .close) (short : frame.payload.length < 2) :
      Ending cause front (front ++ frame :: back) .protocol
        (Error.messageFormat "short close frame").message
  /-- The kind of a frame has no meaning. -/
  | unknown (frame : RawFrame) (back : List RawFrame)
      (unknown : FrameKind.ofByte? frame.kind = none) :
      Ending cause front (front ++ frame :: back) .protocol
        (Error.messageFormat s!"unknown frame kind: {frame.kind.toNat}").message
  /-- The connection has ended or failed behind all frames. -/
  | lost : Ending cause front front .generic s!"connection lost: {(Error.io cause).message}"

section Ends

variable {cause : IoError} {front : List RawFrame} {frame : RawFrame} {code : CloseCode}
  {reason : String}

theorem RawFrame.goesOn_of_ending? (silent : frame.ending? = none) : frame.GoesOn := by
  rw [ending?] at silent
  cases known : FrameKind.ofByte? frame.kind with
  | none =>
      rw [known] at silent
      cases silent
  | some kind =>
      refine ⟨kind, known, fun closes => ?_⟩
      rw [known, closes] at silent
      dsimp only at silent
      split at silent <;> cases silent

theorem ending_of_ending? (ends : frame.ending? = some (code, reason)) (back : List RawFrame) :
    Ending cause front (front ++ frame :: back) code reason := by
  rw [RawFrame.ending?] at ends
  cases known : FrameKind.ofByte? frame.kind with
  | none =>
      rw [known] at ends
      cases ends
      exact .unknown frame back known
  | some kind =>
      rw [known] at ends
      cases kind with
      | close =>
          dsimp only at ends
          split at ends
          · rename_i high low text payload
            cases ends
            exact .closed frame back high low text known payload
          · rename_i short
            cases ends
            refine .short frame back known ?_
            rcases payload : frame.payload with _ | ⟨high, _ | ⟨low, text⟩⟩
            · exact Nat.zero_lt_two
            · exact Nat.one_lt_two
            · exact absurd payload (short high low text)
      | opening | data | fin => cases ends

end Ends

/-! ## What arrives -/

/-- Apply frames one after another. -/
def Table.applyAll (table : Table) (frames : List RawFrame) : Table :=
  frames.foldl (fun table frame => table.after (.receive frame)) table

theorem Table.applyAll_append (table : Table) (first second : List RawFrame) :
    table.applyAll (first ++ second) = (table.applyAll first).applyAll second :=
  List.foldl_append

theorem Table.applyAll_closed (table : Table) (frames : List RawFrame) :
    (table.applyAll frames).closed = table.closed := by
  induction frames generalizing table with
  | nil => rfl
  | cons frame frames ih =>
      refine (ih (table.after (.receive frame))).trans ?_
      rw [after]
      split
      · rfl
      · split
        · exact table.receive_closed _ _ _
        · rfl

/-- A cause which was recorded before is kept. -/
theorem Table.markClosed_eq (table : Table) (code : CloseCode) (reason : String) :
    table.markClosed code reason =
      { table with closed := some (table.closed.getD (code, reason)) } := by
  obtain ⟨entries, queue, nextId, closed⟩ := table
  cases closed <;> rfl

/-- What the complete frames at the start of some bytes do to a table. -/
inductive Consumed (table : Table) (bytes : Bytes) : Prop
  /-- All of them are applied, and the rest waits. -/
  | waiting (front : List RawFrame) (rest : Bytes) (goes_on : ∀ frame ∈ front, frame.GoesOn)
      (cut : Cut bytes front rest)
      (result : table.receiveAll bytes = (table.applyAll front, rest, false))
  /-- The first ones are applied, and the next one ends the session. -/
  | ended (front : List RawFrame) (frame : RawFrame) (later rest : Bytes) (code : CloseCode)
      (reason : String) (goes_on : ∀ frame ∈ front, frame.GoesOn) (fits : ∀ frame ∈ front, frame.Fits)
      (whole : bytes = front.flatMap RawFrame.layout ++ later)
      (split : RawFrame.split? later = some (frame, rest))
      (ends : frame.ending? = some (code, reason))
      (result : table.receiveAll bytes = ((table.applyAll front).markClosed code reason, rest, true))

theorem Table.consumed (table : Table) (bytes : Bytes) : Consumed table bytes := by
  induction bytes using RawFrame.cut_induction generalizing table with
  | incomplete bytes split =>
      exact .waiting [] bytes nofun (cut_of_incomplete split) (table.receiveAll_of_incomplete split)
  | frame bytes frame later split ih =>
      have next := table.receiveAll_of_split split
      cases ends : frame.ending? with
      | some verdict =>
          obtain ⟨code, reason⟩ := verdict
          rw [ends] at next
          exact .ended [] frame bytes later code reason nofun nofun rfl split ends next
      | none =>
          have goes_on := RawFrame.goesOn_of_ending? ends
          have ⟨kind, known, _⟩ := goes_on
          have applied : table.after (.receive frame) =
              table.receive kind frame.id frame.payload := by
            rw [Table.after, ends, known]
          rw [ends, known] at next
          dsimp only at next
          rw [← applied] at next
          obtain ⟨fits, whole⟩ := RawFrame.split?_iff.mp split
          cases ih (table.after (.receive frame)) with
          | waiting front rest later_goes_on cut result =>
              exact .waiting (frame :: front) rest
                (List.forall_mem_cons.mpr ⟨goes_on, later_goes_on⟩) (cut.cons split)
                (next.trans result)
          | ended front stop last rest code reason later_goes_on later_fits later_whole later_split
              later_ends result =>
              refine .ended (frame :: front) stop last rest code reason
                (List.forall_mem_cons.mpr ⟨goes_on, later_goes_on⟩)
                (List.forall_mem_cons.mpr ⟨fits, later_fits⟩) ?_ later_split later_ends
                (next.trans result)
              rw [whole, later_whole, List.flatMap_cons, List.append_assoc]

/-! ## The reader -/

/-- The failure which a read of the connection says, if nothing can be read behind it.  A read which
gives no bytes has found the end of the connection, and an interrupted one is tried again. -/
def loss? : Except IoError Bytes → Option IoError
  | .ok bytes => if bytes = [] then some .truncated else none
  | .error cause => if cause.kind = .interrupted then none else some cause

/-- The bytes which some reads of the connection give. -/
def incoming (reads : List (Except IoError Bytes)) : Bytes :=
  reads.flatMap fun
    | .ok bytes => bytes
    | .error _ => []

namespace Session

/-- A session after a read of its connection. -/
def feed (session : Session) : Except IoError Bytes → Session
  | .ok bytes => if bytes = [] then session.endOfInput else session.arrive bytes
  | .error cause => session.lose cause

variable {session : Session}

theorem feed_of_loss (reading : session.reading = true) {read : Except IoError Bytes}
    {cause : IoError} (lost : loss? read = some cause) :
    session.feed read = session.fail .generic s!"connection lost: {(Error.io cause).message}" := by
  cases read with
  | ok bytes =>
      rw [loss?] at lost
      split_ifs at lost with nothing
      cases lost
      rw [feed, if_pos nothing, endOfInput, lose, if_pos reading]
      rfl
  | error error =>
      rw [loss?] at lost
      split_ifs at lost with tried_again
      cases lost
      rw [feed, lose, if_pos reading, if_neg tried_again]

/-- An interrupted read is tried again. -/
theorem feed_of_interrupted (reading : session.reading = true) {cause : IoError}
    (interrupted : loss? (.error cause) = none) : session.feed (.error cause) = session := by
  rw [loss?] at interrupted
  split_ifs at interrupted with tried_again
  rw [feed, lose, if_pos reading, if_pos tried_again]

theorem feed_of_chunk {chunk : Bytes} (some_bytes : loss? (.ok chunk) = none) :
    session.feed (.ok chunk) = session.arrive chunk := by
  rw [loss?] at some_bytes
  split_ifs at some_bytes with nothing
  rw [feed, if_neg nothing]

theorem feeds_of_stopped (stopped : session.reading = false) (reads : List (Except IoError Bytes)) :
    reads.foldl feed session = session := by
  have silent : ¬session.reading = true := by simp [stopped]
  induction reads with
  | nil => rfl
  | cons read reads ih =>
      have same : session.feed read = session := by
        cases read with
        | ok bytes => simp [feed, endOfInput, lose, arrive, silent]
        | error cause => rw [feed, lose, if_neg silent]
      rw [List.foldl_cons, same, ih]

theorem clear_nil (session : Session) : session.clear [] = [] := by
  rw [clear]
  cases session.mask <;> rfl

/-- The obfuscation of what arrives later does not depend on how it is cut. -/
theorem clear_append (reading : session.reading = true) (first second : Bytes) :
    session.clear (first ++ second) =
      session.clear first ++ (session.arrive first).clear second := by
  rw [clear, clear, clear, arrive_mask reading]
  cases session.mask with
  | none => rfl
  | some mask => exact mask.keystream.apply_append mask.readPosition first second

end Session

/-- Where reading some bytes stops. -/
inductive Stops (cause : IoError) (bytes : Bytes) (front : List RawFrame) :
    CloseCode → String → Prop
  /-- The frame behind some others ends the session. -/
  | frame (frame : RawFrame) (later rest : Bytes) (code : CloseCode) (reason : String)
      (whole : bytes = front.flatMap RawFrame.layout ++ later)
      (split : RawFrame.split? later = some (frame, rest))
      (ends : frame.ending? = some (code, reason)) : Stops cause bytes front code reason
  /-- No frame ends the session. -/
  | lost (rest : Bytes) (cut : Cut bytes front rest) :
      Stops cause bytes front .generic s!"connection lost: {(Error.io cause).message}"

section Stopping

variable {cause : IoError} {bytes rest : Bytes} {front frames : List RawFrame} {code : CloseCode}
  {reason : String}

theorem Stops.append {first : List RawFrame} (stops : Stops cause rest front code reason)
    (fits : ∀ frame ∈ first, frame.Fits) :
    Stops cause (first.flatMap RawFrame.layout ++ rest) (first ++ front) code reason := by
  cases stops with
  | frame frame later after code reason whole split ends =>
      refine .frame frame later after code reason ?_ split ends
      rw [whole, List.flatMap_append, List.append_assoc]
  | lost after cut => exact .lost after (cut.append fits)

/-- Reading stops at one of the frames or behind all of them. -/
theorem Stops.ending (stops : Stops cause bytes front code reason) (cut : Cut bytes frames rest)
    (fits : ∀ frame ∈ front, frame.Fits) : Ending cause front frames code reason := by
  cases stops with
  | frame frame later after code reason whole split ends =>
      obtain ⟨back, remainder, behind⟩ := exists_cut after
      have whole_cut := (behind.cons split).append fits
      rw [← whole] at whole_cut
      obtain ⟨rfl, -⟩ := cut.unique whole_cut
      exact ending_of_ending? ends back
  | lost after whole_cut =>
      obtain ⟨rfl, -⟩ := cut.unique whole_cut
      exact .lost

end Stopping

namespace Session

/-- What becomes of a session when reading has stopped. -/
structure Stopped (cause : IoError) (session : Session) (bytes : Bytes) (after : Session)
    (front : List RawFrame) (code : CloseCode) (reason : String) : Prop where
  goes_on : ∀ frame ∈ front, frame.GoesOn
  fits : ∀ frame ∈ front, frame.Fits
  stops : Stops cause bytes front code reason
  after : ∃ mask, after = { session with
    table := (session.table.applyAll front).markClosed code reason
    link := session.link.close.2
    mask
    reading := false
    unread := [] }

section Chunk

variable {cause : IoError} {after : Session} {front back : List RawFrame} {code : CloseCode}
  {reason : String} {chunk rest more : Bytes}

/-- A chunk no frame of which ends the session is put before what arrives later. -/
theorem Stopped.of_waiting (reading : session.reading = true)
    (goes_on : ∀ frame ∈ front, frame.GoesOn)
    (cut : Cut (session.unread ++ session.clear chunk) front rest)
    (result : session.table.receiveAll (session.unread ++ session.clear chunk) =
      (session.table.applyAll front, rest, false))
    (later : Stopped cause (session.arrive chunk) ((session.arrive chunk).unread ++ more) after back
      code reason) :
    Stopped cause session (session.unread ++ session.clear chunk ++ more) after (front ++ back) code
      reason := by
  have arrived := arrive_eq reading chunk
  rw [result] at arrived
  rw [arrived] at later
  obtain ⟨back_goes_on, back_fits, stops, mask, after_eq⟩ := later
  refine ⟨List.forall_mem_append.mpr ⟨goes_on, back_goes_on⟩,
    List.forall_mem_append.mpr ⟨cut.fits, back_fits⟩, ?_, mask, ?_⟩
  · have whole := cut.bytes
    rw [whole, List.append_assoc]
    exact stops.append cut.fits
  · rw [Table.applyAll_append]
    exact after_eq

/-- A chunk with a frame which ends the session decides, whatever arrives later. -/
theorem Stopped.of_ended (reading : session.reading = true) {frame : RawFrame} {later : Bytes}
    (goes_on : ∀ frame ∈ front, frame.GoesOn) (fits : ∀ frame ∈ front, frame.Fits)
    (whole : session.unread ++ session.clear chunk = front.flatMap RawFrame.layout ++ later)
    (split : RawFrame.split? later = some (frame, rest)) (ends : frame.ending? = some (code, reason))
    (result : session.table.receiveAll (session.unread ++ session.clear chunk) =
      ((session.table.applyAll front).markClosed code reason, rest, true))
    (reads : List (Except IoError Bytes)) :
    Stopped cause session (session.unread ++ session.clear chunk ++ more)
      (reads.foldl feed (session.arrive chunk)) front code reason := by
  have arrived := arrive_eq reading chunk
  rw [result] at arrived
  obtain ⟨frame_fits, front_whole⟩ := RawFrame.split?_iff.mp split
  refine ⟨goes_on, fits, .frame frame (later ++ more) (rest ++ more) code reason ?_ ?_ ends, ?_⟩
  · rw [whole, List.append_assoc]
  · refine RawFrame.split?_iff.mpr ⟨frame_fits, ?_⟩
    rw [front_whole, List.append_assoc]
  · rw [feeds_of_stopped (by rw [arrived]; rfl), arrived]
    exact ⟨_, rfl⟩

end Chunk

/-- Whatever arrives, and in whatever pieces, the frames are those of all bytes together. -/
theorem stopped_of_reads {session : Session} (reading : session.reading = true)
    (waiting : RawFrame.split? session.unread = none) {reads : List (Except IoError Bytes)}
    (goes_on : ∀ read ∈ reads, loss? read = none) {last : Except IoError Bytes} {cause : IoError}
    (lost : loss? last = some cause) :
    ∃ front code reason, Stopped cause session (session.unread ++ session.clear (incoming reads))
      ((reads ++ [last]).foldl feed session) front code reason := by
  induction reads generalizing session with
  | nil =>
      have nothing : session.unread ++ session.clear (incoming []) = session.unread := by
        rw [incoming, List.flatMap_nil, clear_nil, List.append_nil]
      refine ⟨[], .generic, _, nofun, nofun, .lost session.unread ?_, session.mask, ?_⟩
      · rw [nothing]
        exact cut_of_incomplete waiting
      · exact feed_of_loss reading lost
  | cons read reads ih =>
      obtain ⟨here, later_goes_on⟩ := List.forall_mem_cons.mp goes_on
      rw [List.cons_append, List.foldl_cons]
      cases read with
      | error error =>
          rw [feed_of_interrupted reading here]
          exact ih reading waiting later_goes_on
      | ok chunk =>
          have bytes : session.unread ++ session.clear (incoming (.ok chunk :: reads)) =
              (session.unread ++ session.clear chunk) ++
                (session.arrive chunk).clear (incoming reads) := by
            rw [List.append_assoc, ← clear_append reading]
            rfl
          rw [bytes, feed_of_chunk here]
          cases session.table.consumed (session.unread ++ session.clear chunk) with
          | waiting front rest front_goes_on cut result =>
              have arrived := arrive_eq reading chunk
              rw [result] at arrived
              have still_reading : (session.arrive chunk).reading = true := by
                rw [arrived]
                exact reading
              have still_waiting : RawFrame.split? (session.arrive chunk).unread = none := by
                rw [arrived]
                exact RawFrame.split?_eq_none_iff.mpr cut.incomplete
              obtain ⟨back, code, reason, later⟩ := ih still_reading still_waiting later_goes_on
              exact ⟨_, _, _, .of_waiting reading front_goes_on cut result later⟩
          | ended front frame later rest code reason front_goes_on fits whole split ends result =>
              exact ⟨_, _, _, .of_ended reading front_goes_on fits whole split ends result _⟩

end Session

/-- What reading a connection up to its end makes of a session. -/
structure Readout (cause : IoError) (session : Session) (bytes : Bytes) (after : Session) :
    Prop where
  /-- There is a way to cut what arrives into frames, and there is only one. -/
  cut : ∃! parts : List RawFrame × Bytes, Cut bytes parts.1 parts.2
  /-- The frames before the first one which ends the session are applied, or all of them if there is
  none; then nothing is read any more, and the session is closed unless it was closed before. -/
  stopped : ∀ frames rest, Cut bytes frames rest →
    ∃ front code reason mask, (∀ frame ∈ front, frame.GoesOn) ∧
      Ending cause front frames code reason ∧
      after = { session with
        table := { session.table.applyAll front with
          closed := some (session.table.closed.getD (code, reason)) }
        link := session.link.close.2
        mask
        reading := false
        unread := [] }
  /-- If what arrives was sent as frames, these are the frames. -/
  sent : ∀ frames : List Frame, (∀ frame ∈ frames, frame.Fits) → bytes = layouts frames →
    Cut bytes (frames.map Frame.raw) []

/-- **Reading.**  Whatever arrives at a session which is still reading, and in whatever pieces, up to the
end or a failure of the connection. -/
theorem readout_of_reads {session : Session} (reading : session.reading = true)
    (waiting : RawFrame.split? session.unread = none) {reads : List (Except IoError Bytes)}
    (goes_on : ∀ read ∈ reads, loss? read = none) {last : Except IoError Bytes} {cause : IoError}
    (lost : loss? last = some cause) :
    Readout cause session (session.unread ++ session.clear (incoming reads))
      ((reads ++ [last]).foldl Session.feed session) := by
  obtain ⟨front, code, reason, stopped⟩ :=
    Session.stopped_of_reads reading waiting goes_on lost
  generalize session.unread ++ session.clear (incoming reads) = bytes at stopped
  generalize (reads ++ [last]).foldl Session.feed session = after at stopped
  constructor
  case cut =>
    obtain ⟨frames, rest, cut⟩ := exists_cut bytes
    refine ⟨(frames, rest), cut, fun others other => ?_⟩
    obtain ⟨same_frames, same_rest⟩ := other.unique cut
    exact Prod.ext same_frames same_rest
  case stopped =>
    intro frames rest cut
    obtain ⟨mask, rfl⟩ := stopped.after
    refine ⟨front, code, reason, mask, stopped.goes_on, stopped.stops.ending cut stopped.fits, ?_⟩
    rw [Table.markClosed_eq, session.table.applyAll_closed]
  case sent =>
    rintro frames fits rfl
    exact cut_layouts fits

/-- A stream is announced, a byte of it arrives, and the session is closed.  A frame is cut, a read is
interrupted, and a byte which stands behind the last frame is ignored. -/
theorem readout_of_cut_frame :
    ∃ after,
      ([.ok [0, 0, 0, 0, 1], .error (.ofKind .interrupted),
          .ok [0, 0, 1, 0, 0, 0, 1, 0, 1, 120, 3, 0, 0, 0, 0, 0, 3, 0, 2, 121, 9], .ok []].foldl
        Session.feed (.start default false none)) = after ∧
      after.table.find? 1 = some { data := [120] } ∧
      after.table.closed = some (.ofCode 2, "y") ∧
      Readout .truncated (.start default false none)
        [0, 0, 0, 0, 1, 0, 0, 1, 0, 0, 0, 1, 0, 1, 120, 3, 0, 0, 0, 0, 0, 3, 0, 2, 121, 9] after := by
  refine ⟨_, rfl, ?_, ?_, @readout_of_reads (.start default false none) rfl rfl
    [.ok [0, 0, 0, 0, 1], .error (.ofKind .interrupted),
      .ok [0, 0, 1, 0, 0, 0, 1, 0, 1, 120, 3, 0, 0, 0, 0, 0, 3, 0, 2, 121, 9]] (by decide) (.ok [])
    .truncated rfl⟩
  all_goals decide +kernel

end Mux
end TunnelProxy
