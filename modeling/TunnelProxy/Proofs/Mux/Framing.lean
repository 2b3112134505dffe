import TunnelProxy.Mux.Table
import TunnelProxy.Proofs.Wire.Layout

/-!
# Cutting a byte stream into frames

Frames are written one after another, and what arrives of them may end anywhere.  As long as it is a
beginning of what was written, the frames which are cut from it are the first ones which were
written, and what is left is the beginning of the next one.
-/

namespace TunnelProxy
namespace Mux

open Wire (bigEndian ofBigEndian word16)

/-! ## One frame -/

@[simp] theorem FrameKind.ofByte?_byte (kind : FrameKind) : ofByte? kind.byte = some kind := by
  cases kind <;> rfl

theorem splitExactly?_append (front rest : Bytes) :
    splitExactly? front.length (front ++ rest) = some (front, rest) := by
  simp [splitExactly?]

theorem splitExactly?_eq_none_iff (count : Nat) (bytes : Bytes) :
    splitExactly? count bytes = none ↔ bytes.length < count := by
  simp only [splitExactly?, List.length_take]
  split
  · simp only [reduceCtorEq, false_iff]
    omega
  · simp only [true_iff]
    omega

namespace Frame

/-- What stands before the payload. -/
def header (frame : Frame) : Bytes :=
  frame.kind.byte :: bigEndian 4 frame.id.toNat ++ word16 (UInt16.ofNat frame.payload.length)

/-- A frame as it arrives. -/
def raw (frame : Frame) : RawFrame where
  kind := frame.kind.byte
  id := frame.id
  payload := frame.payload

/-- The payload is not longer than what may be sent. -/
def Fits (frame : Frame) : Prop := frame.payload.length ≤ maximumPayload

theorem layout_eq (frame : Frame) : frame.layout = frame.header ++ frame.payload := rfl

@[simp] theorem header_length (frame : Frame) : frame.header.length = headerLength := by
  simp [header, headerLength]

theorem layout_ne_nil (frame : Frame) : frame.layout ≠ [] := by
  simp [layout]

theorem closing_fits (code : CloseCode) (reason : String) : (closing code reason).Fits := by
  simp only [Fits, closing, List.length_append, Wire.word16_length, List.length_take,
    maximumPayload]
  omega

end Frame

namespace RawFrame

theorem id_of_header (frame : Frame) :
    UInt32.ofNat (ofBigEndian ((frame.header.drop 1).take 4)) = frame.id := by
  have field : (frame.header.drop 1).take 4 = bigEndian 4 frame.id.toNat := by
    simp only [Frame.header, List.cons_append, List.drop_succ_cons, List.drop_zero]
    exact List.take_left' (by simp)
  rw [field, Wire.ofBigEndian_bigEndian 4 _ frame.id.toNat_lt, UInt32.ofNat_toNat]

theorem size_of_header {frame : Frame} (fits : frame.Fits) :
    ofBigEndian (frame.header.drop 5) = frame.payload.length := by
  have field : frame.header.drop 5 = word16 (UInt16.ofNat frame.payload.length) := by
    simp only [Frame.header, List.cons_append, List.drop_succ_cons]
    exact List.drop_left' (by simp)
  have small : frame.payload.length < 2 ^ 16 := by
    unfold Frame.Fits maximumPayload at fits
    omega
  rw [field, Wire.ofBigEndian_word16, UInt16.toNat_ofNat', Nat.mod_eq_of_lt small]

/-- A frame is cut off exactly, whatever follows it. -/
theorem split?_layout {frame : Frame} (fits : frame.Fits) (rest : Bytes) :
    split? (frame.layout ++ rest) = some (frame.raw, rest) := by
  have front : splitExactly? headerLength (frame.layout ++ rest) =
      some (frame.header, frame.payload ++ rest) := by
    rw [Frame.layout_eq, List.append_assoc, ← frame.header_length]
    exact splitExactly?_append _ _
  have back : splitExactly? (ofBigEndian (frame.header.drop 5)) (frame.payload ++ rest) =
      some (frame.payload, rest) := by
    rw [size_of_header fits]
    exact splitExactly?_append _ _
  simp only [split?, Option.bind_eq_bind, front, back, Option.bind_some, id_of_header,
    Option.pure_def]
  rfl

theorem ending?_raw {frame : Frame} (goes_on : frame.kind ≠ .close) : frame.raw.ending? = none := by
  obtain ⟨kind, id, payload⟩ := frame
  cases kind with
  | close => exact absurd rfl goes_on
  | opening | data | fin => rfl

theorem ending?_raw_close {frame : Frame} (ends : frame.kind = .close) :
    ∃ code reason, frame.raw.ending? = some (code, reason) := by
  simp only [ending?, Frame.raw, FrameKind.ofByte?_byte, ends]
  split
  · exact ⟨_, _, rfl⟩
  · exact ⟨_, _, rfl⟩

/-- Nothing is cut off while the end of the first frame is missing. -/
theorem split?_incomplete {frame : Frame} (fits : frame.Fits) {front back : Bytes}
    (cut : frame.layout = front ++ back) (missing : back ≠ []) : split? front = none := by
  have back_pos := List.length_pos_iff.mpr missing
  have total : headerLength + frame.payload.length = front.length + back.length := by
    have := congrArg List.length cut
    simpa [Frame.layout_eq] using this
  by_cases short : front.length < headerLength
  · simp only [split?, Option.bind_eq_bind, (splitExactly?_eq_none_iff _ _).mpr short,
      Option.bind_none]
  · -- The header is there, so what is missing belongs to the payload.
    obtain ⟨tail, rfl⟩ : ∃ tail, front = frame.header ++ tail := by
      have prefixes : frame.header <+: front :=
        List.prefix_of_prefix_length_le (List.prefix_append frame.header frame.payload)
          ⟨back, cut.symm⟩ (by rw [Frame.header_length]; omega)
      exact ⟨_, prefixes.choose_spec.symm⟩
    have header : splitExactly? headerLength (frame.header ++ tail) = some (frame.header, tail) := by
      rw [← frame.header_length]
      exact splitExactly?_append _ _
    have payload : splitExactly? (ofBigEndian (frame.header.drop 5)) tail = none := by
      rw [size_of_header fits, splitExactly?_eq_none_iff]
      simp only [List.length_append, Frame.header_length] at total
      omega
    simp only [split?, Option.bind_eq_bind, header, payload, Option.bind_some, Option.bind_none]

/-- Cutting one frame after another off some bytes comes to an end. -/
theorem cut_induction {motive : Bytes → Prop}
    (incomplete : ∀ bytes, split? bytes = none → motive bytes)
    (frame : ∀ bytes frame rest, split? bytes = some (frame, rest) → motive rest → motive bytes)
    (bytes : Bytes) : motive bytes := by
  induction size : bytes.length using Nat.strongRecOn generalizing bytes with
  | _ length ih =>
      cases split : split? bytes with
      | none => exact incomplete bytes split
      | some taken =>
          have shorter : taken.2.length < length := size ▸ length_lt_of_split? split
          exact frame bytes taken.1 taken.2 split (ih _ shorter taken.2 rfl)

end RawFrame

/-! ## Many frames -/

/-- The frames one after another. -/
def layouts (frames : List Frame) : Bytes := frames.flatMap Frame.layout

/-- The beginning of a frame without its end. -/
def Incomplete (bytes : Bytes) : Prop :=
  ∃ (frame : Frame) (back : Bytes), frame.Fits ∧ frame.layout = bytes ++ back ∧ back ≠ []

@[simp] theorem layouts_nil : layouts [] = [] := rfl

@[simp] theorem layouts_cons (frame : Frame) (frames : List Frame) :
    layouts (frame :: frames) = frame.layout ++ layouts frames := List.flatMap_cons

@[simp] theorem layouts_append (first second : List Frame) :
    layouts (first ++ second) = layouts first ++ layouts second := List.flatMap_append

theorem incomplete_nil : Incomplete [] :=
  ⟨{ kind := .fin, id := 0 }, _, Nat.zero_le _, rfl, Frame.layout_ne_nil _⟩

theorem Incomplete.of_front {bytes front : Bytes} (incomplete : Incomplete bytes)
    (start : front <+: bytes) : Incomplete front := by
  obtain ⟨frame, back, fits, cut, missing⟩ := incomplete
  obtain ⟨rest, rfl⟩ := start
  exact ⟨frame, rest ++ back, fits, by rw [cut, List.append_assoc],
    List.append_ne_nil_of_right_ne_nil _ missing⟩

theorem Incomplete.split? {bytes : Bytes} (incomplete : Incomplete bytes) :
    RawFrame.split? bytes = none := by
  obtain ⟨frame, back, fits, cut, missing⟩ := incomplete
  exact RawFrame.split?_incomplete fits cut missing

/-- The frames at the start of a byte sequence which are complete and stand before the first one
which ends the session. -/
def applied (bytes : Bytes) : List Frame :=
  match _taken : RawFrame.split? bytes with
  | none => []
  | some (frame, rest) =>
      match frame.ending?, FrameKind.ofByte? frame.kind with
      | none, some kind => { kind, id := frame.id, payload := frame.payload } :: applied rest
      | _, _ => []
termination_by bytes.length
decreasing_by exact RawFrame.length_lt_of_split? _taken

/-- Apply a frame to a table. -/
def Table.receiveFrame (table : Table) (frame : Frame) : Table :=
  table.receive frame.kind frame.id frame.payload

/-- What cutting a beginning of some frames into frames comes to. -/
inductive Received (table : Table) (bytes : Bytes) (frames : List Frame) : Prop
  /-- The last frame is not complete. -/
  | waiting (unread : Bytes)
      (cut : bytes = layouts frames ++ unread)
      (result : table.receiveAll bytes = (frames.foldl Table.receiveFrame table, unread, false))
  /-- A frame has ended the session. -/
  | ended (code : CloseCode) (reason : String) (unread : Bytes)
      (result : table.receiveAll bytes =
        ((frames.foldl Table.receiveFrame table).markClosed code reason, unread, true))

theorem applied_of_incomplete {bytes : Bytes} (incomplete : RawFrame.split? bytes = none) :
    applied bytes = [] := by
  rw [applied]
  split
  · rfl
  · rename_i taken
    rw [incomplete] at taken
    cases taken

theorem applied_of_split {bytes rest : Bytes} {frame : RawFrame}
    (split_eq : RawFrame.split? bytes = some (frame, rest)) :
    applied bytes =
      match frame.ending?, FrameKind.ofByte? frame.kind with
      | none, some kind => { kind, id := frame.id, payload := frame.payload } :: applied rest
      | _, _ => [] := by
  rw [applied]
  split
  · rename_i incomplete
    rw [split_eq] at incomplete
    cases incomplete
  · rename_i taken
    rw [split_eq] at taken
    cases taken
    rfl

namespace Table

variable (table : Table)

theorem receiveAll_of_incomplete {bytes : Bytes} (incomplete : RawFrame.split? bytes = none) :
    table.receiveAll bytes = (table, bytes, false) := by
  rw [receiveAll]
  split
  · rfl
  · rename_i taken
    rw [incomplete] at taken
    cases taken

theorem receiveAll_of_split {bytes rest : Bytes} {frame : RawFrame}
    (split_eq : RawFrame.split? bytes = some (frame, rest)) :
    table.receiveAll bytes =
      match frame.ending? with
      | some (code, reason) => (table.markClosed code reason, rest, true)
      | none =>
          match FrameKind.ofByte? frame.kind with
          | some kind => (table.receive kind frame.id frame.payload).receiveAll rest
          | none => table.receiveAll rest := by
  rw [receiveAll]
  split
  · rename_i incomplete
    rw [split_eq] at incomplete
    cases incomplete
  · rename_i taken
    rw [split_eq] at taken
    cases taken
    rfl

end Table

theorem applied_layout {frame : Frame} (fits : frame.Fits) (rest : Bytes) :
    applied (frame.layout ++ rest) =
      if frame.kind = .close then [] else frame :: applied rest := by
  rw [applied_of_split (RawFrame.split?_layout fits rest)]
  split_ifs with ends
  · obtain ⟨code, reason, ending⟩ := RawFrame.ending?_raw_close ends
    rw [ending]
  · rw [RawFrame.ending?_raw ends, Frame.raw, FrameKind.ofByte?_byte]

theorem receiveAll_layout (table : Table) {frame : Frame} (fits : frame.Fits) (rest : Bytes)
    (goes_on : frame.kind ≠ .close) :
    table.receiveAll (frame.layout ++ rest) = (table.receiveFrame frame).receiveAll rest := by
  rw [table.receiveAll_of_split (RawFrame.split?_layout fits rest), RawFrame.ending?_raw goes_on,
    Frame.raw, FrameKind.ofByte?_byte]
  rfl

theorem receiveAll_close (table : Table) {frame : Frame} (fits : frame.Fits) (rest : Bytes)
    (ends : frame.kind = .close) :
    ∃ code reason, table.receiveAll (frame.layout ++ rest) =
      (table.markClosed code reason, rest, true) := by
  obtain ⟨code, reason, ending⟩ := RawFrame.ending?_raw_close ends
  refine ⟨code, reason, ?_⟩
  rw [table.receiveAll_of_split (RawFrame.split?_layout fits rest), ending]

/-- Whatever beginning of some frames arrives, the frames cut from it are the first of them, up to
one which ends the session. -/
theorem received_of_front (table : Table) {frames : List Frame}
    (fits : ∀ frame ∈ frames, frame.Fits) {remnant bytes : Bytes} (incomplete : Incomplete remnant)
    (front : bytes <+: layouts frames ++ remnant) :
    applied bytes <+: frames ∧ Received table bytes (applied bytes) := by
  induction frames generalizing table bytes with
  | nil =>
      -- Only a part of a frame is left, and what has arrived of it is a part again.
      have none_complete := (incomplete.of_front front).split?
      rw [applied_of_incomplete none_complete]
      exact ⟨List.prefix_rfl, .waiting bytes rfl (table.receiveAll_of_incomplete none_complete)⟩
  | cons frame frames ih =>
      have frame_fits := fits frame List.mem_cons_self
      rw [layouts_cons, List.append_assoc] at front
      by_cases complete : frame.layout <+: bytes
      · obtain ⟨rest, rfl⟩ := complete
        have rest_front : rest <+: layouts frames ++ remnant :=
          (List.prefix_append_right_inj _).mp front
        rw [applied_layout frame_fits]
        by_cases ends : frame.kind = .close
        · obtain ⟨code, reason, result⟩ := receiveAll_close table frame_fits rest ends
          rw [if_pos ends]
          exact ⟨List.nil_prefix, .ended code reason rest result⟩
        · obtain ⟨later, received⟩ := ih (table.receiveFrame frame)
            (fun frame among => fits frame (List.mem_cons_of_mem _ among)) rest_front
          rw [if_neg ends]
          refine ⟨(List.prefix_cons_inj frame).mpr later, ?_⟩
          cases received with
          | waiting unread cut result =>
              refine .waiting unread ?_ ?_
              · rw [layouts_cons, List.append_assoc, ← cut]
              · rw [receiveAll_layout table frame_fits rest ends, result]
                rfl
          | ended code reason unread result =>
              refine .ended code reason unread ?_
              rw [receiveAll_layout table frame_fits rest ends, result]
              rfl
      · obtain ⟨back, cut⟩ := (List.prefix_or_prefix_of_prefix (List.prefix_append frame.layout _)
          front).resolve_left complete
        have missing : back ≠ [] := by
          rintro rfl
          exact complete ⟨[], by simpa using cut.symm⟩
        have none_complete := RawFrame.split?_incomplete frame_fits cut.symm missing
        rw [applied_of_incomplete none_complete]
        exact ⟨List.nil_prefix, .waiting bytes rfl (table.receiveAll_of_incomplete none_complete)⟩

end Mux
end TunnelProxy
