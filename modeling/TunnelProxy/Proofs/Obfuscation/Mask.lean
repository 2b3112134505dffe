import TunnelProxy.Obfuscation.Endpoint
import TunnelProxy.Proofs.Stream.Endpoint

/-!
# Endpoints behind a keystream

What an endpoint meets and remembers can be combined with a keystream: everything which arrives at
the position where the reader is going to be, everything which was written from the start.  An
obfuscated stream on such an endpoint cannot be told from the plain endpoint.
-/

namespace TunnelProxy

/-! ## Masks -/

namespace Keystream

open Endpoint (readFrom bytesOf countOf)

variable (stream : Keystream) (position : Nat)

theorem apply_drop (bytes : Bytes) (count : Nat) :
    (stream.apply position bytes).drop count =
      stream.apply (position + (bytes.take count).length) (bytes.drop count) := by
  by_cases within : count ≤ bytes.length
  · conv_lhs => rw [← List.take_append_drop count bytes, apply_append]
    exact List.drop_left' (by simp [within])
  · have nothing {items : Bytes} (size : items.length = bytes.length) : items.drop count = [] :=
      List.drop_of_length_le (by omega)
    rw [nothing (stream.apply_length position bytes), nothing rfl]
    rfl

/-- Arrivals whose bytes are combined with the keystream from a position on. -/
def arrivals : Nat → List Arrival → List Arrival
  | _, [] => []
  | position, .data bytes :: rest =>
      .data (stream.apply position bytes) :: arrivals (position + bytes.length) rest
  | position, arrival :: rest => arrival :: arrivals position rest

/-- Pieces, most recent first, which are combined with the keystream from the start. -/
def pieces : List Bytes → List Bytes
  | [] => []
  | piece :: earlier => stream.apply earlier.reverse.flatten.length piece :: pieces earlier

/-- An endpoint behind the keystream, the reader of which is at a position. -/
def mask (endpoint : Endpoint) : Endpoint :=
  { endpoint with
    arrivals := stream.arrivals position endpoint.arrivals
    pieces := stream.pieces endpoint.pieces }

theorem arrivals_append (first second : List Arrival) :
    stream.arrivals position (first ++ second) =
      stream.arrivals position first ++
        stream.arrivals (position + (Endpoint.unread first).length) second := by
  induction first generalizing position with
  | nil => rfl
  | cons arrival rest ih =>
      cases arrival <;> simp [arrivals, Endpoint.unread, ih, Nat.add_assoc]

theorem unread_arrivals (items : List Arrival) :
    Endpoint.unread (stream.arrivals position items) =
      stream.apply position (Endpoint.unread items) := by
  induction items generalizing position with
  | nil => rfl
  | cons arrival rest ih =>
      cases arrival with
      | data bytes => rw [arrivals, Endpoint.unread_data, ih, Endpoint.unread_data, apply_append]
      | _ => exact ih position

/-- Bytes which are read behind a keystream are the plain ones combined with it. -/
theorem readFrom_arrivals (written count : Nat) (items : List Arrival) :
    readFrom written count (stream.arrivals position items) =
      (readFrom written count items).map fun (result, rest) =>
        (result.map (stream.apply position),
          stream.arrivals (position + (bytesOf result).length) rest) := by
  fun_induction readFrom written count items with
  | case1 => rfl
  | case2 rest ih => exact ih
  | case3 byte bytes rest =>
      have nonempty : stream.apply position (byte :: bytes) ≠ [] := by
        rw [← List.length_pos_iff, apply_length]
        exact Nat.zero_lt_succ _
      rw [arrivals, Endpoint.readFrom_data nonempty, ← apply_take, apply_drop]
      have behind : position + (byte :: bytes).length =
          position + ((byte :: bytes).take count).length + ((byte :: bytes).drop count).length := by
        rw [Nat.add_assoc, ← List.length_append, List.take_append_drop]
      rw [behind]
      rfl
  | case4 needed rest reached ih => exact (if_pos reached).trans ih
  | case5 needed rest missing => exact if_neg missing
  | case6 => rfl
  | case7 => rfl
  | case8 => rfl

@[simp] theorem written_mask (endpoint : Endpoint) :
    (stream.mask position endpoint).written = stream.apply 0 endpoint.written := by
  have combined (pieces : List Bytes) :
      (stream.pieces pieces).reverse.flatten = stream.apply 0 pieces.reverse.flatten := by
    induction pieces with
    | nil => rfl
    | cons piece earlier ih => simp [Keystream.pieces, ih, apply_append]
  exact combined endpoint.pieces

/-- Reading behind a keystream, the reader goes on by what it has read. -/
theorem read_mask (endpoint : Endpoint) (count : Nat) :
    (stream.mask position endpoint).read count =
      (endpoint.read count).map fun (result, after) =>
        (result.map (stream.apply position),
          stream.mask (position + (bytesOf result).length) after) := by
  unfold Endpoint.read
  by_cases closed : endpoint.isClosed = true
  · rw [if_pos closed, if_pos (by exact closed)]
    rfl
  · rw [if_neg closed, if_neg (by exact closed)]
    simp only [mask, readFrom_arrivals, Option.map_map]
    rfl

theorem mask_remember (endpoint : Endpoint) (bytes : Bytes) :
    (stream.mask position endpoint).remember (stream.apply endpoint.written.length bytes) =
      stream.mask position (endpoint.remember bytes) := by
  simp [mask, Endpoint.remember, pieces, Endpoint.written]

/-- Writing behind a keystream what has been combined with it at the right position. -/
theorem write_mask (endpoint : Endpoint) (bytes : Bytes) :
    (stream.mask position endpoint).write (stream.apply endpoint.written.length bytes) =
      ((endpoint.write bytes).1, stream.mask position (endpoint.write bytes).2) := by
  have room : (stream.mask position endpoint).room = endpoint.room := rfl
  unfold Endpoint.write
  rw [room]
  cases endpoint.room with
  | error error => rfl
  | ok bound =>
      cases bound with
      | none => simp only [apply_length, mask_remember]
      | some count => simp only [← apply_take, apply_length, mask_remember]

end Keystream

/-! ## Streams behind masks -/

namespace ObfuscatedStream

open Endpoint (bytesOf countOf)

variable (keystream : Keystream) (received : Nat) (endpoint : Endpoint)

/-- The obfuscated stream which undoes a mask. -/
def unmasking : ObfuscatedStream := ⟨keystream, received, endpoint.written.length⟩

/-- A read through the keystream gives what a plain read gives. -/
theorem read_unmasking (count : Nat) :
    (unmasking keystream received endpoint).read count (keystream.mask received endpoint) =
      (endpoint.read count).map fun (result, after) =>
        (result, unmasking keystream (received + (bytesOf result).length) after,
          keystream.mask (received + (bytesOf result).length) after) := by
  rw [read, Keystream.read_mask]
  cases reads : endpoint.read count with
  | none => rfl
  | some outcome =>
      obtain ⟨result, after⟩ := outcome
      have written := Endpoint.written_of_read reads
      cases result with
      | error error => simp [unmasking, bytesOf, Except.map, written]
      | ok bytes => simp [unmasking, bytesOf, Except.map, written, Keystream.apply_apply]

/-- A write through the keystream comes out as a plain write does. -/
theorem write_unmasking (bytes : Bytes) :
    write (unmasking keystream received endpoint, keystream.mask received endpoint) bytes =
      ((endpoint.write bytes).1, unmasking keystream received (endpoint.write bytes).2,
        keystream.mask received (endpoint.write bytes).2) := by
  have masked := keystream.write_mask received endpoint bytes
  have written := endpoint.written_write bytes
  unfold write unmasking
  simp only [masked]
  cases wrote : (endpoint.write bytes).1 with
  | error error =>
      rw [wrote, countOf, List.take_zero, List.append_nil] at written
      simp only [written]
  | ok count =>
      have size : (bytes.take count).length = count :=
        List.length_take_of_le (Endpoint.write_le wrote)
      rw [wrote, countOf] at written
      simp only [written, List.length_append, size]

end ObfuscatedStream
end TunnelProxy
