import TunnelProxy.Session.CloseCode
import TunnelProxy.Wire.Reader

/-!
# Frames

Many streams share one connection by cutting what they send into frames.  A frame is its kind (one
byte), the number of its stream (four bytes), the length of its payload (two bytes) and the payload.
-/

namespace TunnelProxy
namespace Mux

/-- The kinds of frames. -/
inductive FrameKind where
  /-- A new stream. -/
  | opening
  /-- Bytes of a stream. -/
  | data
  /-- No more bytes of a stream follow. -/
  | fin
  /-- The end of the session: a code of two bytes and a reason. -/
  | close
  deriving DecidableEq, Inhabited

namespace FrameKind

/-- The number of a kind. -/
def byte : FrameKind → UInt8
  | opening => 0
  | data => 1
  | fin => 2
  | close => 3

/-- The kind with a number. -/
def ofByte? (code : UInt8) : Option FrameKind :=
  if code = 0 then some opening
  else if code = 1 then some data
  else if code = 2 then some fin
  else if code = 3 then some close
  else none

end FrameKind

/-- A frame as it is sent. -/
structure Frame where
  /-- The kind. -/
  kind : FrameKind
  /-- The number of the stream, zero if there is none. -/
  id : UInt32
  /-- The payload. -/
  payload : Bytes := []
  deriving DecidableEq, Inhabited

/-- The longest payload which is sent. -/
def maximumPayload : Nat := 16384

/-- The number of bytes before the payload. -/
def headerLength : Nat := 7

namespace Frame

/-- A frame in bytes. -/
def layout (frame : Frame) : Bytes :=
  frame.kind.byte :: Wire.bigEndian 4 frame.id.toNat ++
    Wire.word16 (UInt16.ofNat frame.payload.length) ++ frame.payload

/-- The frame which ends a session.  A reason which is too long is cut off. -/
def closing (code : CloseCode) (reason : String) : Frame :=
  { kind := .close
    id := 0
    payload :=
      Wire.word16 code.code ++ (Text.Utf8.encode reason).take (maximumPayload - 2) }

end Frame

/-- A frame as it arrives; its kind may have no meaning. -/
structure RawFrame where
  /-- The number of the kind. -/
  kind : UInt8
  /-- The number of the stream. -/
  id : UInt32
  /-- The payload. -/
  payload : Bytes
  deriving DecidableEq, Inhabited

/-- Split a number of bytes off a sequence, if there are as many. -/
def splitExactly? (count : Nat) (bytes : Bytes) : Option (Bytes × Bytes) :=
  let front := bytes.take count
  if front.length = count then some (front, bytes.drop count) else none

namespace RawFrame

/-- Split the first frame off a byte sequence, if it is complete. -/
def split? (bytes : Bytes) : Option (RawFrame × Bytes) := do
  let (header, rest) ← splitExactly? headerLength bytes
  let id := UInt32.ofNat (Wire.ofBigEndian ((header.drop 1).take 4))
  let (payload, rest) ← splitExactly? (Wire.ofBigEndian (header.drop 5)) rest
  return (⟨header.headD 0, id, payload⟩, rest)

/-- What is left after a frame is shorter. -/
theorem length_lt_of_split? {bytes rest : Bytes} {frame : RawFrame}
    (split : split? bytes = some (frame, rest)) : rest.length < bytes.length := by
  unfold split? splitExactly? at split
  simp only [Option.bind_eq_bind, Option.pure_def] at split
  split at split
  · rename_i front
    simp only [Option.bind_some] at split
    split at split
    · simp only [Option.bind_some, Option.some.injEq, Prod.mk.injEq] at split
      obtain ⟨_, rfl⟩ := split
      simp only [List.length_take, headerLength] at front
      simp only [List.length_drop, headerLength]
      omega
    · simp at split
  · simp at split

end RawFrame
end Mux
end TunnelProxy
