import TunnelProxy.Error
import TunnelProxy.Text.Utf8

/-!
# Readers of messages

A reader asks for a number of bytes at a time and ends with a value or a failure.  It says nothing
about where the bytes come from: `Reader.run` takes them from a byte sequence, and a session takes
them from a connection, in whatever pieces they arrive.
-/

namespace TunnelProxy
namespace Wire

/-- A reader of a value. -/
inductive Reader (α : Type) where
  /-- The value has been read. -/
  | done (value : α)
  /-- The bytes read so far are no message. -/
  | fail (error : Error)
  /-- Take exactly `count` bytes and go on. -/
  | take (count : Nat) (next : Bytes → Reader α)

namespace Reader

/-- Read one thing after another. -/
def bind {α β : Type} : Reader α → (α → Reader β) → Reader β
  | done value, f => f value
  | fail error, _ => fail error
  | take count next, f => take count fun bytes => (next bytes).bind f

instance : Monad Reader where
  pure := done
  bind := bind

/-- Read from a byte sequence.  The second component is what is left of it; a sequence which is
too short is used up. -/
def run {α : Type} : Reader α → Bytes → Except Error α × Bytes
  | done value, input => (.ok value, input)
  | fail error, input => (.error error, input)
  | take count next, input =>
      if count ≤ input.length then (next (input.take count)).run (input.drop count)
      else (.error (.io .truncated), [])

/-- Accept a value or fail. -/
def ofExcept {α : Type} : Except Error α → Reader α
  | .ok value => done value
  | .error error => fail error

/-- One byte. -/
def byte : Reader UInt8 :=
  take 1 fun bytes => done (bytes.headD 0)

/-- A number of bytes. -/
def bytes (count : Nat) : Reader Bytes :=
  take count done

end Reader

/-- The number written in big endian order. -/
def ofBigEndian (bytes : Bytes) : Nat :=
  bytes.foldl (fun value byte => value * 256 + byte.toNat) 0

/-- The `width` bytes of a number in big endian order. -/
def bigEndian : Nat → Nat → Bytes
  | 0, _ => []
  | width + 1, value => bigEndian width (value / 256) ++ [UInt8.ofNat value]

namespace Reader

/-- Two bytes, most significant first. -/
def word16 : Reader UInt16 :=
  take 2 fun bytes => done (UInt16.ofNat (ofBigEndian bytes))

/-- Eight bytes, most significant first. -/
def word64 : Reader UInt64 :=
  take 8 fun bytes => done (UInt64.ofNat (ofBigEndian bytes))

/-- Bytes after their number, which is one byte. -/
def short : Reader Bytes := do
  let count ← byte
  bytes count.toNat

/-- Bytes after their number, which is two bytes. -/
def long : Reader Bytes := do
  let count ← word16
  bytes count.toNat

/-- A text after its length in bytes, which is two bytes. -/
def longText : Reader String := do
  return Text.Utf8.decode (← long)

/-- A truth value: zero or one. -/
def bool : Reader Bool := do
  let code ← byte
  if code = 0 then return false
  else if code = 1 then return true
  else fail (.messageFormat s!"invalid bool: {code.toNat}")

end Reader

/-- Two bytes, most significant first. -/
def word16 (value : UInt16) : Bytes := bigEndian 2 value.toNat

/-- Eight bytes, most significant first. -/
def word64 (value : UInt64) : Bytes := bigEndian 8 value.toNat

/-- A truth value as one byte. -/
def bool (value : Bool) : Bytes := [if value then 1 else 0]

/-- Bytes after their number, which has to fit into one byte. -/
def short (bytes : Bytes) : Except Error Bytes :=
  if bytes.length ≤ 0xFF then .ok (UInt8.ofNat bytes.length :: bytes)
  else .error (.io ⟨.invalidInput, s!"too long for a socks field: {bytes.length} bytes"⟩)

/-- Bytes after their number, which has to fit into two bytes. -/
def long (bytes : Bytes) : Except Error Bytes :=
  if bytes.length ≤ 0xFFFF then .ok (word16 (UInt16.ofNat bytes.length) ++ bytes)
  else .error (.io ⟨.invalidInput, s!"too long for a tunnel field: {bytes.length} bytes"⟩)

end Wire
end TunnelProxy
