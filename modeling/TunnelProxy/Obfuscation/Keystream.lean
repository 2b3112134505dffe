import TunnelProxy.Error
import TunnelProxy.Text.Utf8

/-!
# Keystreams

A key, repeated for ever, is combined with the bytes of a stream by exclusive or.  The result
depends only on the position of each byte and has the same length, and a second application at the
same position undoes the first.
-/

namespace TunnelProxy

/-- A repeating key. -/
structure Keystream where
  /-- The bytes of the key. -/
  key : Array UInt8
  /-- A key has at least one byte. -/
  size_pos : 0 < key.size

namespace Keystream

/-- The stream of a key, which must not be empty. -/
def ofKey (key : Bytes) : Except Error Keystream :=
  if h : 0 < key.toArray.size then .ok ⟨key.toArray, h⟩ else .error .emptyObfuscationKey

/-- The byte at a position. -/
def byte (stream : Keystream) (position : Nat) : UInt8 :=
  have bound : position % stream.key.size < stream.key.size := Nat.mod_lt _ stream.size_pos
  stream.key[position % stream.key.size]

/-- Combine bytes with the stream from a position on. -/
def apply (stream : Keystream) (position : Nat) (bytes : Bytes) : Bytes :=
  (bytes.zipIdx position).map fun (value, index) => value ^^^ stream.byte index

/-- The text of a keystream, which does not tell the key. -/
def text (stream : Keystream) : String :=
  s!"XorObfuscator(<{stream.key.size} bytes>)"

end Keystream
end TunnelProxy
