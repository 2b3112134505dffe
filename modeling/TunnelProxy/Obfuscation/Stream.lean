import TunnelProxy.Obfuscation.Keystream
import TunnelProxy.Stream.Endpoint

/-!
# Obfuscated streams

Each direction of an obfuscated stream keeps its own position in the keystream, and moves it by the
bytes which were really read or taken.  Splitting a stream copies the positions into the halves.
-/

namespace TunnelProxy

/-- The state of an obfuscated stream, or of its two halves after splitting. -/
structure ObfuscatedStream where
  /-- The keystream of both directions. -/
  keystream : Keystream
  /-- Number of bytes read so far. -/
  readPosition : Nat := 0
  /-- Number of bytes written so far. -/
  writePosition : Nat := 0

namespace ObfuscatedStream

/-- Read at most `count` bytes through the keystream. -/
def read (stream : ObfuscatedStream) (count : Nat) (endpoint : Endpoint) :
    Option (Except IoError Bytes × ObfuscatedStream × Endpoint) :=
  match endpoint.read count with
  | none => none
  | some (.error error, after) => some (.error error, stream, after)
  | some (.ok bytes, after) =>
      some (.ok (stream.keystream.apply stream.readPosition bytes),
        { stream with readPosition := stream.readPosition + bytes.length }, after)

/-- Write once through the keystream; bytes which are not taken do not move the position. -/
def write : ObfuscatedStream × Endpoint → Bytes → Except IoError Nat × ObfuscatedStream × Endpoint
  | (stream, endpoint), bytes =>
      match endpoint.write (stream.keystream.apply stream.writePosition bytes) with
      | (.error error, after) => (.error error, stream, after)
      | (.ok count, after) =>
          (.ok count, { stream with writePosition := stream.writePosition + count }, after)

/-- Write all bytes through the keystream. -/
def send (stream : ObfuscatedStream) (bytes : Bytes) (endpoint : Endpoint) :
    Option (Except IoError Unit × ObfuscatedStream × Endpoint) :=
  sendAll write (stream, endpoint) bytes

end ObfuscatedStream
end TunnelProxy
