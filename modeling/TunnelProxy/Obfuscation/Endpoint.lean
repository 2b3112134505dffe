import TunnelProxy.Obfuscation.Stream

/-!
# Obfuscated endpoints

An endpoint which is used through an obfuscated stream.  Once the stream has been split, the newest
halves are used; splitting again starts from the positions of the stream itself, which the halves
have not moved.
-/

namespace TunnelProxy

/-- An endpoint and the obfuscated stream on it. -/
structure ObfuscatedEndpoint where
  /-- The stream itself. -/
  whole : ObfuscatedStream
  /-- Its newest halves. -/
  halves : Option ObfuscatedStream := none
  /-- The endpoint. -/
  endpoint : Endpoint

namespace ObfuscatedEndpoint

/-- What is used for reading and writing. -/
def current (state : ObfuscatedEndpoint) : ObfuscatedStream := state.halves.getD state.whole

/-- The state after reading or writing. -/
def update (state : ObfuscatedEndpoint) (stream : ObfuscatedStream) (endpoint : Endpoint) :
    ObfuscatedEndpoint :=
  match state.halves with
  | some _ => { state with halves := some stream, endpoint }
  | none => { state with whole := stream, endpoint }

/-- Read at most `count` bytes.  There is no answer while nothing arrives. -/
def read (state : ObfuscatedEndpoint) (count : Nat) :
    Option (Except IoError Bytes × ObfuscatedEndpoint) :=
  (state.current.read count state.endpoint).map fun (result, stream, endpoint) =>
    (result, state.update stream endpoint)

/-- Write once. -/
def write (state : ObfuscatedEndpoint) (bytes : Bytes) : Except IoError Nat × ObfuscatedEndpoint :=
  let (result, stream, endpoint) := ObfuscatedStream.write (state.current, state.endpoint) bytes
  (result, state.update stream endpoint)

/-- Write all bytes. -/
def send (state : ObfuscatedEndpoint) (bytes : Bytes) :
    Option (Except IoError Unit × ObfuscatedEndpoint) :=
  (state.current.send bytes state.endpoint).map fun (result, stream, endpoint) =>
    (result, state.update stream endpoint)

/-- Split the stream. -/
def split (state : ObfuscatedEndpoint) : Except IoError Unit × ObfuscatedEndpoint :=
  match state.endpoint.split with
  | .ok () => (.ok (), { state with halves := some state.whole })
  | .error cause => (.error cause, state)

/-- End both directions. -/
def close (state : ObfuscatedEndpoint) : Except IoError Unit × ObfuscatedEndpoint :=
  let (result, endpoint) := state.endpoint.close
  (result, { state with endpoint })

/-- Limit the time of every later read and write. -/
def setTimeLimit (state : ObfuscatedEndpoint) (limit : Option Nat) :
    Except IoError Unit × ObfuscatedEndpoint :=
  let (result, endpoint) := state.endpoint.setTimeLimit limit
  (result, { state with endpoint })

end ObfuscatedEndpoint
end TunnelProxy
