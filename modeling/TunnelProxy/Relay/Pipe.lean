import TunnelProxy.Error
import TunnelProxy.Text.Utf8

/-!
# Pipes

A pipe copies bytes from a source to a destination: it reads a chunk, writes all of it, flushes the
destination and reads again.  The end of the source is a proper end, and every failure but an
interruption or an expired read ends the pipe too.  Expired reads end it only if it watches over
idleness and nothing has moved for long enough.
-/

namespace TunnelProxy
namespace Relay

/-- The most bytes of a chunk. -/
def chunkLimit : Nat := 32768

/-- What a pipe is about to do. -/
inductive Pipe where
  /-- Read the next chunk. -/
  | reading
  /-- Write what is left of a chunk. -/
  | writing (rest : Bytes)
  /-- Flush the destination after a chunk. -/
  | flushing
  /-- Flush the destination after the last chunk. -/
  | finishing
  /-- Nothing any more. -/
  | ended (result : Except Error Unit)

namespace Pipe

/-- How a pipe ended, if it did. -/
def result? : Pipe → Option (Except Error Unit)
  | ended result => some result
  | _ => none

/-- Go on after a read.  `quiet` tells how long nothing has moved, and `idle` how long that may be.
The second component tells whether something moved. -/
def afterRead (idle : Option Nat) (quiet : Nat) : Except IoError Bytes → Pipe × Bool
  | .ok [] => (finishing, false)
  | .ok chunk => (writing chunk, true)
  | .error cause =>
      if cause.kind = .interrupted then (reading, false)
      else if cause.kind.isTimeout then
        match idle with
        | some limit =>
            if limit ≤ quiet then (ended (.error .idleTimeout), false) else (reading, false)
        | none => (reading, false)
      else (ended (.error (.io cause)), false)

/-- Go on after a write which took a number of bytes. -/
def afterWrite (rest : Bytes) : Except IoError Nat → Pipe
  | .ok 0 => ended (.error (.io .stuck))
  | .ok count =>
      match rest.drop count with
      | [] => flushing
      | rest => writing rest
  | .error cause =>
      if cause.kind = .interrupted then writing rest else ended (.error (.io cause))

/-- Go on after the flush which follows a chunk.  The second component tells whether something
moved. -/
def afterFlush : Except IoError Unit → Pipe × Bool
  | .ok () => (reading, true)
  | .error cause => (ended (.error (.io cause)), false)

/-- Go on after the flush which follows the last chunk. -/
def afterLastFlush : Except IoError Unit → Pipe
  | .ok () => ended (.ok ())
  | .error cause => ended (.error (.io cause))

end Pipe
end Relay
end TunnelProxy
