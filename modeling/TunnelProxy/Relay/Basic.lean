import TunnelProxy.Relay.Pipe

/-!
# Relays

A relay joins two streams, the near one and the far one, by a pipe in each direction.  The first
pipe which ends ends the relay: both streams are closed, which makes the other pipe end too, and the
result of the relay is that of the pipe which was first.
-/

namespace TunnelProxy

/-- The two directions of a relay. -/
inductive Direction where
  /-- From the near stream to the far stream. -/
  | outbound
  /-- From the far stream to the near stream. -/
  | incoming
  deriving DecidableEq, Inhabited

/-- What a relay does besides its pipes. -/
inductive RelayStage where
  /-- Wait for the first pipe to end. -/
  | waiting
  /-- Close the near stream. -/
  | closingNear
  /-- Close the far stream. -/
  | closingFar
  /-- Wait for the other pipe to end. -/
  | joining
  deriving DecidableEq, Inhabited

/-- The state of a relay. -/
structure Relay where
  /-- The pipe from the near stream to the far stream. -/
  outbound : Relay.Pipe := .reading
  /-- The pipe from the far stream to the near stream. -/
  incoming : Relay.Pipe := .reading
  /-- How long nothing may move; only the outbound pipe watches over this. -/
  idle : Option Nat
  /-- When something moved last. -/
  activity : Nat
  /-- What is done besides the pipes. -/
  stage : RelayStage := .waiting
  /-- How the first pipe ended. -/
  first : Option (Except Error Unit) := none

namespace Relay

/-- The pipe of a direction. -/
def pipe (relay : Relay) : Direction → Pipe
  | .outbound => relay.outbound
  | .incoming => relay.incoming

/-- How long a pipe lets nothing move. -/
def idleOf (relay : Relay) : Direction → Option Nat
  | .outbound => relay.idle
  | .incoming => none

/-- A pipe has gone on; if it is the first to end, the streams are closed next. -/
def update (relay : Relay) (direction : Direction) (pipe : Pipe) : Relay :=
  let relay :=
    match direction with
    | .outbound => { relay with outbound := pipe }
    | .incoming => { relay with incoming := pipe }
  match relay.first, pipe.result? with
  | none, some result => { relay with first := some result, stage := .closingNear }
  | _, _ => relay

/-- Something moved now, or nothing did. -/
def note (relay : Relay) (now : Nat) (moved : Bool) : Relay :=
  if moved then { relay with activity := now } else relay

/-- The relay after a pipe has read. -/
def afterRead (relay : Relay) (direction : Direction) (now : Nat)
    (reply : Except IoError Bytes) : Relay :=
  let (pipe, moved) := Pipe.afterRead (relay.idleOf direction) (now - relay.activity) reply
  (relay.update direction pipe).note now moved

/-- The relay after a pipe has written. -/
def afterWrite (relay : Relay) (direction : Direction) (rest : Bytes)
    (reply : Except IoError Nat) : Relay :=
  relay.update direction (Pipe.afterWrite rest reply)

/-- The relay after a pipe has flushed behind a chunk. -/
def afterFlush (relay : Relay) (direction : Direction) (now : Nat)
    (reply : Except IoError Unit) : Relay :=
  let (pipe, moved) := Pipe.afterFlush reply
  (relay.update direction pipe).note now moved

/-- The relay after a pipe has flushed at its end. -/
def afterLastFlush (relay : Relay) (direction : Direction) (reply : Except IoError Unit) : Relay :=
  relay.update direction (Pipe.afterLastFlush reply)

/-- The relay after it has closed a stream. -/
def afterClose (relay : Relay) : Relay :=
  match relay.stage with
  | .closingNear => { relay with stage := .closingFar }
  | .closingFar => { relay with stage := .joining }
  | _ => relay

/-- The result of a relay both pipes of which have ended. -/
def result? (relay : Relay) : Option (Except Error Unit) :=
  match relay.stage, relay.outbound.result?, relay.incoming.result? with
  | .joining, some _, some _ => relay.first
  | _, _, _ => none

end Relay
end TunnelProxy
