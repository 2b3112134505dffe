import TunnelProxy.Scenario.Basic

/-!
# Streams of a scenario

A stream is a connection or a stream of a multiplexed session.  There is no answer to a read as long
as nothing has arrived but may still arrive.
-/

namespace TunnelProxy
namespace Scenario

/-- An answer together with the state after it, if there is one. -/
def settled {α : Type} : Option α × Scenario → Option (α × Scenario)
  | (some value, scenario) => some (value, scenario)
  | (none, _) => none

/-- Do something to a connection which may have to wait. -/
def awaitConnection {α : Type} (scenario : Scenario) (number : Nat)
    (action : Endpoint → Option (α × Endpoint)) : Option (α × Scenario) :=
  settled <| scenario.onConnection number fun endpoint =>
    match action endpoint with
    | some (value, after) => (some value, after)
    | none => (none, endpoint)

/-- Read at most `count` bytes. -/
def read (scenario : Scenario) (stream : StreamRef) (count : Nat) :
    Option (Except IoError Bytes × Scenario) :=
  match stream with
  | .connection number => scenario.awaitConnection number fun endpoint => endpoint.read count
  | .shared number id => settled <| scenario.onSession number none fun session => session.read id count

/-- Write once. -/
def write (scenario : Scenario) (stream : StreamRef) (bytes : Bytes) :
    Except IoError Nat × Scenario :=
  match stream with
  | .connection number => scenario.onConnection number fun endpoint => endpoint.write bytes
  | .shared number id =>
      scenario.onSession number (.error (.ofKind .notConnected)) fun session =>
        session.write id bytes

/-- Write all bytes. -/
def send (scenario : Scenario) (stream : StreamRef) (bytes : Bytes) :
    Option (Except IoError Unit × Scenario) :=
  match stream with
  | .connection number => scenario.awaitConnection number fun endpoint => endpoint.send bytes
  | .shared number id =>
      some <| scenario.onSession number (.error (.ofKind .notConnected)) fun session =>
        session.send id bytes

/-- Limit the time of later reads. -/
def setLimit (scenario : Scenario) (stream : StreamRef) (time : Option Nat) :
    Except IoError Unit × Scenario :=
  match stream with
  | .connection number => scenario.onConnection number fun endpoint => endpoint.setTimeLimit time
  | .shared number id =>
      scenario.onSession number (.ok ()) fun session => (.ok (), session.setLimit id time)

/-- Read exactly `count` bytes.  Under a deadline every read first gets what is left of the time as
its limit; a deadline of zero has always passed. -/
def receive (scenario : Scenario) (stream : StreamRef) (count : Nat) (deadline : Option Nat) :
    Option (Except IoError Bytes × Scenario) :=
  let plain (scenario : Scenario) : Option (Except IoError Bytes × Scenario) :=
    match stream with
    | .connection number => scenario.awaitConnection number fun endpoint => endpoint.receive count
    | .shared number id =>
        settled <| scenario.onSession number none fun session => session.readExactly id count
  match deadline with
  | none => plain scenario
  | some time =>
      if count = 0 then some (.ok [], scenario)
      else if time = 0 then some (.error ⟨.timedOut, "socks negotiation timed out"⟩, scenario)
      else
        match scenario.setLimit stream (some time) with
        | (.ok (), scenario) => plain scenario
        | (.error cause, scenario) =>
            if cause.kind = .interrupted then none else some (.error cause, scenario)

/-- Make two halves. -/
def split (scenario : Scenario) : StreamRef → Except IoError Unit
  | .connection number => (scenario.connection number).split
  | .shared _ _ => .ok ()

/-- End both directions. -/
def closeStream (scenario : Scenario) (stream : StreamRef) : Scenario :=
  match stream with
  | .connection number => (scenario.onConnection number Endpoint.close).2
  | .shared number id =>
      (scenario.onSession number () fun session => ((), (session.closeStream id).2)).2

/-- Give a stream up.  That closes streams of sessions; a connection shows nothing of it. -/
def release (scenario : Scenario) (stream : StreamRef) : Scenario :=
  match stream with
  | .connection _ => scenario
  | .shared _ _ => scenario.closeStream stream

/-- What a relay does before bytes are copied. -/
def prepareRelay (scenario : Scenario) (near far : StreamRef) (idle : Option Nat) :
    Except Error Unit × Scenario :=
  let (limited, scenario) := scenario.setLimit near idle
  let prepared : Except IoError Unit := do
    limited
    scenario.split near
    scenario.split far
  (prepared.mapError Error.io, scenario)

/-- Whether an operation is to be repeated. -/
def isInterrupted {α : Type} : Except IoError α → Bool
  | .error cause => cause.kind = .interrupted
  | .ok _ => false

/-- One step of a pipe of a relay, if it does not have to wait.  A write which is interrupted would be
repeated in the same state, so it waits until something else happens. -/
def advancePipe (scenario : Scenario) (near far : StreamRef) (relay : Relay)
    (direction : Direction) : Option (Relay × Scenario) :=
  let (source, destination) :=
    match direction with
    | .outbound => (near, far)
    | .incoming => (far, near)
  match relay.pipe direction with
  | .reading =>
      (scenario.read source Relay.chunkLimit).map fun (reply, scenario) =>
        (relay.afterRead direction 0 reply, scenario)
  | .writing rest =>
      let (reply, scenario) := scenario.write destination rest
      if isInterrupted reply then none else some (relay.afterWrite direction rest reply, scenario)
  | .flushing => some (relay.afterFlush direction 0 (.ok ()), scenario)
  | .finishing => some (relay.afterLastFlush direction (.ok ()), scenario)
  | .ended _ => none

/-- Close the next stream of a relay one pipe of which has ended. -/
def advanceClosing (scenario : Scenario) (near far : StreamRef) (relay : Relay) :
    Option (Relay × Scenario) :=
  match relay.stage with
  | .closingNear => some (relay.afterClose, scenario.closeStream near)
  | .closingFar => some (relay.afterClose, scenario.closeStream far)
  | _ => none

/-- One step of a relay.  Pipes which can go on do so before the streams are closed. -/
def advanceRelay (scenario : Scenario) (near far : StreamRef) (relay : Relay) :
    Option (Relay × Scenario) :=
  (scenario.advancePipe near far relay .outbound).orElse fun _ =>
    (scenario.advancePipe near far relay .incoming).orElse fun _ =>
      scenario.advanceClosing near far relay

end Scenario
end TunnelProxy
