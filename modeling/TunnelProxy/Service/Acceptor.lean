import TunnelProxy.Duration
import TunnelProxy.Error

/-!
# Accepting connections

The acceptor looks for the request to stop, waits for a connection for a while, and starts again.
It hands out one connection after another until it is asked to stop, nobody can ask any more, or
waiting fails for a reason which does not go away by itself.
-/

namespace TunnelProxy
namespace Service

/-- What the acceptor finds where the request to stop would be. -/
inductive StopRequest where
  /-- Nothing. -/
  | none
  /-- The request. -/
  | sent
  /-- Nobody is left who could send it. -/
  | gone
  deriving DecidableEq, Inhabited

/-- What the system says when the acceptor tries to get a connection. -/
structure Attempt (α : Type) where
  /-- How many listeners have a connection when waiting is over, or why waiting failed. -/
  ready : Except IoError Nat
  /-- The connection, or why it is lost. -/
  connection : Except IoError α
  /-- Whether the time of its reads can be limited. -/
  readLimit : Except IoError Unit
  /-- Whether the time of its writes can be limited. -/
  writeLimit : Except IoError Unit

/-- Wait for a connection, no longer than the limit says, and limit its reads and writes.  The first
thing which fails says why there is no connection. -/
def Attempt.outcome {α : Type} (limit : Option Duration) (attempt : Attempt α) :
    Except IoError α := do
  let _ ← Duration.pollLimit limit
  let ready ← attempt.ready
  if ready = 0 then throw ⟨.timedOut, "poll accept"⟩
  let connection ← attempt.connection
  attempt.readLimit
  attempt.writeLimit
  return connection

/-- One round of the acceptor: what it finds before waiting, and what waiting gives. -/
structure Round (α : Type) where
  /-- The request to stop. -/
  request : StopRequest
  /-- The connection, or why there is none. -/
  outcome : Except IoError α

/-- How the acceptor goes on. -/
inductive Acceptance (α : Type) where
  /-- A connection, and the rounds which follow. -/
  | accepted (connection : α) (rest : List (Round α))
  /-- No connection any more. -/
  | ended
  /-- Nothing yet. -/
  | waiting

namespace Acceptor

/-- Whether the acceptor goes on after a failure of this kind. -/
def goesOn (kind : IoKind) : Bool :=
  kind = .timedOut || kind = .interrupted

/-- The next connection. -/
def next {α : Type} : List (Round α) → Acceptance α
  | [] => .waiting
  | round :: rest =>
      match round.request, round.outcome with
      | .none, .ok connection => .accepted connection rest
      | .none, .error cause => if goesOn cause.kind then next rest else .ended
      | _, _ => .ended

/-- What is left after a connection has been accepted is shorter. -/
theorem length_lt_of_next {α : Type} {rounds rest : List (Round α)} {connection : α}
    (accepted : next rounds = .accepted connection rest) : rest.length < rounds.length := by
  induction rounds with
  | nil => simp [next] at accepted
  | cons round rounds step =>
      unfold next at accepted
      split at accepted
      · cases accepted
        simp
      · split at accepted
        · have := step accepted
          simp only [List.length_cons]
          omega
        · cases accepted
      · cases accepted

/-- All connections, in order, and whether the acceptor has ended. -/
def run {α : Type} (rounds : List (Round α)) : List α × Bool :=
  match _taken : next rounds with
  | .accepted connection rest =>
      let (connections, ended) := run rest
      (connection :: connections, ended)
  | .ended => ([], true)
  | .waiting => ([], false)
termination_by rounds.length
decreasing_by exact length_lt_of_next _taken

end Acceptor

/-- Why there can be no listener at an address. -/
def bindError (cause : IoError) (address : Net.SocketAddress) : Error :=
  match cause.kind with
  | .addressInUse => .addressAlreadyInUse address
  | .addressNotAvailable => .addressNotAvailable address
  | _ => .io cause

/-- Connect to the first address of a destination which answers.  If none does, the last failure
counts; a destination without addresses makes no sense. -/
def connectFirst {α : Type} (target : Net.Address) (attempts : List (Except IoError α)) :
    Except Error α :=
  let failure (cause : IoError) : Error :=
    if cause.kind = .connectionRefused then .connectionRefused target else .io cause
  attempts.foldl
    (fun outcome attempt =>
      match outcome with
      | .ok connection => .ok connection
      | .error _ => attempt.mapError failure)
    (.error (.invalidAddress target.text))

end Service
end TunnelProxy
