import TunnelProxy.Proofs.Relay.Order
import TunnelProxy.Proofs.Stream.Endpoint
import TunnelProxy.Scenario.Stream

/-!
# Relays in a scenario

What a relay does in a scenario are steps of the relay, and each of them does to the streams of the
scenario what it says.  So whatever holds of all runs of relays holds of those in a scenario.
-/

namespace TunnelProxy

namespace Direction

/-- The stream which a direction reads. -/
def source (near far : StreamRef) : Direction → StreamRef
  | outbound => near
  | incoming => far

/-- The stream which a direction writes. -/
def destination (near far : StreamRef) : Direction → StreamRef
  | outbound => far
  | incoming => near

end Direction

/-! ## Bounds of reads and writes -/

namespace Mux

theorem Table.length_read_le {table : Table} {id : UInt32} {count : Nat} {bytes : Bytes}
    (read : (table.read id count).1 = some (.ok bytes)) : bytes.length ≤ count := by
  rw [Table.read] at read
  split at read
  · cases read
    exact Nat.zero_le _
  · split at read
    · cases read
      exact List.length_take_le ..
    · split at read
      · cases read
        exact Nat.zero_le _
      · split at read <;> cases read

theorem Session.write_le {session : Session} {id : UInt32} {bytes : Bytes} {count : Nat}
    (wrote : (session.write id bytes).1 = .ok count) : count ≤ bytes.length := by
  rw [Session.write] at wrote
  split at wrote
  · cases wrote
  · dsimp only at wrote
    split at wrote
    · cases wrote
      exact List.length_take_le' ..
    · cases wrote

end Mux

namespace Scenario

variable {scenario after : Scenario} {stream : StreamRef}

theorem length_read_le {count : Nat} {bytes : Bytes}
    (read : scenario.read stream count = some (.ok bytes, after)) : bytes.length ≤ count := by
  cases stream with
  | connection number =>
      simp only [Scenario.read, awaitConnection, onConnection] at read
      cases found : (scenario.connection number).read count with
      | none => simp [found, settled] at read
      | some result =>
          obtain ⟨result, endpoint⟩ := result
          simp only [found, settled, Option.some.injEq, Prod.mk.injEq] at read
          obtain ⟨rfl, -⟩ := read
          exact Endpoint.length_read_le found
  | shared number id =>
      simp only [Scenario.read, onSession] at read
      split at read
      · rename_i session other _
        cases found : (session.table.read id count).1 with
        | none => simp [Mux.Session.read, found, settled] at read
        | some result =>
            simp only [Mux.Session.read, found, settled, Option.some.injEq, Prod.mk.injEq] at read
            obtain ⟨rfl, -⟩ := read
            exact Mux.Table.length_read_le found
      · cases read

theorem write_le {bytes : Bytes} {count : Nat}
    (wrote : (scenario.write stream bytes).1 = .ok count) : count ≤ bytes.length := by
  cases stream with
  | connection number => exact Endpoint.write_le wrote
  | shared number id =>
      simp only [Scenario.write, onSession] at wrote
      split at wrote
      · exact Mux.Session.write_le wrote
      · cases wrote

/-! ## Steps -/

/-- What an event of a relay between two streams does to a scenario. -/
inductive Happens (near far : StreamRef) : Scenario → Relay.Event → Scenario → Prop
  /-- A source is read. -/
  | read {before after : Scenario} {direction : Direction} {reply : Except IoError Bytes}
      (taken : before.read (direction.source near far) Relay.chunkLimit = some (reply, after)) :
      Happens near far before (.read direction 0 reply) after
  /-- A destination is written to. -/
  | write {before : Scenario} {direction : Direction} {rest : Bytes} :
      Happens near far before
        (.write direction rest (before.write (direction.destination near far) rest).1)
        (before.write (direction.destination near far) rest).2
  /-- A destination is flushed, which does nothing. -/
  | flush {before : Scenario} {direction : Direction} :
      Happens near far before (.flush direction 0 (.ok ())) before
  /-- A destination is flushed for the last time, which does nothing. -/
  | lastFlush {before : Scenario} {direction : Direction} :
      Happens near far before (.lastFlush direction (.ok ())) before
  /-- The near stream is closed. -/
  | closeNear {before : Scenario} : Happens near far before .closeNear (before.closeStream near)
  /-- The far stream is closed. -/
  | closeFar {before : Scenario} : Happens near far before .closeFar (before.closeStream far)

variable {near far : StreamRef} {relay next : Relay}

theorem step_of_advancePipe {direction : Direction}
    (advanced : scenario.advancePipe near far relay direction = some (next, after)) :
    ∃ event, Relay.Step relay event next ∧ Happens near far scenario event after := by
  simp only [advancePipe] at advanced
  cases turn : relay.pipe direction with
  | reading =>
      simp only [turn] at advanced
      obtain ⟨⟨reply, later⟩, taken, same⟩ := Option.map_eq_some_iff.mp advanced
      cases same
      have taken : scenario.read (direction.source near far) Relay.chunkLimit =
          some (reply, later) := by
        cases direction <;> exact taken
      refine ⟨_, .read _ 0 _ turn ?_, .read taken⟩
      rintro bytes rfl
      exact length_read_le taken
  | writing rest =>
      have wrote : (if isInterrupted (scenario.write (direction.destination near far) rest).1 then none
          else some (relay.afterWrite direction rest
            (scenario.write (direction.destination near far) rest).1,
            (scenario.write (direction.destination near far) rest).2)) = some (next, after) := by
        rw [turn] at advanced
        cases direction <;> exact advanced
      split at wrote
      · cases wrote
      · simp only [Option.some.injEq, Prod.mk.injEq] at wrote
        obtain ⟨rfl, rfl⟩ := wrote
        exact ⟨.write direction rest _, .write _ _ turn fun count took => write_le took, .write⟩
  | flushing =>
      simp only [turn, Option.some.injEq, Prod.mk.injEq] at advanced
      obtain ⟨rfl, rfl⟩ := advanced
      exact ⟨_, .flush direction 0 (.ok ()) turn, .flush⟩
  | finishing =>
      simp only [turn, Option.some.injEq, Prod.mk.injEq] at advanced
      obtain ⟨rfl, rfl⟩ := advanced
      exact ⟨_, .lastFlush direction (.ok ()) turn, .lastFlush⟩
  | ended result => simp [turn] at advanced

/-- What a relay does in a scenario is a step of the relay. -/
theorem step_of_advanceRelay
    (advanced : scenario.advanceRelay near far relay = some (next, after)) :
    ∃ event, Relay.Step relay event next ∧ Happens near far scenario event after := by
  rw [advanceRelay] at advanced
  cases outbound : scenario.advancePipe near far relay .outbound with
  | some moved =>
      rw [outbound] at advanced
      cases advanced
      exact step_of_advancePipe outbound
  | none =>
      rw [outbound] at advanced
      change ((scenario.advancePipe near far relay .incoming).orElse fun _ =>
        scenario.advanceClosing near far relay) = some (next, after) at advanced
      cases incoming : scenario.advancePipe near far relay .incoming with
      | some moved =>
          rw [incoming] at advanced
          cases advanced
          exact step_of_advancePipe incoming
      | none =>
          rw [incoming] at advanced
          change scenario.advanceClosing near far relay = some (next, after) at advanced
          rw [advanceClosing] at advanced
          split at advanced
          · cases advanced
            exact ⟨_, .closeNear ‹_›, .closeNear⟩
          · cases advanced
            exact ⟨_, .closeFar ‹_›, .closeFar⟩
          · cases advanced

/-- A relay which goes on in a scenario stays a relay which can be reached. -/
theorem reaches_of_advanceRelay {idle : Option Nat} {activity : Nat} {log : List Relay.Event}
    (reached : Relay.Reaches idle activity log relay)
    (advanced : scenario.advanceRelay near far relay = some (next, after)) :
    ∃ event, Relay.Reaches idle activity (log ++ [event]) next ∧
      Happens near far scenario event after := by
  obtain ⟨event, step, happens⟩ := step_of_advanceRelay advanced
  exact ⟨event, reached.step step, happens⟩

end Scenario
end TunnelProxy
