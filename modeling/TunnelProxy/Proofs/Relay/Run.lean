import Mathlib.Data.List.Infix
import TunnelProxy.Relay.Basic

/-!
# Runs of relays

The two pipes of a relay and the closing of its streams take their steps in any order, and each read,
write, flush and closing can come out in any way.  What a run has done is told by its log: the bytes
which each pipe has read and written, and which streams have been closed.
-/

namespace TunnelProxy
namespace Relay

/-! ## Steps -/

/-- What can happen in a relay. -/
inductive Event where
  /-- A pipe read from its source. -/
  | read (direction : Direction) (now : Nat) (reply : Except IoError Bytes)
  /-- A pipe offered what was left of its chunk to its destination. -/
  | write (direction : Direction) (rest : Bytes) (reply : Except IoError Nat)
  /-- A pipe flushed its destination behind a chunk. -/
  | flush (direction : Direction) (now : Nat) (reply : Except IoError Unit)
  /-- A pipe flushed its destination behind the last chunk. -/
  | lastFlush (direction : Direction) (reply : Except IoError Unit)
  /-- The near stream was closed. -/
  | closeNear
  /-- The far stream was closed. -/
  | closeFar

/-- The steps of a relay.  A read gives no more than a chunk and a write takes no more than it is
offered; apart from that they may do anything. -/
inductive Step : Relay → Event → Relay → Prop
  /-- A pipe reads. -/
  | read {relay : Relay} (direction : Direction) (now : Nat) (reply : Except IoError Bytes)
      (turn : relay.pipe direction = .reading)
      (fits : ∀ bytes, reply = .ok bytes → bytes.length ≤ chunkLimit) :
      Step relay (.read direction now reply) (relay.afterRead direction now reply)
  /-- A pipe writes. -/
  | write {relay : Relay} {rest : Bytes} (direction : Direction) (reply : Except IoError Nat)
      (turn : relay.pipe direction = .writing rest)
      (fits : ∀ count, reply = .ok count → count ≤ rest.length) :
      Step relay (.write direction rest reply) (relay.afterWrite direction rest reply)
  /-- A pipe flushes behind a chunk. -/
  | flush {relay : Relay} (direction : Direction) (now : Nat) (reply : Except IoError Unit)
      (turn : relay.pipe direction = .flushing) :
      Step relay (.flush direction now reply) (relay.afterFlush direction now reply)
  /-- A pipe flushes behind the last chunk. -/
  | lastFlush {relay : Relay} (direction : Direction) (reply : Except IoError Unit)
      (turn : relay.pipe direction = .finishing) :
      Step relay (.lastFlush direction reply) (relay.afterLastFlush direction reply)
  /-- The near stream is closed, whether that is reported as a failure or not. -/
  | closeNear {relay : Relay} (turn : relay.stage = .closingNear) :
      Step relay .closeNear relay.afterClose
  /-- The far stream is closed, whether that is reported as a failure or not. -/
  | closeFar {relay : Relay} (turn : relay.stage = .closingFar) :
      Step relay .closeFar relay.afterClose

/-- A relay both streams of which have been split, before anything has happened. -/
def start (idle : Option Nat) (activity : Nat) : Relay where
  idle := idle
  activity := activity

/-- A relay can be like this after some events. -/
inductive Reaches (idle : Option Nat) (activity : Nat) : List Event → Relay → Prop
  /-- Nothing has happened. -/
  | start : Reaches idle activity [] (start idle activity)
  /-- One more thing happens. -/
  | step {log : List Event} {before after : Relay} {event : Event}
      (reached : Reaches idle activity log before) (step : Step before event after) :
      Reaches idle activity (log ++ [event]) after

/-! ## What a log tells -/

namespace Event

/-- The bytes which a direction read. -/
def taken (direction : Direction) : Event → Bytes
  | read source _ (.ok bytes) => if source = direction then bytes else []
  | _ => []

/-- The bytes which a direction wrote. -/
def given (direction : Direction) : Event → Bytes
  | write source rest (.ok count) => if source = direction then rest.take count else []
  | _ => []

/-- Whether a direction met the end of its source. -/
def isEnd (direction : Direction) : Event → Bool
  | read source _ (.ok []) => source = direction
  | _ => false

/-- Whether the near stream was closed. -/
def isCloseNear : Event → Bool
  | closeNear => true
  | _ => false

/-- Whether the far stream was closed. -/
def isCloseFar : Event → Bool
  | closeFar => true
  | _ => false

end Event

/-- The bytes which a direction has read. -/
def bytesRead (direction : Direction) (log : List Event) : Bytes :=
  log.flatMap (Event.taken direction)

/-- The bytes which a direction has written. -/
def bytesWritten (direction : Direction) (log : List Event) : Bytes :=
  log.flatMap (Event.given direction)

/-- A direction has met the end of its source. -/
def metEnd (direction : Direction) (log : List Event) : Bool :=
  log.any (Event.isEnd direction)

@[simp] theorem bytesRead_concat (direction : Direction) (log : List Event) (event : Event) :
    bytesRead direction (log ++ [event]) = bytesRead direction log ++ event.taken direction := by
  simp [bytesRead]

@[simp] theorem bytesWritten_concat (direction : Direction) (log : List Event) (event : Event) :
    bytesWritten direction (log ++ [event]) =
      bytesWritten direction log ++ event.given direction := by
  simp [bytesWritten]

@[simp] theorem metEnd_concat (direction : Direction) (log : List Event) (event : Event) :
    metEnd direction (log ++ [event]) = (metEnd direction log || event.isEnd direction) := by
  simp [metEnd]

/-! ## The pipes of a relay -/

section Pipes

variable (relay : Relay) (direction : Direction) (pipe : Pipe)

@[simp] theorem pipe_update_self : (relay.update direction pipe).pipe direction = pipe := by
  cases direction <;> simp only [update] <;> split <;> rfl

theorem pipe_update_other {other : Direction} (different : other ≠ direction) :
    (relay.update direction pipe).pipe other = relay.pipe other := by
  cases direction <;> cases other <;> first | exact absurd rfl different | skip
  all_goals simp only [update]; split <;> rfl

@[simp] theorem pipe_note (now : Nat) (moved : Bool) (other : Direction) :
    (relay.note now moved).pipe other = relay.pipe other := by
  cases moved <;> rfl

@[simp] theorem pipe_afterClose (other : Direction) :
    relay.afterClose.pipe other = relay.pipe other := by
  rw [afterClose]
  split <;> rfl

@[simp] theorem first_note (now : Nat) (moved : Bool) :
    (relay.note now moved).first = relay.first := by
  cases moved <;> rfl

@[simp] theorem stage_note (now : Nat) (moved : Bool) :
    (relay.note now moved).stage = relay.stage := by
  cases moved <;> rfl

@[simp] theorem first_afterClose : relay.afterClose.first = relay.first := by
  rw [afterClose]
  split <;> rfl

end Pipes

/-- What a pipe does next after a step. -/
inductive Pipe.Advance (direction : Direction) : Pipe → Event → Pipe → Prop
  /-- It has read. -/
  | read {idle : Option Nat} {quiet now : Nat} {reply : Except IoError Bytes}
      (fits : ∀ bytes, reply = .ok bytes → bytes.length ≤ chunkLimit) :
      Advance direction .reading (.read direction now reply) (Pipe.afterRead idle quiet reply).1
  /-- It has written. -/
  | write {rest : Bytes} {reply : Except IoError Nat}
      (fits : ∀ count, reply = .ok count → count ≤ rest.length) :
      Advance direction (.writing rest) (.write direction rest reply) (Pipe.afterWrite rest reply)
  /-- It has flushed behind a chunk. -/
  | flush {now : Nat} {reply : Except IoError Unit} :
      Advance direction .flushing (.flush direction now reply) (Pipe.afterFlush reply).1
  /-- It has flushed behind the last chunk. -/
  | lastFlush {reply : Except IoError Unit} :
      Advance direction .finishing (.lastFlush direction reply) (Pipe.afterLastFlush reply)

/-- What a step does to a relay: either one of the pipes goes on, or a stream is closed. -/
inductive Change (before : Relay) (event : Event) (after : Relay) : Prop
  /-- A pipe goes on. -/
  | pipe (direction : Direction) (next : Pipe) (now : Nat) (moved : Bool)
      (advance : Pipe.Advance direction (before.pipe direction) event next)
      (same : after = (before.update direction next).note now moved)
  /-- The near stream is closed. -/
  | near (closing : event = .closeNear) (turn : before.stage = .closingNear)
      (same : after = before.afterClose)
  /-- The far stream is closed. -/
  | far (closing : event = .closeFar) (turn : before.stage = .closingFar)
      (same : after = before.afterClose)

theorem Step.change {before after : Relay} {event : Event} (step : Step before event after) :
    Change before event after := by
  cases step with
  | read direction now reply turn fits =>
      refine .pipe direction _ now _ ?_ rfl
      rw [turn]
      exact .read fits
  | @write rest direction reply turn fits =>
      refine .pipe direction _ 0 false ?_ rfl
      rw [turn]
      exact .write fits
  | flush direction now reply turn =>
      refine .pipe direction _ now _ ?_ rfl
      rw [turn]
      exact .flush
  | lastFlush direction reply turn =>
      refine .pipe direction _ 0 false ?_ rfl
      rw [turn]
      exact .lastFlush
  | closeNear turn => exact .near rfl turn rfl
  | closeFar turn => exact .far rfl turn rfl

/-! ## What the pipes carry -/

/-- What a pipe has read and written, and whether it has met the end of its source. -/
inductive Pipe.Carried : Pipe → Bytes → Bytes → Bool → Prop
  /-- Before a read everything has been written. -/
  | reading (bytes : Bytes) : Carried .reading bytes bytes false
  /-- What is left of a chunk has not been written. -/
  | writing (front rest : Bytes) : Carried (.writing rest) (front ++ rest) front false
  /-- Behind a chunk everything has been written. -/
  | flushing (bytes : Bytes) : Carried .flushing bytes bytes false
  /-- At the end of the source everything has been written. -/
  | finishing (bytes : Bytes) : Carried .finishing bytes bytes true
  /-- Behind the end of the source everything has been written. -/
  | ended (bytes : Bytes) (result : Except Error Unit) : Carried (.ended result) bytes bytes true
  /-- A failure leaves something unwritten, perhaps. -/
  | failed (front rest : Bytes) (error : Error) :
      Carried (.ended (.error error)) (front ++ rest) front false

theorem Pipe.Carried.written_isPrefix {pipe : Pipe} {read written : Bytes} {ended : Bool}
    (carried : pipe.Carried read written ended) : written <+: read := by
  cases carried with
  | writing => exact List.prefix_append ..
  | failed => exact List.prefix_append ..
  | _ => exact List.prefix_rfl

theorem Pipe.Carried.written_eq {pipe : Pipe} {read written : Bytes}
    (carried : pipe.Carried read written true) : written = read := by
  cases carried <;> rfl

theorem Pipe.Carried.ended_of_ok {pipe : Pipe} {read written : Bytes} {ended : Bool}
    (carried : pipe.Carried read written ended) (finished : pipe.result? = some (.ok ())) :
    ended = true := by
  cases carried with
  | ended => rfl
  | _ => cases finished

theorem Pipe.Carried.failed_at {read written : Bytes} (error : Error) {pipe : Pipe}
    (carried : pipe.Carried read written false) :
    Pipe.Carried (.ended (.error error)) read written false := by
  cases carried with
  | writing => exact .failed ..
  | failed => exact .failed ..
  | _ => simpa using Pipe.Carried.failed read [] error

/-- A step of a pipe keeps account of what the pipe reads and writes. -/
theorem Pipe.Advance.carried {direction : Direction} {pipe next : Pipe} {event : Event}
    {read written : Bytes} {ended : Bool} (advance : Pipe.Advance direction pipe event next)
    (carried : pipe.Carried read written ended) :
    next.Carried (read ++ event.taken direction) (written ++ event.given direction)
      (ended || event.isEnd direction) := by
  cases advance with
  | @read idle quiet now reply fits =>
      cases carried
      rcases reply with cause | _ | ⟨byte, chunk⟩
      · simp only [Event.taken, Event.given, Event.isEnd, List.append_nil, Bool.or_false]
        simp only [Pipe.afterRead]
        split
        · exact .reading read
        · split
          · split
            · split
              · exact (Pipe.Carried.reading read).failed_at _
              · exact .reading read
            · exact .reading read
          · exact (Pipe.Carried.reading read).failed_at _
      · simpa [Pipe.afterRead, Event.taken, Event.given, Event.isEnd] using
          Pipe.Carried.finishing read
      · simpa [Pipe.afterRead, Event.taken, Event.given, Event.isEnd] using
          Pipe.Carried.writing read (byte :: chunk)
  | @write rest reply fits =>
      cases carried
      rcases reply with cause | count
      · simp only [Event.taken, Event.given, Event.isEnd, List.append_nil, Bool.or_false]
        simp only [Pipe.afterWrite]
        split
        · exact .writing written rest
        · exact (Pipe.Carried.writing written rest).failed_at _
      · have whole : written ++ rest = written ++ rest.take count ++ rest.drop count := by
          rw [List.append_assoc, List.take_append_drop]
        simp only [Event.taken, Event.given, Event.isEnd, List.append_nil, if_true, Bool.or_false]
        rw [whole]
        cases count with
        | zero =>
            have stuck := (Pipe.Carried.writing written rest).failed_at (.io .stuck)
            simpa [Pipe.afterWrite] using stuck
        | succ count =>
            have front := Pipe.Carried.writing (written ++ rest.take (count + 1))
              (rest.drop (count + 1))
            simp only [Pipe.afterWrite]
            split
            · rename_i nothing
              rw [nothing, List.append_nil]
              exact .flushing _
            · exact front
  | @flush now reply =>
      cases carried
      simp only [Event.taken, Event.given, Event.isEnd, List.append_nil, Bool.or_false]
      rcases reply with cause | _
      · exact (Pipe.Carried.flushing read).failed_at _
      · exact .reading read
  | @lastFlush reply =>
      cases carried
      simp only [Event.taken, Event.given, Event.isEnd, List.append_nil, Bool.or_false]
      rcases reply with cause | _ <;> exact .ended read _

/-- A step of one pipe is none of the other. -/
theorem Pipe.Advance.foreign {direction other : Direction} {pipe next : Pipe} {event : Event}
    (advance : Pipe.Advance direction pipe event next) (different : other ≠ direction) :
    event.taken other = [] ∧ event.given other = [] ∧ event.isEnd other = false := by
  have apart : direction ≠ other := Ne.symm different
  cases advance with
  | @read _ _ _ reply _ => rcases reply with _ | _ | _ <;> simp [Event.taken, Event.given, Event.isEnd, apart]
  | @write _ reply => cases reply <;> simp [Event.taken, Event.given, Event.isEnd, apart]
  | flush => exact ⟨rfl, rfl, rfl⟩
  | lastFlush => exact ⟨rfl, rfl, rfl⟩

/-- Each pipe of a relay has written what it has read, as far as it has come. -/
theorem Reaches.carried {idle : Option Nat} {activity : Nat} {log : List Event} {relay : Relay}
    (reached : Reaches idle activity log relay) (direction : Direction) :
    (relay.pipe direction).Carried (bytesRead direction log) (bytesWritten direction log)
      (metEnd direction log) := by
  induction reached with
  | start => cases direction <;> exact .reading []
  | @step log before after event reached step ih =>
      simp only [bytesRead_concat, bytesWritten_concat, metEnd_concat]
      cases step.change with
      | pipe active next now moved advance same =>
          subst same
          rw [pipe_note]
          by_cases mine : direction = active
          · subst mine
            rw [pipe_update_self]
            exact advance.carried ih
          · obtain ⟨unread, unwritten, unended⟩ := advance.foreign mine
            rw [pipe_update_other _ _ _ mine, unread, unwritten, unended]
            simpa using ih
      | near closing turn same =>
          subst closing same
          simpa [Event.taken, Event.given, Event.isEnd] using ih
      | far closing turn same =>
          subst closing same
          simpa [Event.taken, Event.given, Event.isEnd] using ih

end Relay
end TunnelProxy
