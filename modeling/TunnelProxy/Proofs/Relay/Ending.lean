import Mathlib.Data.List.Pairwise
import TunnelProxy.Proofs.Relay.Loss

/-!
# How a pipe ends

A pipe writes the chunks which it has read one after the other, and each of them in full before it
reads again.  So what it has written when it ends is told by the operation which ended it: a failed
write leaves the end of the last chunk unwritten, and every other ending leaves nothing.  Idleness ends
it only if nothing was recorded in either direction for as long as the limit says.  Reads and writes
which are interrupted are tried again; flushes are not, whatever they fail with.
-/

namespace TunnelProxy
namespace Relay

/-! ## What a log tells -/

namespace Event

/-- The direction whose pipe did something. -/
def pipe? : Event → Option Direction
  | read direction _ _ => some direction
  | write direction _ _ => some direction
  | flush direction _ _ => some direction
  | lastFlush direction _ => some direction
  | closeNear | closeFar => none

/-- When a pipe looked at the clock, or could have done so. -/
def time? : Event → Option Nat
  | read _ now _ => some now
  | flush _ now _ => some now
  | _ => none

/-- The time which was recorded because something moved: a chunk was read, or written in full. -/
def recorded? : Event → Option Nat
  | read _ now (.ok (_ :: _)) => some now
  | flush _ now (.ok ()) => some now
  | _ => none

/-- Whether a read or a write was interrupted. -/
def isInterrupted : Event → Bool
  | read _ _ (.error cause) => cause.kind = .interrupted
  | write _ _ (.error cause) => cause.kind = .interrupted
  | _ => false

theorem time?_of_recorded? {event : Event} {time : Nat} (recorded : event.recorded? = some time) :
    event.time? = some time := by
  cases event with
  | read direction now reply =>
      rcases reply with cause | _ | ⟨byte, chunk⟩
      · cases recorded
      · cases recorded
      · exact recorded
  | flush direction now reply =>
      cases reply with
      | error => cases recorded
      | ok => exact recorded
  | _ => cases recorded

theorem taken_eq_nil {direction : Direction} {event : Event}
    (foreign : event.pipe? ≠ some direction) : event.taken direction = [] := by
  rcases event with ⟨source, _, _ | _⟩ | _ | _ | _ | _ | _ <;> simp_all [pipe?, taken]

theorem given_eq_nil {direction : Direction} {event : Event}
    (foreign : event.pipe? ≠ some direction) : event.given direction = [] := by
  rcases event with _ | ⟨source, _, _ | _⟩ | _ | _ | _ | _ <;> simp_all [pipe?, given]

end Event

/-- The chunks which a direction has read. -/
def chunksRead (direction : Direction) (log : List Event) : List Bytes :=
  (log.map (Event.taken direction)).filter (· ≠ [])

theorem flatten_chunksRead (direction : Direction) (log : List Event) :
    (chunksRead direction log).flatten = bytesRead direction log := by
  rw [chunksRead, List.flatten_filter_ne_nil, bytesRead, List.flatMap_def]

/-- The times at which a relay has begun and something has moved in it. -/
def recordings (activity : Nat) (log : List Event) : List Nat :=
  activity :: log.filterMap Event.recorded?

/-- The last time at which a relay has begun or something has moved in it. -/
def lastRecording (activity : Nat) (log : List Event) : Nat :=
  (recordings activity log).getLast (List.cons_ne_nil _ _)

/-- The clock does not go back. -/
def Clocked (activity : Nat) (log : List Event) : Prop :=
  (activity :: log.filterMap Event.time?).Pairwise (· ≤ ·)

@[simp] theorem chunksRead_concat (direction : Direction) (log : List Event) (event : Event) :
    chunksRead direction (log ++ [event]) =
      chunksRead direction log ++ [event.taken direction].filter (· ≠ []) := by
  simp [chunksRead]

theorem lastRecording_concat (activity : Nat) (log : List Event) (event : Event) :
    lastRecording activity (log ++ [event]) =
      event.recorded?.getD (lastRecording activity log) := by
  unfold lastRecording recordings
  cases recorded : event.recorded? <;> simp [List.filterMap_append, recorded]

/-- Whatever is recorded is recorded when the clock is looked at. -/
theorem recorded_sublist_times (log : List Event) :
    (log.filterMap Event.recorded?).Sublist (log.filterMap Event.time?) := by
  induction log with
  | nil => exact .slnil
  | cons event log ih =>
      cases recorded : event.recorded? with
      | some time =>
          rw [List.filterMap_cons_some recorded,
            List.filterMap_cons_some (Event.time?_of_recorded? recorded)]
          exact ih.cons_cons time
      | none =>
          rw [List.filterMap_cons_none recorded]
          cases timed : event.time? with
          | some time =>
              rw [List.filterMap_cons_some timed]
              exact ih.cons time
          | none => rwa [List.filterMap_cons_none timed]

/-- By a clock which does not go back, nothing was recorded behind the last recording, and this was
not behind what happens next. -/
theorem Clocked.le_last {activity now time : Nat} {log : List Event} {event : Event}
    (clocked : Clocked activity (log ++ [event])) (timed : event.time? = some now)
    (recorded : time ∈ recordings activity log) :
    time ≤ lastRecording activity log ∧ lastRecording activity log ≤ now := by
  rw [Clocked, List.filterMap_append, List.filterMap_cons_some timed] at clocked
  have sorted : (recordings activity log ++ [now]).Pairwise (· ≤ ·) :=
    clocked.sublist (((recorded_sublist_times log).append (List.Sublist.refl _)).cons_cons activity)
  obtain ⟨among, -, before_now⟩ := List.pairwise_append.mp sorted
  exact ⟨among.rel_getLast recorded,
    before_now _ (List.getLast_mem _) now (List.mem_singleton_self now)⟩

variable {idle : Option Nat} {activity : Nat} {log : List Event} {relay : Relay}

/-! ## The chunks of a pipe -/

/-- A step of a pipe is told by its direction. -/
theorem Pipe.Advance.pipe? {direction : Direction} {pipe next : Pipe} {event : Event}
    (advance : Pipe.Advance direction pipe event next) : event.pipe? = some direction := by
  cases advance <;> rfl

/-- What is no step of a pipe leaves it as it is. -/
theorem Step.pipe_foreign {before after : Relay} {event : Event} {direction : Direction}
    (step : Step before event after) (foreign : event.pipe? ≠ some direction) :
    after.pipe direction = before.pipe direction := by
  cases step.change with
  | pipe active next now moved advance same =>
      have other : direction ≠ active := by
        rintro rfl
        exact foreign advance.pipe?
      rw [same, pipe_note, pipe_update_other _ _ _ other]
  | near _ _ same | far _ _ same => rw [same, pipe_afterClose]

/-- A pipe which goes on is the one which its step tells. -/
theorem Step.advance {before after : Relay} {event : Event} {direction : Direction}
    (step : Step before event after) (own : event.pipe? = some direction) :
    Pipe.Advance direction (before.pipe direction) event (after.pipe direction) := by
  cases step.change with
  | pipe active next now moved advance same =>
      cases advance.pipe?.symm.trans own
      rw [same, pipe_note, pipe_update_self]
      exact advance
  | near closing => subst closing; cases own
  | far closing => subst closing; cases own

/-- How far a pipe has come with writing the chunks which it has read. -/
inductive Pipe.Copied : Pipe → List Bytes → Bytes → Prop
  /-- Before a read all chunks have been written. -/
  | reading (chunks : List Bytes) : Copied .reading chunks chunks.flatten
  /-- What is left of the last chunk has not been written, and what stood before it has. -/
  | writing (earlier : List Bytes) (front rest : Bytes) (some_left : rest ≠ []) :
      Copied (.writing rest) (earlier ++ [front ++ rest]) (earlier.flatten ++ front)
  /-- Behind a chunk all chunks have been written. -/
  | flushing (chunks : List Bytes) : Copied .flushing chunks chunks.flatten
  /-- At the end of the source all chunks have been written. -/
  | finishing (chunks : List Bytes) : Copied .finishing chunks chunks.flatten
  /-- What a pipe leaves at its end is told by how it ends. -/
  | ended (result : Except Error Unit) (chunks : List Bytes) (written : Bytes) :
      Copied (.ended result) chunks written

/-- A step of a pipe adds what it reads and writes. -/
theorem Pipe.Advance.copied {direction : Direction} {pipe next : Pipe} {event : Event}
    {chunks : List Bytes} {written : Bytes} (advance : Pipe.Advance direction pipe event next)
    (copied : pipe.Copied chunks written) :
    next.Copied (chunks ++ [event.taken direction].filter (· ≠ []))
      (written ++ event.given direction) := by
  cases advance with
  | @read idle quiet now reply fits =>
      cases copied
      rcases reply with cause | _ | ⟨byte, chunk⟩
      · simp only [Pipe.afterRead, Event.taken, Event.given]
        repeat' split
        all_goals first | exact .ended .. | simpa using Pipe.Copied.reading chunks
      · simpa [Pipe.afterRead, Event.taken, Event.given] using Pipe.Copied.finishing chunks
      · simpa [Pipe.afterRead, Event.taken, Event.given] using
          Pipe.Copied.writing chunks [] (byte :: chunk) (List.cons_ne_nil _ _)
  | @write rest reply fits =>
      cases copied with
      | writing earlier front _ some_left =>
          rcases reply with cause | _ | count
          · simp only [Pipe.afterWrite, Event.taken, Event.given]
            split
            · simpa using Pipe.Copied.writing earlier front rest some_left
            · exact .ended ..
          · exact .ended ..
          · have whole : rest = rest.take (count + 1) ++ rest.drop (count + 1) :=
              (List.take_append_drop ..).symm
            simp only [Pipe.afterWrite, Event.taken, Event.given, if_true]
            split
            · rename_i nothing
              rw [nothing, List.append_nil] at whole
              simpa [← whole] using Pipe.Copied.flushing (earlier ++ [front ++ rest])
            · rename_i later some_later
              have front := Pipe.Copied.writing earlier (front ++ rest.take (count + 1))
                (rest.drop (count + 1)) some_later
              simpa using front
  | @flush now reply =>
      cases copied
      rcases reply with cause | _
      · exact .ended ..
      · simpa [Pipe.afterFlush, Event.taken, Event.given] using Pipe.Copied.reading chunks
  | @lastFlush reply =>
      cases copied
      rcases reply with cause | _ <;> exact .ended ..

/-- Each pipe of a relay writes its chunks one after the other. -/
theorem Reaches.copied (reached : Reaches idle activity log relay) (direction : Direction) :
    (relay.pipe direction).Copied (chunksRead direction log) (bytesWritten direction log) := by
  induction reached with
  | start => cases direction <;> exact .reading []
  | @step log before after event reached step ih =>
      rw [chunksRead_concat, bytesWritten_concat]
      by_cases own : event.pipe? = some direction
      · exact (step.advance own).copied ih
      · rw [step.pipe_foreign own, Event.taken_eq_nil own, Event.given_eq_nil own]
        simpa using ih

/-! ## The watch over idleness -/

section Watch

variable (relay : Relay) (direction : Direction) (pipe : Pipe)

@[simp] theorem idle_update : (relay.update direction pipe).idle = relay.idle := by
  cases direction <;> simp only [update] <;> split <;> rfl

@[simp] theorem activity_update : (relay.update direction pipe).activity = relay.activity := by
  cases direction <;> simp only [update] <;> split <;> rfl

@[simp] theorem idle_note (now : Nat) (moved : Bool) :
    (relay.note now moved).idle = relay.idle := by
  cases moved <;> rfl

theorem activity_note (now : Nat) (moved : Bool) :
    (relay.note now moved).activity = if moved then now else relay.activity := by
  cases moved <;> rfl

@[simp] theorem idle_afterClose : relay.afterClose.idle = relay.idle := by
  rw [afterClose]
  split <;> rfl

@[simp] theorem activity_afterClose : relay.afterClose.activity = relay.activity := by
  rw [afterClose]
  split <;> rfl

end Watch

/-- No step changes the limit. -/
theorem Step.idle_eq {before after : Relay} {event : Event} (step : Step before event after) :
    after.idle = before.idle := by
  cases step.change with
  | pipe _ _ _ _ _ same => rw [same, idle_note, idle_update]
  | near _ _ same | far _ _ same => rw [same, idle_afterClose]

/-- A step keeps the time which it records. -/
theorem Step.activity_eq {before after : Relay} {event : Event} (step : Step before event after) :
    after.activity = event.recorded?.getD before.activity := by
  cases step with
  | read direction now reply =>
      rcases reply with cause | _ | ⟨byte, chunk⟩
      · simp only [afterRead, activity_note, activity_update, Event.recorded?, Pipe.afterRead]
        repeat' split
        all_goals first | rfl | simp_all
      · simp [afterRead, activity_note, Event.recorded?, Pipe.afterRead]
      · simp [afterRead, activity_note, Event.recorded?, Pipe.afterRead]
  | write => simp [afterWrite, Event.recorded?]
  | flush direction now reply =>
      cases reply <;> simp [afterFlush, activity_note, Event.recorded?, Pipe.afterFlush]
  | lastFlush => simp [afterLastFlush, Event.recorded?]
  | closeNear => simp [Event.recorded?]
  | closeFar => simp [Event.recorded?]

/-- A relay keeps its limit. -/
theorem Reaches.idleOf_eq (reached : Reaches idle activity log relay) (direction : Direction) :
    relay.idleOf direction = (Relay.start idle activity).idleOf direction := by
  have kept : relay.idle = idle := by
    induction reached with
    | start => rfl
    | step reached step ih => rw [step.idle_eq, ih]
  cases direction with
  | outbound => exact kept
  | incoming => rfl

/-- A relay knows when something was recorded last. -/
theorem Reaches.activity_eq (reached : Reaches idle activity log relay) :
    relay.activity = lastRecording activity log := by
  induction reached with
  | start => rfl
  | step reached step ih => rw [step.activity_eq, lastRecording_concat, ih]

/-! ## Endings -/

/-- A write found the end of a chunk unwritten: the chunks before have been written in full, and the
last one has been written up to there. -/
def CutAt (direction : Direction) (past : List Event) (rest : Bytes) : Prop :=
  ∃ earlier front, rest ≠ [] ∧ chunksRead direction past = earlier ++ [front ++ rest] ∧
    bytesWritten direction past = earlier.flatten ++ front

/-- What ended a pipe behind some events, and with which result. -/
inductive Ending (idle : Option Nat) (activity : Nat) (direction : Direction) (past : List Event) :
    Event → Except Error Unit → Prop
  /-- The source ended, and all of it was written and flushed. -/
  | finished (met : metEnd direction past = true)
      (whole : bytesWritten direction past = bytesRead direction past) :
      Ending idle activity direction past (.lastFlush direction (.ok ())) (.ok ())
  /-- The source failed. -/
  | unread {now : Nat} {cause : IoError} (failed : cause.kind ≠ .interrupted)
      (unexpired : cause.kind.isTimeout = false)
      (whole : bytesWritten direction past = bytesRead direction past) :
      Ending idle activity direction past (.read direction now (.error cause)) (.error (.io cause))
  /-- A read expired, and nothing had been recorded for as long as the limit says. -/
  | idle {now limit : Nat} {cause : IoError} (expired : cause.kind.isTimeout = true)
      (limited : (Relay.start idle activity).idleOf direction = some limit)
      (quiet : limit ≤ now - lastRecording activity past)
      (silent : Clocked activity (past ++ [.read direction now (.error cause)]) →
        ∀ time ∈ recordings activity past, time + limit ≤ now)
      (whole : bytesWritten direction past = bytesRead direction past) :
      Ending idle activity direction past (.read direction now (.error cause)) (.error .idleTimeout)
  /-- The destination refused what was left of a chunk. -/
  | unwritten {rest : Bytes} {cause : IoError} (failed : cause.kind ≠ .interrupted)
      (cut : CutAt direction past rest) :
      Ending idle activity direction past (.write direction rest (.error cause)) (.error (.io cause))
  /-- The destination took no byte of what was left of a chunk. -/
  | stuck {rest : Bytes} (cut : CutAt direction past rest) :
      Ending idle activity direction past (.write direction rest (.ok 0)) (.error (.io .stuck))
  /-- The flush behind a chunk failed, by an interruption or in any other way. -/
  | unflushed {now : Nat} {cause : IoError}
      (whole : bytesWritten direction past = bytesRead direction past) :
      Ending idle activity direction past (.flush direction now (.error cause)) (.error (.io cause))
  /-- The source ended, and the flush behind all of it failed. -/
  | unfinished {cause : IoError} (met : metEnd direction past = true)
      (whole : bytesWritten direction past = bytesRead direction past) :
      Ending idle activity direction past (.lastFlush direction (.error cause)) (.error (.io cause))

/-- A pipe which is not about to write has nothing left to write. -/
theorem Pipe.Copied.whole {pipe : Pipe} {chunks : List Bytes} {written : Bytes}
    (copied : pipe.Copied chunks written) (running : pipe.result? = none)
    (rested : ∀ rest, pipe ≠ .writing rest) : written = chunks.flatten := by
  cases copied with
  | writing earlier front rest => exact absurd rfl (rested rest)
  | ended => cases running
  | _ => rfl

theorem Reaches.whole (reached : Reaches idle activity log relay) {direction : Direction}
    (running : (relay.pipe direction).result? = none)
    (rested : ∀ rest, relay.pipe direction ≠ .writing rest) :
    bytesWritten direction log = bytesRead direction log := by
  rw [← flatten_chunksRead]
  exact (reached.copied direction).whole running rested

/-- A pipe which flushes for the last time has met the end of its source. -/
theorem Pipe.Carried.met_of_finishing {read written : Bytes} {ended : Bool}
    (carried : Pipe.finishing.Carried read written ended) : ended = true := by
  cases carried
  rfl

/-- What a pipe is about to write is the end of its last chunk. -/
theorem Pipe.Copied.cut {rest written : Bytes} {chunks : List Bytes}
    (copied : (Pipe.writing rest).Copied chunks written) :
    ∃ earlier front, rest ≠ [] ∧ chunks = earlier ++ [front ++ rest] ∧
      written = earlier.flatten ++ front := by
  cases copied with
  | writing earlier front _ some_left => exact ⟨earlier, front, some_left, rfl, rfl⟩

section AtStep

variable {direction : Direction} {now : Nat} {result : Except Error Unit}

/-- How a read ends a pipe. -/
theorem Reaches.ending_of_read (reached : Reaches idle activity log relay)
    {reply : Except IoError Bytes} (turn : relay.pipe direction = .reading)
    (ends : ((relay.afterRead direction now reply).pipe direction).result? = some result) :
    Ending idle activity direction log (.read direction now reply) result := by
  have whole : bytesWritten direction log = bytesRead direction log :=
    reached.whole (by rw [turn]; rfl) (by simp [turn])
  simp only [afterRead, pipe_note, pipe_update_self] at ends
  rcases reply with cause | _ | ⟨byte, chunk⟩
  · simp only [Pipe.afterRead, reached.idleOf_eq, reached.activity_eq] at ends
    split at ends
    · cases ends
    · rename_i failed
      split at ends
      · rename_i expired
        split at ends
        · rename_i limit limited
          split at ends
          · rename_i quiet
            cases ends
            refine .idle expired limited quiet (fun clocked time recorded => ?_) whole
            obtain ⟨before_last, last_before⟩ := clocked.le_last rfl recorded
            omega
          · cases ends
        · cases ends
      · rename_i lasting
        cases ends
        exact .unread failed (Bool.eq_false_iff.mpr lasting) whole
  · cases ends
  · cases ends

/-- How a write ends a pipe. -/
theorem Reaches.ending_of_write (reached : Reaches idle activity log relay) {rest : Bytes}
    {reply : Except IoError Nat} (turn : relay.pipe direction = .writing rest)
    (ends : ((relay.afterWrite direction rest reply).pipe direction).result? = some result) :
    Ending idle activity direction log (.write direction rest reply) result := by
  have copied := reached.copied direction
  rw [turn] at copied
  have cut : CutAt direction log rest := copied.cut
  simp only [afterWrite, pipe_update_self] at ends
  rcases reply with cause | _ | count
  · simp only [Pipe.afterWrite] at ends
    split at ends
    · cases ends
    · cases ends
      exact .unwritten ‹_› cut
  · cases ends
    exact .stuck cut
  · simp only [Pipe.afterWrite] at ends
    split at ends <;> cases ends

/-- How a flush behind a chunk ends a pipe. -/
theorem Reaches.ending_of_flush (reached : Reaches idle activity log relay)
    {reply : Except IoError Unit} (turn : relay.pipe direction = .flushing)
    (ends : ((relay.afterFlush direction now reply).pipe direction).result? = some result) :
    Ending idle activity direction log (.flush direction now reply) result := by
  have whole : bytesWritten direction log = bytesRead direction log :=
    reached.whole (by rw [turn]; rfl) (by simp [turn])
  simp only [afterFlush, pipe_note, pipe_update_self] at ends
  rcases reply with cause | _ <;> cases ends
  exact .unflushed whole

/-- How the last flush ends a pipe. -/
theorem Reaches.ending_of_lastFlush (reached : Reaches idle activity log relay)
    {reply : Except IoError Unit} (turn : relay.pipe direction = .finishing)
    (ends : ((relay.afterLastFlush direction reply).pipe direction).result? = some result) :
    Ending idle activity direction log (.lastFlush direction reply) result := by
  have carried := reached.carried direction
  have whole : bytesWritten direction log = bytesRead direction log :=
    reached.whole (by rw [turn]; rfl) (by simp [turn])
  rw [turn] at carried
  have met : metEnd direction log = true := carried.met_of_finishing
  simp only [afterLastFlush, pipe_update_self] at ends
  rcases reply with cause | _ <;> cases ends
  · exact .unfinished met whole
  · exact .finished met whole

/-- A pipe ends with one of the steps which it takes itself. -/
theorem Reaches.ending {after : Relay} {event : Event} (reached : Reaches idle activity log relay)
    (step : Step relay event after) (running : (relay.pipe direction).result? = none)
    (ends : (after.pipe direction).result? = some result) :
    Ending idle activity direction log event result := by
  have own : event.pipe? = some direction := by
    by_contra foreign
    rw [step.pipe_foreign foreign, running] at ends
    cases ends
  cases step with
  | read _ now reply turn => cases own; exact reached.ending_of_read turn ends
  | write _ reply turn => cases own; exact reached.ending_of_write turn ends
  | flush _ now reply turn => cases own; exact reached.ending_of_flush turn ends
  | lastFlush _ reply turn => cases own; exact reached.ending_of_lastFlush turn ends
  | closeNear | closeFar => cases own

end AtStep

/-- One event has ended a pipe which has ended, and the pipe did nothing behind that. -/
theorem Reaches.ended (reached : Reaches idle activity log relay) {direction : Direction}
    {result : Except Error Unit} (ends : (relay.pipe direction).result? = some result) :
    ∃ past event later, log = past ++ event :: later ∧
      Ending idle activity direction past event result ∧
        ∀ other ∈ later, other.pipe? ≠ some direction := by
  induction reached with
  | start => cases direction <;> cases ends
  | @step log before after event reached step ih =>
      cases outcome : (before.pipe direction).result? with
      | none => exact ⟨log, event, [], rfl, reached.ending step outcome ends, by simp⟩
      | some earlier =>
          have same := step.keeps_ended outcome
          rw [ends] at same
          cases same
          obtain ⟨past, ending, later, rfl, ended, silent⟩ := ih outcome
          refine ⟨past, ending, later ++ [event], by simp, ended, ?_⟩
          simp only [List.mem_append, List.mem_singleton]
          rintro other (earlier | rfl)
          · exact silent other earlier
          · intro own
            rw [(step.advance own).running] at outcome
            cases outcome

end Relay
end TunnelProxy
