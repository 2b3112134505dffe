import TunnelProxy.Proofs.Relay.Order

/-!
# What a relay drops

Closing both streams may meet the other direction between a read and the write behind it.  If no stream
fails by itself, the direction which reports first has written everything it has read, and the other
one has dropped exactly what its destination refused behind the closing: the end of one chunk.
-/

namespace TunnelProxy
namespace Relay

/-! ## Failures -/

namespace Event

/-- Whether the source of a direction failed.  Interruptions and expired reads are no failures. -/
def failsReading (direction : Direction) : Event → Bool
  | read source _ (.error cause) =>
      source = direction && cause.kind ≠ .interrupted && !cause.kind.isTimeout
  | _ => false

/-- Whether bytes were refused for good. -/
def isRefusal (direction : Direction) : Event → Bool
  | write source _ (.error cause) => source = direction && cause.kind ≠ .interrupted
  | write source _ (.ok 0) => source = direction
  | _ => false

/-- Whether the destination of a direction failed. -/
def failsWriting (direction : Direction) : Event → Bool
  | write source rest reply => isRefusal direction (.write source rest reply)
  | flush source _ (.error _) => source = direction
  | lastFlush source (.error _) => source = direction
  | _ => false

/-- Whether the source of a direction was closed. -/
def closesSource : Direction → Event → Bool
  | .outbound => isCloseNear
  | .incoming => isCloseFar

/-- Whether the destination of a direction was closed. -/
def closesDestination : Direction → Event → Bool
  | .outbound => isCloseFar
  | .incoming => isCloseNear

theorem failsWriting_of_isRefusal {direction : Direction} {event : Event}
    (refusal : event.isRefusal direction = true) : event.failsWriting direction = true := by
  cases event with
  | write => exact refusal
  | _ => cases refusal

theorem isClose_of_closesDestination {direction : Direction} {event : Event}
    (closes : event.closesDestination direction = true) :
    event.isCloseNear = true ∨ event.isCloseFar = true := by
  cases direction with
  | outbound => exact .inr closes
  | incoming => exact .inl closes

end Event

/-- No stream fails before the relay has closed it. -/
def Faultless (log : List Event) : Prop :=
  Throughout (fun past event => ∀ direction,
    (event.failsReading direction = true → past.any (Event.closesSource direction) = true) ∧
    (event.failsWriting direction = true → past.any (Event.closesDestination direction) = true)) [] log

/-! ## What is read and not written -/

/-- What a pipe has read and not written, and whether this was refused. -/
inductive Pipe.Owes : Pipe → Bytes → Bool → Prop
  /-- The rest of a chunk is still to be written. -/
  | writing {rest : Bytes} (some_left : rest ≠ []) (bound : rest.length ≤ chunkLimit) :
      Owes (.writing rest) rest false
  /-- The rest of a chunk was refused. -/
  | refused {rest : Bytes} (error : Error) (some_left : rest ≠ [])
      (bound : rest.length ≤ chunkLimit) : Owes (.ended (.error error)) rest true
  /-- Everything was written. -/
  | nothing {pipe : Pipe} (idle : ∀ rest, pipe ≠ .writing rest) : Owes pipe [] false

theorem Pipe.Owes.of_ended {result : Except Error Unit} {rest : Bytes} {refused : Bool}
    (owes : (Pipe.ended result).Owes rest refused) :
    rest.length ≤ chunkLimit ∧ (rest ≠ [] ↔ refused = true) := by
  cases owes with
  | refused _ some_left bound => exact ⟨bound, iff_of_true some_left rfl⟩
  | nothing => exact ⟨Nat.zero_le _, by simp⟩

/-- A step of a pipe keeps account of what the pipe still has to write. -/
theorem Pipe.Advance.owes {direction : Direction} {pipe next : Pipe} {event : Event} {rest : Bytes}
    {refused : Bool} (advance : Pipe.Advance direction pipe event next)
    (owes : pipe.Owes rest refused) :
    ∃ later, next.Owes later (refused || event.isRefusal direction) ∧
      rest ++ event.taken direction = event.given direction ++ later := by
  cases advance with
  | @read idle quiet now reply fits =>
      cases owes
      rcases reply with cause | _ | ⟨byte, chunk⟩
      · refine ⟨[], ?_, rfl⟩
        simp only [Pipe.afterRead]
        split
        · exact .nothing (by simp)
        · split
          · split
            · split <;> exact .nothing (by simp)
            · exact .nothing (by simp)
          · exact .nothing (by simp)
      · exact ⟨[], .nothing (by simp [Pipe.afterRead]), by simp [Event.taken, Event.given]⟩
      · refine ⟨byte :: chunk, .writing (List.cons_ne_nil _ _) (fits _ rfl), ?_⟩
        simp [Event.taken, Event.given]
  | @write rest reply fits =>
      cases owes with
      | nothing idle => exact absurd rfl (idle rest)
      | writing some_left bound =>
          rcases reply with cause | _ | count
          · refine ⟨rest, ?_, by simp [Event.taken, Event.given]⟩
            simp only [Pipe.afterWrite, Event.isRefusal]
            split
            · rename_i interrupted
              simpa [interrupted] using Pipe.Owes.writing some_left bound
            · rename_i failed
              simpa [failed] using Pipe.Owes.refused (.io cause) some_left bound
          · refine ⟨rest, ?_, by simp [Event.taken, Event.given]⟩
            simpa [Pipe.afterWrite, Event.isRefusal] using
              Pipe.Owes.refused (.io .stuck) some_left bound
          · refine ⟨rest.drop (count + 1), ?_, by simp [Event.taken, Event.given]⟩
            have shorter : (rest.drop (count + 1)).length ≤ chunkLimit := by
              rw [List.length_drop]
              omega
            simp only [Pipe.afterWrite, Event.isRefusal]
            split
            · rename_i whole
              rw [whole]
              exact .nothing (by simp)
            · rename_i later some_later
              exact .writing some_later shorter
  | @flush now reply =>
      cases owes
      rcases reply with cause | _ <;> exact ⟨[], .nothing (by simp [Pipe.afterFlush]), rfl⟩
  | @lastFlush reply =>
      cases owes
      rcases reply with cause | _ <;> exact ⟨[], .nothing (by simp [Pipe.afterLastFlush]), rfl⟩

theorem Pipe.Advance.no_refusal {direction other : Direction} {pipe next : Pipe} {event : Event}
    (advance : Pipe.Advance direction pipe event next) (different : other ≠ direction) :
    event.isRefusal other = false := by
  have apart : direction ≠ other := Ne.symm different
  cases advance with
  | @write _ reply => rcases reply with _ | _ | _ <;> simp [Event.isRefusal, apart]
  | _ => rfl

variable {idle : Option Nat} {activity : Nat} {log : List Event} {relay : Relay}

/-- What a direction has read is what it has written and what its pipe has left of a chunk. -/
theorem Reaches.owes (reached : Reaches idle activity log relay) (direction : Direction) :
    ∃ rest, (relay.pipe direction).Owes rest (log.any (Event.isRefusal direction)) ∧
      bytesRead direction log = bytesWritten direction log ++ rest := by
  induction reached with
  | start => exact ⟨[], by cases direction <;> exact .nothing nofun, rfl⟩
  | @step log before after event reached step ih =>
      obtain ⟨rest, owes, account⟩ := ih
      simp only [bytesRead_concat, bytesWritten_concat, List.any_append, List.any_cons, List.any_nil,
        Bool.or_false]
      cases step.change with
      | pipe active next now moved advance same =>
          subst same
          rw [pipe_note]
          by_cases mine : direction = active
          · subst mine
            obtain ⟨later, owes, moved⟩ := advance.owes owes
            refine ⟨later, by rwa [pipe_update_self], ?_⟩
            rw [account, List.append_assoc, moved, List.append_assoc]
          · obtain ⟨unread, unwritten, -⟩ := advance.foreign mine
            refine ⟨rest, ?_, by rw [unread, unwritten, List.append_nil, List.append_nil, account]⟩
            rwa [pipe_update_other _ _ _ mine, advance.no_refusal mine, Bool.or_false]
      | near closing turn same =>
          subst closing same
          refine ⟨rest, ?_, by simpa [Event.taken, Event.given] using account⟩
          simpa [Event.isRefusal] using owes
      | far closing turn same =>
          subst closing same
          refine ⟨rest, ?_, by simpa [Event.taken, Event.given] using account⟩
          simpa [Event.isRefusal] using owes

/-! ## Who drops bytes -/

/-- Who has reported first does nothing any more. -/
theorem First.ended {direction : Direction} {result : Except Error Unit}
    (first : First idle activity log direction result) (reached : Reaches idle activity log relay) :
    (relay.pipe direction).result? = some result := by
  induction first generalizing relay with
  | now before step running reports =>
      rw [reached.unique (before.step step)]
      exact reports
  | @earlier log direction result first event ih =>
      generalize extended : log ++ [event] = longer at reached
      cases reached with
      | start => simp at extended
      | step before last =>
          obtain ⟨rfl, -⟩ := List.append_inj' extended rfl
          exact last.keeps_ended (ih before)

theorem First.append {direction : Direction} {result : Except Error Unit}
    (first : First idle activity log direction result) (later : List Event) :
    First idle activity (log ++ later) direction result := by
  induction later using List.reverseRecOn with
  | nil => rwa [List.append_nil]
  | append_singleton later event ih =>
      rw [← List.append_assoc]
      exact ih.earlier event

/-- One step ends one pipe. -/
theorem Step.ends_one {before after : Relay} {event : Event} (step : Step before event after)
    {first second : Direction} {result outcome : Except Error Unit}
    (running : ∀ direction, (before.pipe direction).result? = none)
    (first_ends : (after.pipe first).result? = some result)
    (second_ends : (after.pipe second).result? = some outcome) : first = second := by
  cases step.change with
  | pipe active next now moved advance same =>
      have only_active {direction : Direction} {ending : Except Error Unit}
          (ends : (after.pipe direction).result? = some ending) : direction = active := by
        by_contra other
        rw [same, pipe_note, pipe_update_other _ _ _ other, running] at ends
        cases ends
      rw [only_active first_ends, only_active second_ends]
  | near _ _ same | far _ _ same =>
      rw [same, pipe_afterClose, running] at first_ends
      cases first_ends

/-- Only one direction is the first to report. -/
theorem First.unique {first second : Direction} {result outcome : Except Error Unit}
    (reports : First idle activity log first result)
    (others : First idle activity log second outcome) : first = second := by
  induction reports with
  | @now log before after event first result reached step running ends =>
      generalize extended : log ++ [event] = longer at others
      cases others with
      | now again last _ ends_too =>
          obtain ⟨rfl, same⟩ := List.append_inj' extended rfl
          cases same
          cases reached.unique again
          cases step.unique last
          exact step.ends_one running ends ends_too
      | earlier others =>
          obtain ⟨rfl, -⟩ := List.append_inj' extended rfl
          have ended := others.ended reached
          rw [running] at ended
          cases ended
  | @earlier log first result reports event ih =>
      generalize extended : log ++ [event] = longer at others
      cases others with
      | now again _ running _ =>
          obtain ⟨rfl, -⟩ := List.append_inj' extended rfl
          have ended := reports.ended again
          rw [running] at ended
          cases ended
      | earlier others =>
          obtain ⟨rfl, -⟩ := List.append_inj' extended rfl
          exact ih others

/-- A relay which has come to some events has come to the first of them, and there to the next. -/
theorem Reaches.at_split {past later : List Event} {event : Event}
    (reached : Reaches idle activity log relay) (split : log = past ++ event :: later) :
    ∃ before after, Reaches idle activity past before ∧ Step before event after := by
  induction reached generalizing later with
  | start => simp at split
  | @step log before after last reached step ih =>
      rcases List.eq_nil_or_concat later with rfl | ⟨rest, final, rfl⟩
      · obtain ⟨rfl, same⟩ := List.append_inj' split rfl
        cases same
        exact ⟨before, after, reached, step⟩
      · have longer : log ++ [last] = (past ++ event :: rest) ++ [final] := by
          rw [split, List.concat_eq_append, List.append_assoc, List.cons_append]
        exact ih (List.append_inj' longer rfl).1

theorem Step.refused_of_isRefusal {before after : Relay} {event : Event} {direction : Direction}
    (step : Step before event after) (refusal : event.isRefusal direction = true) :
    (before.pipe direction).result? = none := by
  cases step.change with
  | pipe active next now moved advance same =>
      by_cases mine : direction = active
      · rw [mine]
        exact advance.running
      · rw [advance.no_refusal mine] at refusal
        cases refusal
  | near closing => subst closing; cases refusal
  | far closing => subst closing; cases refusal

/-- A write is refused only behind the report of the other direction. -/
theorem refused_behind (reached : Reaches idle activity log relay) (faultless : Faultless log)
    {past later : List Event} {event : Event} {direction : Direction}
    (split : log = past ++ event :: later) (refusal : event.isRefusal direction = true) :
    ∃ other result, other ≠ direction ∧ First idle activity past other result := by
  obtain ⟨before, after, reached_past, step⟩ := reached.at_split split
  have failure := Event.failsWriting_of_isRefusal refusal
  have closed := (faultless.at_split split direction).2 failure
  obtain ⟨closing, among, closes⟩ := List.any_eq_true.mp closed
  obtain ⟨front, back, rfl⟩ := List.append_of_mem among
  obtain ⟨other, result, first⟩ := (orderly_of_reaches reached_past).closed front closing back rfl
    (Event.isClose_of_closesDestination closes)
  have first := first.append (closing :: back)
  refine ⟨other, result, ?_, first⟩
  rintro rfl
  have running := step.refused_of_isRefusal refusal
  rw [first.ended reached_past] at running
  cases running

/-- What a relay drops by the time it ends. -/
structure Accounted (idle : Option Nat) (activity : Nat) (log : List Event) : Prop where
  /-- The direction which has reported first has written all that it has read. -/
  kept : ∀ direction result, First idle activity log direction result →
    bytesWritten direction log = bytesRead direction log
  /-- What a direction has dropped is the end of one chunk. -/
  bounded : ∀ direction, ∃ rest, bytesRead direction log = bytesWritten direction log ++ rest ∧
    rest.length ≤ chunkLimit
  /-- A direction drops nothing exactly if none of its writes was refused. -/
  dropped : ∀ direction, bytesWritten direction log = bytesRead direction log ↔
    ∀ event ∈ log, event.isRefusal direction = false
  /-- A write is refused only behind the closing of its destination, and behind the report of the other
  direction. -/
  refused : ∀ direction past event later, log = past ++ event :: later →
    event.isRefusal direction = true → past.any (Event.closesDestination direction) = true ∧
      ∃ other result, other ≠ direction ∧ First idle activity past other result

/-- A relay between streams which do not fail by themselves drops what is refused behind its closing of
them, and nothing else. -/
theorem accounted_of_faultless (reached : Reaches idle activity log relay)
    {result : Except Error Unit} (returned : relay.result? = some result)
    (faultless : Faultless log) : Accounted idle activity log := by
  obtain ⟨-, -, ended⟩ := result?_eq_some returned
  have account (direction : Direction) : ∃ rest,
      bytesRead direction log = bytesWritten direction log ++ rest ∧ rest.length ≤ chunkLimit ∧
        (rest ≠ [] ↔ log.any (Event.isRefusal direction) = true) := by
    obtain ⟨rest, owes, account⟩ := reached.owes direction
    obtain ⟨outcome, pipe⟩ := ended direction
    rw [pipe] at owes
    exact ⟨rest, account, owes.of_ended⟩
  have dropped (direction : Direction) : bytesWritten direction log = bytesRead direction log ↔
      ∀ event ∈ log, event.isRefusal direction = false := by
    obtain ⟨rest, account, -, refused⟩ := account direction
    rw [account, List.self_eq_append_right, ← not_iff_not, ← ne_eq, refused, List.any_eq_true]
    simp
  refine ⟨fun direction result first => ?_, fun direction => ?_, dropped, ?_⟩
  · refine (dropped direction).mpr fun event among => Bool.eq_false_iff.mpr fun refusal => ?_
    -- The direction would have been refused behind its own report.
    obtain ⟨past, later, split⟩ := List.append_of_mem among
    obtain ⟨other, outcome, different, reports⟩ := refused_behind reached faultless split refusal
    rw [split] at first
    exact different ((reports.append (event :: later)).unique first)
  · obtain ⟨rest, account, bound, -⟩ := account direction
    exact ⟨rest, account, bound⟩
  · intro direction past event later split refusal
    have failure := Event.failsWriting_of_isRefusal refusal
    exact ⟨(faultless.at_split split direction).2 failure,
      refused_behind reached faultless split refusal⟩

/-- The near stream ends while the other direction has written one of two bytes to it.  Both streams are
closed, which refuses the second byte, and no stream has failed by itself. -/
theorem accounted_of_interrupted_chunk :
    ∃ log relay, Reaches none 0 log relay ∧ relay.result? = some (.ok ()) ∧ Faultless log ∧
      bytesRead .incoming log = [7, 8] ∧ bytesWritten .incoming log = [7] ∧
      Accounted none 0 log := by
  have started : Reaches none 0 [] _ := .start
  have read := started.step (.read .incoming 0 (.ok [7, 8]) rfl (by rintro bytes ⟨⟩; decide))
  have first := read.step (.write .incoming (.ok 1) rfl (by rintro count ⟨⟩; decide))
  have ended := first.step (.read .outbound 0 (.ok []) rfl (by rintro bytes ⟨⟩; decide))
  have reported := ended.step (.lastFlush .outbound (.ok ()) rfl)
  have near := reported.step (.closeNear rfl)
  have refused := near.step (.write .incoming (.error (.ofKind .brokenPipe)) rfl nofun)
  have far := refused.step (.closeFar rfl)
  refine ⟨_, _, far, rfl, ?faultless, rfl, rfl, accounted_of_faultless far rfl ?faultless⟩
  refine ⟨?_, ?_, ?_, ?_, ?_, ?_, ?_, trivial⟩ <;> intro direction <;> cases direction <;> decide

end Relay
end TunnelProxy
