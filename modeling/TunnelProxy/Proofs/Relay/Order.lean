import TunnelProxy.Proofs.Relay.Run
import TunnelProxy.Proofs.Session.Run

/-!
# The order of a relay

A relay ends as the direction which reported first.  What each direction has written is the front of
what it has read, and all of it once the direction has met the end of its source.  Both streams are
closed once, between the first report and the end of the relay, and nothing happens after its end.
-/

namespace TunnelProxy

namespace RelayStage

/-- How often the near stream has been closed before a stage. -/
def nearCloses : RelayStage → Nat
  | waiting | closingNear => 0
  | closingFar | joining => 1

/-- How often the far stream has been closed before a stage. -/
def farCloses : RelayStage → Nat
  | waiting | closingNear | closingFar => 0
  | joining => 1

end RelayStage

namespace Relay

/-! ## The first report -/

/-- A direction was the first to report how it ended. -/
inductive First (idle : Option Nat) (activity : Nat) :
    List Event → Direction → Except Error Unit → Prop
  /-- It has just reported. -/
  | now {log : List Event} {before after : Relay} {event : Event} {direction : Direction}
      {result : Except Error Unit} (reached : Reaches idle activity log before)
      (step : Step before event after) (running : ∀ other, (before.pipe other).result? = none)
      (reports : (after.pipe direction).result? = some result) :
      First idle activity (log ++ [event]) direction result
  /-- It reported before something else happened. -/
  | earlier {log : List Event} {direction : Direction} {result : Except Error Unit}
      (first : First idle activity log direction result) (event : Event) :
      First idle activity (log ++ [event]) direction result

section Update

variable (relay : Relay) (direction : Direction) (pipe : Pipe)

theorem first_update : (relay.update direction pipe).first = relay.first.or pipe.result? := by
  cases direction <;> simp only [update] <;>
    cases relay.first <;> cases pipe.result? <;> simp

theorem stage_update :
    (relay.update direction pipe).stage =
      if relay.first = none ∧ pipe.result? ≠ none then .closingNear else relay.stage := by
  cases direction <;> simp only [update] <;>
    cases relay.first <;> cases pipe.result? <;> simp

end Update

theorem Pipe.Advance.not_close {direction : Direction} {pipe next : Pipe} {event : Event}
    (advance : Pipe.Advance direction pipe event next) :
    event.isCloseNear = false ∧ event.isCloseFar = false := by
  cases advance <;> exact ⟨rfl, rfl⟩

theorem Step.unique {relay after other : Relay} {event : Event} (step : Step relay event after)
    (again : Step relay event other) : after = other := by
  cases step <;> cases again <;> rfl

variable {idle : Option Nat} {activity : Nat} {log : List Event} {relay : Relay}

/-- What has happened decides what a relay is like. -/
theorem Reaches.unique {other : Relay} (reached : Reaches idle activity log relay)
    (again : Reaches idle activity log other) : relay = other := by
  induction reached generalizing other with
  | start =>
      generalize empty : ([] : List Event) = log at again
      cases again with
      | start => rfl
      | step => simp at empty
  | @step log before after event reached step ih =>
      generalize extended : log ++ [event] = longer at again
      cases again with
      | start => simp at extended
      | step earlier last =>
          obtain ⟨rfl, same⟩ := List.append_inj' extended rfl
          cases same
          cases ih earlier
          exact step.unique last

theorem Pipe.Advance.running {direction : Direction} {pipe next : Pipe} {event : Event}
    (advance : Pipe.Advance direction pipe event next) : pipe.result? = none := by
  cases advance <;> rfl

/-- A pipe which has ended does nothing any more. -/
theorem Step.keeps_ended {before after : Relay} {event : Event} (step : Step before event after)
    {direction : Direction} {result : Except Error Unit}
    (ended : (before.pipe direction).result? = some result) :
    (after.pipe direction).result? = some result := by
  cases step.change with
  | pipe active next now moved advance same =>
      have other : direction ≠ active := by
        rintro rfl
        rw [advance.running] at ended
        cases ended
      rw [same, pipe_note, pipe_update_other _ _ _ other, ended]
  | near _ _ same | far _ _ same => rw [same, pipe_afterClose, ended]

/-! ## Stages -/

/-- What the stage of a relay tells about what has happened. -/
structure Staged (idle : Option Nat) (activity : Nat) (log : List Event) (relay : Relay) : Prop where
  /-- The relay waits as long as there is no first report. -/
  waiting : relay.stage = .waiting ↔ relay.first = none
  /-- There is no first report as long as both pipes are running. -/
  running : relay.first = none ↔ ∀ direction, (relay.pipe direction).result? = none
  /-- The first report was made by a direction, and by no other. -/
  reported : ∀ result, relay.first = some result ↔
    ∃ direction, First idle activity log direction result
  /-- The near stream has been closed as often as it should be. -/
  near : log.countP Event.isCloseNear = relay.stage.nearCloses
  /-- The far stream has been closed as often as it should be. -/
  far : log.countP Event.isCloseFar = relay.stage.farCloses
  /-- Streams are closed behind the first report. -/
  closed : Throughout (fun past event => event.isCloseNear ∨ event.isCloseFar →
    ∃ direction result, First idle activity past direction result) [] log

theorem not_first_nil {direction : Direction} {result : Except Error Unit} :
    ¬ First idle activity [] direction result := by
  intro first
  generalize empty : ([] : List Event) = log at first
  cases first <;> simp at empty

theorem staged_start : Staged idle activity [] (start idle activity) where
  waiting := iff_of_true rfl rfl
  running := iff_of_true rfl fun direction => by cases direction <;> rfl
  reported result := iff_of_false nofun fun ⟨_, first⟩ => not_first_nil first
  near := rfl
  far := rfl
  closed := trivial

/-- Who is first after a step was so before, or reports with the step. -/
theorem first_concat_iff {before after : Relay} {event : Event} {direction : Direction}
    {result : Except Error Unit} (reached : Reaches idle activity log before)
    (step : Step before event after) :
    First idle activity (log ++ [event]) direction result ↔
      First idle activity log direction result ∨
        (∀ other, (before.pipe other).result? = none) ∧
          (after.pipe direction).result? = some result := by
  constructor
  · intro first
    generalize extended : log ++ [event] = longer at first
    cases first with
    | now again last running reports =>
        obtain ⟨rfl, same⟩ := List.append_inj' extended rfl
        cases same
        cases reached.unique again
        cases step.unique last
        exact .inr ⟨running, reports⟩
    | earlier first =>
        obtain ⟨rfl, -⟩ := List.append_inj' extended rfl
        exact .inl first
  · rintro (first | ⟨running, reports⟩)
    · exact .earlier first event
    · exact .now reached step running reports

/-- Closing a stream moves on to the next stage. -/
theorem Staged.close {before : Relay} {event : Event} (staged : Staged idle activity log before)
    (reached : Reaches idle activity log before) (step : Step before event before.afterClose)
    (closing : before.stage ≠ .waiting)
    (waits : before.afterClose.stage ≠ .waiting)
    (near : (log ++ [event]).countP Event.isCloseNear = before.afterClose.stage.nearCloses)
    (far : (log ++ [event]).countP Event.isCloseFar = before.afterClose.stage.farCloses) :
    Staged idle activity (log ++ [event]) before.afterClose := by
  have ended : before.first ≠ none := fun none => closing (staged.waiting.mpr none)
  constructor
  · rw [first_afterClose]
    exact iff_of_false waits ended
  · simp only [first_afterClose, pipe_afterClose, staged.running]
  · intro result
    rw [first_afterClose, staged.reported]
    refine exists_congr fun direction => ?_
    rw [first_concat_iff reached step, ← staged.running]
    exact ⟨.inl, fun first => first.resolve_right fun ⟨open_still, _⟩ => ended open_still⟩
  · exact near
  · exact far
  · refine (throughout_append ..).mpr ⟨staged.closed, fun _ => ?_, trivial⟩
    obtain ⟨result, first⟩ := Option.ne_none_iff_exists'.mp ended
    obtain ⟨direction, reporter⟩ := (staged.reported result).mp first
    exact ⟨direction, result, reporter⟩

section Advance

variable {before : Relay} {event : Event} {direction : Direction} {next : Pipe} {now : Nat}
  {moved : Bool}

/-- A step of a pipe changes this pipe only. -/
theorem pipe_advanced (before : Relay) (direction other : Direction) (next : Pipe) (now : Nat)
    (moved : Bool) : ((before.update direction next).note now moved).pipe other =
      if other = direction then next else before.pipe other := by
  rw [pipe_note]
  split
  · rename_i mine
    subst mine
    exact pipe_update_self ..
  · exact pipe_update_other _ _ _ ‹_›

theorem Staged.running_advance (staged : Staged idle activity log before)
    (step : Step before event ((before.update direction next).note now moved)) :
    ((before.update direction next).note now moved).first = none ↔
      ∀ other, (((before.update direction next).note now moved).pipe other).result? = none := by
  rw [first_note, first_update]
  cases open_still : before.first with
  | none =>
      have running : ∀ other, (before.pipe other).result? = none := staged.running.mp open_still
      rw [Option.none_or]
      constructor
      · intro unended other
        rw [pipe_advanced]
        split
        · exact unended
        · exact running other
      · intro all
        simpa [pipe_advanced] using all direction
  | some result =>
      refine iff_of_false (by simp) fun all => ?_
      have some_ended : ¬ ∀ other, (before.pipe other).result? = none := by
        simp [← staged.running, open_still]
      refine some_ended fun other => ?_
      cases ended : (before.pipe other).result? with
      | none => rfl
      | some earlier => rw [← all other, step.keeps_ended ended]

/-- A step of a pipe reports if it is the first to end a pipe. -/
theorem Staged.reported_advance (staged : Staged idle activity log before)
    (reached : Reaches idle activity log before)
    (step : Step before event ((before.update direction next).note now moved))
    (result : Except Error Unit) :
    ((before.update direction next).note now moved).first = some result ↔
      ∃ other, First idle activity (log ++ [event]) other result := by
  simp only [first_concat_iff reached step, exists_or, ← staged.reported, ← staged.running]
  rw [first_note, first_update]
  cases open_still : before.first with
  | none =>
      simp only [Option.none_or, reduceCtorEq, false_or, true_and, pipe_advanced]
      constructor
      · exact fun reports => ⟨direction, by rw [if_pos rfl, reports]⟩
      · rintro ⟨other, reports⟩
        split at reports
        · exact reports
        · rw [staged.running.mp open_still] at reports
          cases reports
  | some earlier => simp

theorem Staged.advance (staged : Staged idle activity log before)
    (reached : Reaches idle activity log before)
    (step : Step before event ((before.update direction next).note now moved))
    (advance : Pipe.Advance direction (before.pipe direction) event next) :
    Staged idle activity (log ++ [event]) ((before.update direction next).note now moved) := by
  obtain ⟨unclosed_near, unclosed_far⟩ := advance.not_close
  refine ⟨?_, staged.running_advance step, staged.reported_advance reached step, ?_, ?_, ?_⟩
  · rw [stage_note, stage_update, first_note, first_update]
    cases open_still : before.first with
    | none => cases next.result? <;> simp [staged.waiting.mpr open_still]
    | some result => simpa [open_still] using staged.waiting
  · rw [List.countP_append, staged.near, stage_note, stage_update]
    split
    · simp [unclosed_near, staged.waiting.mpr ‹_ ∧ _›.1, RelayStage.nearCloses]
    · simp [unclosed_near]
  · rw [List.countP_append, staged.far, stage_note, stage_update]
    split
    · simp [unclosed_far, staged.waiting.mpr ‹_ ∧ _›.1, RelayStage.farCloses]
    · simp [unclosed_far]
  · refine (throughout_append ..).mpr ⟨staged.closed, fun closes => ?_, trivial⟩
    simp [unclosed_near, unclosed_far] at closes

end Advance

theorem Reaches.staged (reached : Reaches idle activity log relay) :
    Staged idle activity log relay := by
  induction reached with
  | start => exact staged_start
  | @step log before after event reached step ih =>
      cases step.change with
      | pipe direction next now moved advance same =>
          subst same
          exact ih.advance reached step advance
      | near closing turn same =>
          subst closing same
          refine ih.close reached step ?_ ?_ ?_ ?_ <;>
            simp [turn, afterClose, ih.near, ih.far, Event.isCloseNear, Event.isCloseFar,
              RelayStage.nearCloses, RelayStage.farCloses]
      | far closing turn same =>
          subst closing same
          refine ih.close reached step ?_ ?_ ?_ ?_ <;>
            simp [turn, afterClose, ih.near, ih.far, Event.isCloseNear, Event.isCloseFar,
              RelayStage.nearCloses, RelayStage.farCloses]

/-! ## The end of a relay -/

/-- What holds once a relay has ended with a result. -/
structure Returned (idle : Option Nat) (activity : Nat) (log : List Event) (relay : Relay)
    (result : Except Error Unit) : Prop where
  /-- A direction was the first to report, and this is how it ended. -/
  first : ∃ direction, First idle activity log direction result
  /-- Who was first did not end in any other way. -/
  only : ∀ direction other, First idle activity log direction other → other = result
  /-- The near stream has been closed once. -/
  near : log.countP Event.isCloseNear = 1
  /-- The far stream has been closed once. -/
  far : log.countP Event.isCloseFar = 1
  /-- Both pipes have ended. -/
  ended : ∀ direction, ∃ outcome, relay.pipe direction = .ended outcome
  /-- Nothing happens any more. -/
  stopped : ∀ event next, ¬ Step relay event next

/-- What holds of a relay whenever some events have led to it. -/
structure Orderly (idle : Option Nat) (activity : Nat) (log : List Event) (relay : Relay) : Prop where
  /-- Each direction has written the front of what it has read. -/
  carried : ∀ direction, bytesWritten direction log <+: bytesRead direction log
  /-- A direction which has met the end of its source has written all that it has read. -/
  complete : ∀ direction, metEnd direction log = true →
    bytesWritten direction log = bytesRead direction log
  /-- If the first direction did not fail, it has met the end of its source. -/
  finished : ∀ direction, First idle activity log direction (.ok ()) → metEnd direction log = true
  /-- Each stream is closed at most once. -/
  once : log.countP Event.isCloseNear ≤ 1 ∧ log.countP Event.isCloseFar ≤ 1
  /-- Streams are closed behind the first report only. -/
  closed : ∀ before event after, log = before ++ event :: after →
    event.isCloseNear ∨ event.isCloseFar →
      ∃ direction result, First idle activity before direction result
  /-- What holds at the end. -/
  returned : ∀ result, relay.result? = some result → Returned idle activity log relay result

/-- Who is first to end without a failure has met the end of its source. -/
theorem First.metEnd {direction : Direction}
    (first : First idle activity log direction (.ok ())) : metEnd direction log = true := by
  generalize proper : (Except.ok () : Except Error Unit) = result at first
  induction first with
  | now reached step running reports =>
      subst proper
      exact ((reached.step step).carried _).ended_of_ok reports
  | earlier first event ih => simp [ih proper]

theorem result?_eq_some {result : Except Error Unit} (returned : relay.result? = some result) :
    relay.stage = .joining ∧ relay.first = some result ∧
      ∀ direction, ∃ outcome, relay.pipe direction = .ended outcome := by
  rw [result?] at returned
  split at returned
  · rename_i stage outbound incoming
    refine ⟨stage, returned, fun direction => ?_⟩
    cases direction with
    | outbound =>
        change ∃ outcome, relay.outbound = .ended outcome
        cases pipe : relay.outbound <;> simp_all [Pipe.result?]
    | incoming =>
        change ∃ outcome, relay.incoming = .ended outcome
        cases pipe : relay.incoming <;> simp_all [Pipe.result?]
  · cases returned

/-- Whatever its streams do and in whatever order its pipes go on, a relay is in order. -/
theorem orderly_of_reaches (reached : Reaches idle activity log relay) :
    Orderly idle activity log relay := by
  have staged := reached.staged
  constructor
  · exact fun direction => (reached.carried direction).written_isPrefix
  · intro direction ended
    have carried := reached.carried direction
    rw [ended] at carried
    exact carried.written_eq
  · exact fun direction first => first.metEnd
  · rw [staged.near, staged.far]
    cases relay.stage <;> simp [RelayStage.nearCloses, RelayStage.farCloses]
  · exact fun before event after split closes => staged.closed.at_split split closes
  · intro result returned
    obtain ⟨joining, first, ended⟩ := result?_eq_some returned
    constructor
    · exact (staged.reported result).mp first
    · intro direction other again
      have same := (staged.reported other).mpr ⟨direction, again⟩
      rw [first] at same
      exact (Option.some.inj same).symm
    · rw [staged.near, joining]
      rfl
    · rw [staged.far, joining]
      rfl
    · exact ended
    · intro event next step
      cases step.change with
      | pipe direction _ _ _ advance =>
          obtain ⟨outcome, same⟩ := ended direction
          rw [same] at advance
          cases advance
      | near _ turn => rw [joining] at turn; cases turn
      | far _ turn => rw [joining] at turn; cases turn

/-- A relay whose near stream ends behind two bytes, one of which is written at a time, while the far
stream is interrupted and fails once it has been closed. -/
theorem orderly_of_short_writes :
    ∃ log relay, Reaches none 0 log relay ∧ relay.result? = some (.ok ()) ∧
      bytesRead .outbound log = [7, 8] ∧ Orderly none 0 log relay := by
  have started : Reaches none 0 [] _ := .start
  have read := started.step (.read .outbound 0 (.ok [7, 8]) rfl (by rintro bytes ⟨⟩; decide))
  have waited := read.step (.read .incoming 0 (.error (.ofKind .interrupted)) rfl nofun)
  have first := waited.step (.write .outbound (.ok 1) rfl (by rintro count ⟨⟩; decide))
  have second := first.step (.write .outbound (.ok 1) rfl (by rintro count ⟨⟩; decide))
  have flushed := second.step (.flush .outbound 0 (.ok ()) rfl)
  have ended := flushed.step (.read .outbound 0 (.ok []) rfl (by rintro bytes ⟨⟩; decide))
  have reported := ended.step (.lastFlush .outbound (.ok ()) rfl)
  have near := reported.step (.closeNear rfl)
  have far := near.step (.closeFar rfl)
  have failed := far.step (.read .incoming 0 (.error (.ofKind .brokenPipe)) rfl nofun)
  exact ⟨_, _, failed, rfl, rfl, orderly_of_reaches failed⟩

end Relay
end TunnelProxy
