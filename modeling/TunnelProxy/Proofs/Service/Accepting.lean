import Mathlib.Data.List.TakeWhile
import TunnelProxy.Service.Acceptor

/-!
# How long connections are accepted

Whoever wants the acceptor to stop may ask it at any time, or go away; the acceptor finds out in its
next round.  Until then it hands out every connection it gets, in order, whatever time-outs and
interruptions are between them.  But a failure of another kind ends it as well, though nobody has asked
and others still want to connect, even if only a single connection has failed.
-/

namespace TunnelProxy
namespace Service

variable {α : Type}

/-! ## One try -/

namespace Attempt

variable {limit : Option Duration} {attempt : Attempt α}

/-- There is a connection only if nothing has failed. -/
theorem outcome_eq_ok_iff {connection : α} :
    attempt.outcome limit = .ok connection ↔
      (∃ wait, Duration.pollLimit limit = .ok wait) ∧ (∃ count, attempt.ready = .ok (count + 1)) ∧
        attempt.connection = .ok connection ∧ attempt.readLimit = .ok () ∧
        attempt.writeLimit = .ok () := by
  obtain ⟨ready, got, readLimit, writeLimit⟩ := attempt
  rw [outcome]
  cases Duration.pollLimit limit with
  | error cause => exact ⟨nofun, fun ⟨⟨wait, usable⟩, _⟩ => nomatch usable⟩
  | ok wait =>
      rcases ready with cause | (_ | count)
      · exact ⟨nofun, fun ⟨_, ⟨count, ready⟩, _⟩ => nomatch ready⟩
      · exact ⟨nofun, fun ⟨_, ⟨count, ready⟩, _⟩ => nomatch ready⟩
      · rcases got with cause | got
        · exact ⟨nofun, fun ⟨_, _, got, _⟩ => nomatch got⟩
        · rcases readLimit with cause | ⟨⟩
          · exact ⟨nofun, fun ⟨_, _, _, limited, _⟩ => nomatch limited⟩
          · rcases writeLimit with cause | ⟨⟩
            · exact ⟨nofun, fun ⟨_, _, _, _, limited⟩ => nomatch limited⟩
            · exact ⟨fun got => ⟨⟨wait, rfl⟩, ⟨count, rfl⟩, got, rfl, rfl⟩,
                fun ⟨_, _, got, _⟩ => got⟩

/-- With a time limit which cannot be used, every try fails. -/
theorem outcome_of_unusable {cause : IoError} (unusable : Duration.pollLimit limit = .error cause)
    (attempt : Attempt α) : attempt.outcome limit = .error cause := by
  rw [outcome, unusable]
  rfl

/-- A connection which is lost before it is handed out is a failure of the try. -/
theorem outcome_of_lost {wait : Int} (usable : Duration.pollLimit limit = .ok wait) {count : Nat}
    (ready : attempt.ready = .ok (count + 1)) {cause : IoError}
    (lost : attempt.connection = .error cause) : attempt.outcome limit = .error cause := by
  rw [outcome, usable, ready, lost]
  rfl

end Attempt

namespace Acceptor

/-! ## What happens around the acceptor -/

/-- What happens while connections are accepted. -/
inductive Event (α : Type) where
  /-- The request to stop is sent. -/
  | request
  /-- Nobody is left who could send it. -/
  | leave
  /-- The acceptor looks for the request and, if there is none, tries to get a connection. -/
  | attempt (attempt : Attempt α)

namespace Event

/-- Whether the acceptor is asked to stop, or can not be asked any more. -/
def asks : Event α → Bool
  | request | leave => true
  | attempt _ => false

/-- The connection which a try gives. -/
def connection? (limit : Option Duration) : Event α → Option α
  | attempt tried => (tried.outcome limit).toOption
  | _ => none

/-- A try which gives no connection fails only because it takes too long or is interrupted. -/
def Harmless (limit : Option Duration) (event : Event α) : Prop :=
  ∃ tried, event = attempt tried ∧
    ∀ cause, tried.outcome limit = .error cause → goesOn cause.kind = true

end Event

/-- What the acceptor finds after an event where the request would be.  A request which was sent stays
there. -/
def found : StopRequest → Event α → StopRequest
  | .none, .request => .sent
  | .none, .leave => .gone
  | request, _ => request

/-- The rounds of the acceptor. -/
def rounds (limit : Option Duration) : StopRequest → List (Event α) → List (Round α)
  | _, [] => []
  | request, event :: events =>
      match event with
      | .attempt tried => ⟨request, tried.outcome limit⟩ :: rounds limit request events
      | .request | .leave => rounds limit (found request event) events

/-- What the acceptor hands out, and whether it has ended. -/
def serve (limit : Option Duration) (events : List (Event α)) : List α × Bool :=
  run (rounds limit .none events)

/-- The connections which tries have given, in order. -/
def connections (limit : Option Duration) (events : List (Event α)) : List α :=
  events.filterMap (Event.connection? limit)

variable {limit : Option Duration}

/-! ## One round -/

section Step

variable {rest : List (Round α)}

theorem run_nil : run ([] : List (Round α)) = ([], false) := by
  rw [run]
  rfl

theorem run_accepted (connection : α) :
    run (⟨.none, .ok connection⟩ :: rest) = (connection :: (run rest).1, (run rest).2) := by
  rw [run]
  rfl

theorem run_retried {cause : IoError} (again : goesOn cause.kind = true) :
    run (⟨.none, .error cause⟩ :: rest) = run rest := by
  have next_eq : next (⟨.none, .error cause⟩ :: rest) = next rest := by
    rw [next]
    exact if_pos again
  rw [run, run, next_eq]

theorem run_failed {cause : IoError} (final : goesOn cause.kind = false) :
    run (⟨.none, .error cause⟩ :: rest) = ([], true) := by
  have next_eq : next (⟨.none, .error cause⟩ :: rest) = .ended := by
    rw [next]
    exact if_neg (Bool.eq_false_iff.mp final)
  rw [run, next_eq]

theorem run_stopped {request : StopRequest} (asked : request ≠ .none) (outcome : Except IoError α) :
    run (⟨request, outcome⟩ :: rest) = ([], true) := by
  have next_eq : next (⟨request, outcome⟩ :: rest) = .ended := by
    cases request with
    | none => exact absurd rfl asked
    | sent | gone => cases outcome <;> rfl
  rw [run, next_eq]

end Step

/-! ## All rounds -/

/-- An acceptor which is asked ends with its next round. -/
theorem run_rounds_asked {request : StopRequest} (asked : request ≠ .none)
    (events : List (Event α)) :
    run (rounds limit request events) = ([], events.any fun event => !event.asks) := by
  induction events with
  | nil => exact run_nil
  | cons event events ih =>
      have stays : found request event = request := by
        cases request with
        | none => exact absurd rfl asked
        | sent | gone => cases event <;> rfl
      cases event with
      | attempt tried =>
          rw [rounds, run_stopped asked, List.any_cons, Event.asks, Bool.not_false, Bool.true_or]
      | request | leave =>
          rw [rounds, stays, ih, List.any_cons, Event.asks, Bool.not_true, Bool.false_or]

/-- How a course of events goes. -/
inductive Course (limit : Option Duration) : List (Event α) → List α × Bool → Prop
  /-- Nobody asks, and nothing fails for good: everything is handed out. -/
  | goesOn {events : List (Event α)} (harmless : ∀ event ∈ events, event.Harmless limit) :
      Course limit events (connections limit events, false)
  /-- The acceptor is asked and ends with its next round. -/
  | asked {front later : List (Event α)} {asking : Event α}
      (harmless : ∀ event ∈ front, event.Harmless limit) (asks : asking.asks = true) :
      Course limit (front ++ asking :: later)
        (connections limit front, later.any fun event => !event.asks)
  /-- A try fails for good and ends the acceptor, whatever follows. -/
  | failed {front later : List (Event α)} {tried : Attempt α} {cause : IoError}
      (harmless : ∀ event ∈ front, event.Harmless limit)
      (fails : tried.outcome limit = .error cause) (final : Acceptor.goesOn cause.kind = false) :
      Course limit (front ++ .attempt tried :: later) (connections limit front, true)

theorem Course.cons {events : List (Event α)} {result : List α × Bool}
    (course : Course limit events result) {event : Event α} (harmless : event.Harmless limit) :
    Course limit (event :: events)
      ((event.connection? limit).toList ++ result.1, result.2) := by
  have connections_cons (events : List (Event α)) : connections limit (event :: events) =
      (event.connection? limit).toList ++ connections limit events := by
    rw [connections, List.filterMap_cons]
    cases event.connection? limit <;> rfl
  cases course with
  | goesOn all =>
      rw [← connections_cons]
      exact .goesOn (List.forall_mem_cons.mpr ⟨harmless, all⟩)
  | asked all asks =>
      rw [← connections_cons]
      exact .asked (List.forall_mem_cons.mpr ⟨harmless, all⟩) asks
  | failed all fails final =>
      rw [← connections_cons]
      exact .failed (List.forall_mem_cons.mpr ⟨harmless, all⟩) fails final

theorem course_serve (limit : Option Duration) (events : List (Event α)) :
    Course limit events (serve limit events) := by
  induction events with
  | nil =>
      rw [serve, rounds, run_nil]
      exact .goesOn (List.forall_mem_nil _)
  | cons event events ih =>
      have stopped (request : StopRequest) (asked : request ≠ .none) (asks : event.asks = true) :
          Course limit (event :: events) (run (rounds limit request events)) := by
        rw [run_rounds_asked asked]
        exact @Course.asked _ _ [] _ _ (List.forall_mem_nil _) asks
      cases event with
      | request => exact stopped .sent nofun rfl
      | leave => exact stopped .gone nofun rfl
      | attempt tried =>
          rw [serve, rounds]
          cases outcome : tried.outcome limit with
          | ok connection =>
              rw [run_accepted]
              have course := ih.cons ⟨tried, rfl, fun cause failed => by cases outcome.symm.trans failed⟩
              rwa [Event.connection?, outcome] at course
          | error cause =>
              cases again : goesOn cause.kind with
              | false =>
                  rw [run_failed again]
                  exact @Course.failed _ _ [] _ _ _ (List.forall_mem_nil _) outcome again
              | true =>
                  rw [run_retried again]
                  have course := ih.cons ⟨tried, rfl, fun other failed => by
                    cases outcome.symm.trans failed
                    exact again⟩
                  rwa [Event.connection?, outcome] at course

/-! ## What users of the acceptor see -/

/-- The acceptor hands out what it gets until it is asked to stop, and does not end before. -/
structure Endures (limit : Option Duration) (events : List (Event α)) : Prop where
  /-- The connections which were got before anybody asked are handed out, in order. -/
  yields : (serve limit events).1 = connections limit (events.takeWhile fun event => !event.asks)
  /-- The acceptor ends only after it was asked. -/
  ends : (serve limit events).2 = true → ∃ event ∈ events, event.asks = true

/-- Before anybody asks, tries fail only because they take too long or are interrupted. -/
def Untroubled (limit : Option Duration) (events : List (Event α)) : Prop :=
  ∀ front tried later cause, events = front ++ .attempt tried :: later →
    (∀ event ∈ front, event.asks = false) → tried.outcome limit = .error cause →
    goesOn cause.kind = true

theorem Event.Harmless.asks {event : Event α} (harmless : event.Harmless limit) :
    event.asks = false := by
  obtain ⟨tried, rfl, -⟩ := harmless
  rfl

theorem takeWhile_of_harmless {front : List (Event α)}
    (harmless : ∀ event ∈ front, event.Harmless limit) :
    front.takeWhile (fun event => !event.asks) = front :=
  List.takeWhile_eq_self_iff.mpr fun event among => by rw [(harmless event among).asks]; rfl

theorem Untroubled.of_isPrefix {front events : List (Event α)} (untroubled : Untroubled limit events)
    (start : front <+: events) : Untroubled limit front := by
  obtain ⟨rest, rfl⟩ := start
  intro before tried later cause split
  exact untroubled before tried (later ++ rest) cause (by rw [split, List.append_assoc]; rfl)

/-- Time-outs and interruptions end nothing. -/
theorem Untroubled.endures {events : List (Event α)} (untroubled : Untroubled limit events) :
    Endures limit events := by
  have course := course_serve limit events
  generalize served : serve limit events = result at course
  cases course with
  | goesOn harmless =>
      refine ⟨?_, ?_⟩ <;> rw [served]
      · rw [takeWhile_of_harmless harmless]
      · exact nofun
  | @asked front later asking harmless asks =>
      refine ⟨?_, fun _ => ⟨asking, List.mem_append_right _ List.mem_cons_self, asks⟩⟩
      rw [served, List.takeWhile_append_of_pos
        fun event among => by rw [(harmless event among).asks]; rfl,
        List.takeWhile_cons_of_neg (by rw [asks]; nofun), List.append_nil]
  | failed harmless fails final =>
      have again := untroubled _ _ _ _ rfl (fun event among => (harmless event among).asks) fails
      cases final.symm.trans again

/-- A failure of any other kind ends the acceptor though nobody has asked, and what follows is lost. -/
theorem serve_of_failed {front : List (Event α)} (unasked : ∀ event ∈ front, event.asks = false)
    {tried : Attempt α} {cause : IoError} (fails : tried.outcome limit = .error cause)
    (final : goesOn cause.kind = false) (later : List (Event α)) :
    serve limit (front ++ .attempt tried :: later) = ((serve limit front).1, true) := by
  induction front with
  | nil =>
      rw [List.nil_append, serve, rounds, fails, run_failed final, serve, rounds, run_nil]
  | cons event front ih =>
      obtain ⟨here, unasked⟩ := List.forall_mem_cons.mp unasked
      have ih := ih unasked
      rw [serve, serve] at ih
      cases event with
      | request | leave => cases here
      | attempt earlier =>
          rw [List.cons_append, serve, serve, rounds, rounds]
          cases earlier.outcome limit with
          | ok connection => rw [run_accepted, run_accepted, ih]
          | error other =>
              cases again : goesOn other.kind with
              | true => rw [run_retried again, run_retried again, ih]
              | false => rw [run_failed again, run_failed again]

/-- A single connection which is lost ends the acceptor, unless the loss counts as a time-out or an
interruption. -/
theorem serve_of_lost {wait : Int} (usable : Duration.pollLimit limit = .ok wait)
    {front : List (Event α)} (unasked : ∀ event ∈ front, event.asks = false) {tried : Attempt α}
    {count : Nat} (ready : tried.ready = .ok (count + 1)) {cause : IoError}
    (lost : tried.connection = .error cause) (final : goesOn cause.kind = false)
    (later : List (Event α)) :
    serve limit (front ++ .attempt tried :: later) = ((serve limit front).1, true) :=
  serve_of_failed unasked (Attempt.outcome_of_lost usable ready lost) final later

/-- With a time limit which cannot be used the acceptor ends at once, even if somebody waits. -/
theorem serve_of_unusable {cause : IoError} (unusable : Duration.pollLimit limit = .error cause)
    (tried : Attempt α) (later : List (Event α)) : serve limit (.attempt tried :: later) = ([], true) := by
  have final : goesOn cause.kind = false := by
    obtain _ | span := limit
    · cases unusable
    · rw [Duration.pollLimit] at unusable
      split at unusable
      · cases unusable
      · cases unusable
        rfl
  rw [serve, rounds, Attempt.outcome_of_unusable unusable, run_failed final]

/-- **Accepting.**  The acceptor hands out what it gets, in order, until it is asked to stop or a try
fails for another reason than a time-out or an interruption; such a failure ends it, and what follows is
lost.  So the acceptor hands out everything at all times and ends only after it was asked if and only if
nothing fails like this before. -/
theorem course_of_events (limit : Option Duration) (events : List (Event α)) :
    Course limit events (serve limit events) ∧
      ((∀ front, front <+: events → Endures limit front) ↔ Untroubled limit events) ∧
      ∀ front tried later cause, events = front ++ .attempt tried :: later →
        (∀ event ∈ front, event.asks = false) → tried.outcome limit = .error cause →
        goesOn cause.kind = false → serve limit events = ((serve limit front).1, true) := by
  refine ⟨course_serve limit events, ⟨fun endures => ?_,
    fun untroubled front start => (untroubled.of_isPrefix start).endures⟩, ?_⟩
  · rintro front tried later cause rfl unasked fails
    by_contra final
    have start : front ++ [.attempt tried] <+: front ++ .attempt tried :: later :=
      ⟨later, by rw [List.append_assoc]; rfl⟩
    have ended := serve_of_failed unasked fails (Bool.eq_false_iff.mpr final) []
    obtain ⟨event, among, asks⟩ := (endures _ start).ends (congrArg Prod.snd ended)
    rcases List.mem_append.mp among with earlier | last
    · cases asks.symm.trans (unasked event earlier)
    · rw [List.mem_singleton.mp last] at asks
      cases asks
  · rintro front tried later cause rfl unasked fails final
    exact serve_of_failed unasked fails final later

/-- A connection is accepted, the next one is aborted, and a third one waits: it is never handed out,
though nobody has asked the acceptor to stop. -/
theorem course_of_aborted_connection :
    let events : List (Event Nat) :=
      [.attempt ⟨.ok 1, .ok 10, .ok (), .ok ()⟩,
        .attempt ⟨.ok 1, .error ⟨.connectionAborted, "connection aborted"⟩, .ok (), .ok ()⟩,
        .attempt ⟨.ok 1, .ok 11, .ok (), .ok ()⟩]
    serve none events = ([10], true) ∧ (∀ event ∈ events, event.asks = false) ∧
      ¬ ∀ front, front <+: events → Endures none front := by
  intro events
  refine ⟨by cbv, by simp [events, Event.asks], fun endures => ?_⟩
  have untroubled := (course_of_events none events).2.1.mp endures
  cases untroubled [_] _ [_] _ rfl (by simp [Event.asks]) rfl

end Acceptor
end Service
end TunnelProxy
