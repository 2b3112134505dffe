import TunnelProxy.Proofs.Socks.Dispatch

/-!
# Hooks around requests

Both entry points act on a decision in the same way: at most one destination is dialed, the client is
told what came of it, and bytes are relayed if it was reached.  The observer is told the decision
before that and the result of the request behind it.
-/

namespace TunnelProxy

open Socks.FrontEnd (failure?)

/-! ## What is told, dialed and relayed -/

namespace Exchange

/-- What the observer is told by an exchange. -/
def observation? : Exchange → Option Observation
  | ⟨.observe observation, _⟩ => some observation
  | _ => none

/-- The destination which is dialed by an exchange, and what came of it. -/
def dial? : Exchange → Option (Acl.Route × Except Error StreamRef)
  | ⟨.dial route, (reply : Except Error StreamRef)⟩ => some (route, reply)
  | _ => none

/-- How the relay of an exchange ended. -/
def relay? : Exchange → Option (Except Error Unit)
  | ⟨.relay .., (reply : Except Error Unit)⟩ => some reply
  | _ => none

end Exchange

/-- What the observer is told. -/
def observations (exchanges : List Exchange) : List Observation :=
  exchanges.filterMap Exchange.observation?

/-- The destinations which are dialed, and what came of it. -/
def dials (exchanges : List Exchange) : List (Acl.Route × Except Error StreamRef) :=
  exchanges.filterMap Exchange.dial?

/-- How relays ended. -/
def relays (exchanges : List Exchange) : List (Except Error Unit) :=
  exchanges.filterMap Exchange.relay?

/-- Whether something tells the observer, dials or relays. -/
def isNoted : Request → Bool
  | .observe .. | .dial .. | .relay .. => true
  | _ => false

section Noted

variable (front back : List Exchange)

@[simp] theorem observations_append :
    observations (front ++ back) = observations front ++ observations back :=
  List.filterMap_append

@[simp] theorem dials_append : dials (front ++ back) = dials front ++ dials back :=
  List.filterMap_append

@[simp] theorem relays_append : relays (front ++ back) = relays front ++ relays back :=
  List.filterMap_append

@[simp] theorem observations_observe (observation : Observation) (reply : Unit) :
    observations (⟨.observe observation, reply⟩ :: back) = observation :: observations back := rfl

@[simp] theorem dials_observe (observation : Observation) (reply : Unit) :
    dials (⟨.observe observation, reply⟩ :: back) = dials back := rfl

@[simp] theorem relays_observe (observation : Observation) (reply : Unit) :
    relays (⟨.observe observation, reply⟩ :: back) = relays back := rfl

variable {exchanges : List Exchange} (quiet : ¬ Asked isNoted exchanges)

include quiet

theorem observations_eq_nil : observations exchanges = [] := by
  rw [observations, List.filterMap_eq_nil_iff]
  rintro ⟨request, reply⟩ member
  cases request with
  | observe => exact absurd ⟨_, member, rfl⟩ quiet
  | _ => rfl

theorem dials_eq_nil : dials exchanges = [] := by
  rw [dials, List.filterMap_eq_nil_iff]
  rintro ⟨request, reply⟩ member
  cases request with
  | dial => exact absurd ⟨_, member, rfl⟩ quiet
  | _ => rfl

theorem relays_eq_nil : relays exchanges = [] := by
  rw [relays, List.filterMap_eq_nil_iff]
  rintro ⟨request, reply⟩ member
  cases request with
  | relay => exact absurd ⟨_, member, rfl⟩ quiet
  | _ => rfl

end Noted

/-! ## Requests and their results -/

section Requests

variable (stream : StreamRef) (routed : Except Error Acl.Route)

/-- The result of a request about which it was decided where to connect to. -/
inductive Fate (exchanges : List Exchange) : Except Error Unit → Prop
  /-- The decision leads nowhere. -/
  | ruledOut {error : Error} (nowhere : routed = .error error) (undialed : dials exchanges = [])
      (unrelayed : relays exchanges = []) : Fate exchanges (.error error)
  /-- The destination is not reached. -/
  | unreached {route : Acl.Route} {error : Error} (somewhere : routed = .ok route)
      (dialed : dials exchanges = [(route, .error error)]) (unrelayed : relays exchanges = []) :
      Fate exchanges (.error error)
  /-- The destination is reached, but the client can not be told so. -/
  | unanswered {route : Acl.Route} {destination : StreamRef} {bytes : Bytes} {cause : IoError}
      (somewhere : routed = .ok route) (dialed : dials exchanges = [(route, .ok destination)])
      (unsent : (⟨.send stream bytes, .error cause⟩ : Exchange) ∈ exchanges)
      (unrelayed : relays exchanges = []) : Fate exchanges (.error (.io cause))
  /-- The relay between the client and the destination has ended. -/
  | relayed {route : Acl.Route} {destination : StreamRef} {result : Except Error Unit}
      (somewhere : routed = .ok route) (dialed : dials exchanges = [(route, .ok destination)])
      (relayed : relays exchanges = [result]) : Fate exchanges result

/-- The two hooks around a request. -/
structure Accompanied (info : RequestInfo) (decision : Acl.Decision) (exchanges : List Exchange)
    (result : Except Error Unit) : Prop where
  /-- This is the result of the request. -/
  fate : Fate stream routed exchanges result
  /-- The observer is told the decision and the result, and nothing else. -/
  hooks : observations exchanges =
    [.request info decision, .finished info (failure? result)]
  /-- It is told no failure exactly if there was a relay and it ended without one. -/
  clean : failure? result = none ↔ relays exchanges = [.ok ()]
  /-- At most one destination is dialed. -/
  once : (dials exchanges).length ≤ 1
  /-- It is dialed between the hooks. -/
  dialed : ∀ before route reply after, exchanges = before ++ ⟨.dial route, reply⟩ :: after →
    (⟨.observe (.request info decision), ()⟩ : Exchange) ∈ before ∧
      (⟨.observe (.finished info (failure? result)), ()⟩ : Exchange) ∈ after
  /-- Bytes are relayed between the hooks. -/
  relayed : ∀ before near far idle reply after,
    exchanges = before ++ ⟨.relay near far idle, reply⟩ :: after →
      (⟨.observe (.request info decision), ()⟩ : Exchange) ∈ before ∧
        (⟨.observe (.finished info (failure? result)), ()⟩ : Exchange) ∈ after

/-! ## Acting on a decision -/

/-- The client is told something, if that has a layout. -/
inductive Tells : List Exchange → Prop
  /-- It has none. -/
  | nothing : Tells []
  /-- It is written, which may fail. -/
  | message (bytes : Bytes) (reply : Except IoError Unit) : Tells [⟨.send stream bytes, reply⟩]

/-- How acting on a decision can go. -/
inductive Pursuit : List Exchange → Except Error Unit → Prop
  /-- The decision leads nowhere. -/
  | ruledOut {error : Error} {told : List Exchange} (nowhere : routed = .error error)
      (tells : Tells stream told) : Pursuit told (.error error)
  /-- The destination is not reached. -/
  | unreached {route : Acl.Route} {error : Error} {told : List Exchange}
      (somewhere : routed = .ok route) (tells : Tells stream told) :
      Pursuit (⟨.dial route, .error error⟩ :: told) (.error error)
  /-- The destination is reached, but the client can not be told so. -/
  | unanswered {route : Acl.Route} {destination : StreamRef} {bytes : Bytes} {cause : IoError}
      (somewhere : routed = .ok route) :
      Pursuit [⟨.dial route, .ok destination⟩, ⟨.send stream bytes, .error cause⟩,
        ⟨.release destination, ()⟩] (.error (.io cause))
  /-- The destination is reached, and bytes are relayed. -/
  | relayed {route : Acl.Route} {destination : StreamRef} {bytes : Bytes} {idle : Option Nat}
      {result : Except Error Unit} (somewhere : routed = .ok route) :
      Pursuit [⟨.dial route, .ok destination⟩, ⟨.send stream bytes, .ok ()⟩,
        ⟨.relay stream destination idle, result⟩, ⟨.release destination, ()⟩] result

end Requests

section Runs

variable {stream : StreamRef} {routed : Except Error Acl.Route} {exchanges : List Exchange}

theorem Tells.quiet (tells : Tells stream exchanges) : ¬ Asked isNoted exchanges := by
  cases tells <;> simp [isNoted]

theorem Tells.heard (tells : Tells stream exchanges) (source : StreamRef) :
    TunnelProxy.heard source exchanges = [] := by
  cases tells <;> rfl

/-- A client is told as far as possible that its request fails, which then fails. -/
theorem tells_of_run {α : Type} {layout : Except Error Bytes} {error : Error}
    {outcome : Except Error α} (run : Talk.Run (do
      discard <| Talk.attempt (Talk.write stream layout)
      throw error : Talk α) exchanges outcome) :
    Tells stream exchanges ∧ outcome = .error error := by
  have wrote {result : Except Error Unit} {part : List Exchange}
      (writing : Talk.Run (Talk.write stream layout) part result) : Tells stream part := by
    cases layout with
    | error error =>
        obtain ⟨rfl, -⟩ := (Talk.run_write_error_iff ..).mp writing
        exact .nothing
    | ok bytes =>
        obtain ⟨reply, rfl, -⟩ := (Talk.run_write_ok_iff ..).mp writing
        exact .message bytes reply
  rcases (Talk.run_bind_iff ..).mp run with ⟨_, _, _, rfl, trying, failing⟩ | ⟨_, trying, -⟩
  · obtain ⟨rfl, rfl⟩ := (Talk.run_throw_iff ..).mp failing
    obtain ⟨_, attempted, -⟩ := (Talk.run_map_iff ..).mp trying
    obtain ⟨_, writing, -⟩ := (Talk.run_attempt_iff ..).mp attempted
    exact ⟨by simpa using wrote writing, rfl⟩
  · obtain ⟨_, attempted, failed⟩ := (Talk.run_map_iff ..).mp trying
    obtain ⟨_, -, rfl⟩ := (Talk.run_attempt_iff ..).mp attempted
    cases failed

/-- What is done once it is known whether a destination was reached. -/
theorem pursuit_of_run {refusing : Error → Talk Unit} {granted : Bytes} {idle : Option Nat}
    {dialing : Talk StreamRef} {result : Except Error Unit}
    (dials : ∀ {front reached}, Talk.Run dialing front reached →
      (∃ error, routed = .error error ∧ front = [] ∧ reached = .error error) ∨
        ∃ route, routed = .ok route ∧ front = [⟨.dial route, reached⟩])
    (refuses : ∀ {error back outcome}, Talk.Run (refusing error) back outcome →
      Tells stream back ∧ outcome = .error error)
    (run : Talk.Run (do
      match ← Talk.attempt dialing with
      | .error error => refusing error
      | .ok destination =>
          Talk.releasing destination do
            Talk.write stream (.ok granted)
            Talk.relay stream destination idle) exchanges result) :
    Pursuit stream routed exchanges result := by
  obtain ⟨front, reached, back, rfl, dialed, ending⟩ := (Talk.run_attempt_bind_iff ..).mp run
  rcases dials dialed with ⟨error, nowhere, rfl, rfl⟩ | ⟨route, somewhere, rfl⟩
  · obtain ⟨tells, rfl⟩ := refuses ending
    exact .ruledOut nowhere tells
  · cases reached with
    | error error =>
        obtain ⟨tells, rfl⟩ := refuses ending
        exact .unreached somewhere tells
    | ok destination =>
        obtain ⟨middle, rfl, body⟩ := (Talk.run_releasing_iff ..).mp ending
        rcases (Talk.run_write_bind_iff ..).mp body with ⟨rest, rfl, relaying⟩ | ⟨cause, rfl, rfl⟩
        · obtain ⟨rfl, -⟩ := (Program.run_request_iff (.relay ..) ..).mp relaying
          exact .relayed somewhere
        · exact .unanswered somewhere

/-! ## Hooks around what is done -/

/-- The result is told by what is dialed and relayed. -/
theorem Pursuit.fate {acting : List Exchange} {result : Except Error Unit}
    (pursuit : Pursuit stream routed acting result) (same_dials : dials exchanges = dials acting)
    (same_relays : relays exchanges = relays acting) (part : acting ⊆ exchanges) :
    Fate stream routed exchanges result := by
  cases pursuit with
  | ruledOut nowhere tells =>
      exact .ruledOut nowhere (same_dials.trans (dials_eq_nil tells.quiet))
        (same_relays.trans (relays_eq_nil tells.quiet))
  | unreached somewhere tells =>
      have undialed := dials_eq_nil tells.quiet
      have unrelayed := relays_eq_nil tells.quiet
      exact .unreached somewhere (same_dials.trans (congrArg (List.cons _) undialed))
        (same_relays.trans unrelayed)
  | unanswered somewhere =>
      exact .unanswered somewhere same_dials
        (part (List.mem_cons_of_mem _ List.mem_cons_self)) same_relays
  | relayed somewhere => exact .relayed somewhere same_dials same_relays

theorem Fate.once {result : Except Error Unit} (fate : Fate stream routed exchanges result) :
    (dials exchanges).length ≤ 1 := by
  cases fate with
  | ruledOut _ undialed => simp [undialed]
  | unreached _ dialed => simp [dialed]
  | unanswered _ dialed => simp [dialed]
  | relayed _ dialed => simp [dialed]

theorem Fate.clean {result : Except Error Unit} (fate : Fate stream routed exchanges result) :
    failure? result = none ↔ relays exchanges = [.ok ()] := by
  cases fate with
  | ruledOut _ _ unrelayed => simp [failure?, unrelayed]
  | unreached _ _ unrelayed => simp [failure?, unrelayed]
  | unanswered _ _ _ unrelayed => simp [failure?, unrelayed]
  | relayed _ _ relayed => cases result <;> simp [failure?, relayed]

theorem Pursuit.observations_eq_nil {result : Except Error Unit}
    (pursuit : Pursuit stream routed exchanges result) : observations exchanges = [] := by
  cases pursuit with
  | ruledOut _ tells => exact TunnelProxy.observations_eq_nil tells.quiet
  | unreached _ tells =>
      exact (TunnelProxy.observations_eq_nil tells.quiet : observations _ = [])
  | _ => rfl

theorem Pursuit.heard {result : Except Error Unit}
    (pursuit : Pursuit stream routed exchanges result) (source : StreamRef) :
    TunnelProxy.heard source exchanges = [] := by
  cases pursuit with
  | ruledOut _ tells => exact tells.heard source
  | unreached _ tells => exact (tells.heard source : TunnelProxy.heard source _ = [])
  | _ => rfl

/-- What is found behind others of another kind stands behind them. -/
theorem mem_before {ε : Type} {front rest before after : List ε} {first element : ε}
    (split : front ++ first :: rest = before ++ element :: after) (absent : element ∉ front)
    (other : element ≠ first) : first ∈ before := by
  rcases List.append_eq_append_iff.mp split with ⟨middle, rfl, tail⟩ | ⟨middle, rfl, tail⟩
  · cases middle with
    | nil =>
        cases tail
        exact absurd rfl other
    | cons head middle =>
        cases tail
        simp
  · cases middle with
    | nil =>
        cases tail
        exact absurd rfl other
    | cons head middle =>
        cases tail
        simp at absent

theorem mem_after {ε : Type} {front rest before after : List ε} {last element : ε}
    (split : front ++ last :: rest = before ++ element :: after) (absent : element ∉ rest)
    (other : element ≠ last) : last ∈ after := by
  have turned := congrArg List.reverse split
  simp only [List.reverse_append, List.reverse_cons, List.append_assoc, List.singleton_append]
    at turned
  simpa using mem_before turned (by simpa using absent) other

/-- What is dialed or relayed between the hooks stands between them. -/
theorem between_hooks {info : RequestInfo} {decision : Acl.Decision} {failure : Option Error}
    {front acting back before after : List Exchange} {exchange : Exchange}
    (front_quiet : ¬ Asked isNoted front) (back_quiet : ¬ Asked isNoted back)
    (noted : isNoted exchange.request)
    (other : ∀ observation, exchange.request ≠ .observe observation)
    (split : front ++ ⟨.observe (.request info decision), ()⟩ :: acting ++
      ⟨.observe (.finished info failure), ()⟩ :: back = before ++ exchange :: after) :
    (⟨.observe (.request info decision), ()⟩ : Exchange) ∈ before ∧
      (⟨.observe (.finished info failure), ()⟩ : Exchange) ∈ after := by
  have not_in {part : List Exchange} (quiet : ¬ Asked isNoted part) : exchange ∉ part :=
    fun member => quiet ⟨exchange, member, noted⟩
  have not_hook (observation : Observation) : exchange ≠ ⟨.observe observation, ()⟩ :=
    fun same => other observation (congrArg Exchange.request same)
  refine ⟨?_, mem_after split (not_in back_quiet) (not_hook _)⟩
  rw [List.append_assoc, List.cons_append] at split
  exact mem_before split (not_in front_quiet) (not_hook _)

theorem accompanied_of_pursuit {info : RequestInfo} {decision : Acl.Decision}
    {front acting last back : List Exchange} {result : Except Error Unit}
    (pursuit : Pursuit stream routed acting result) (front_quiet : ¬ Asked isNoted front)
    (last_quiet : ¬ Asked isNoted last) (back_quiet : ¬ Asked isNoted back) :
    Accompanied stream routed info decision
      (front ++ ⟨.observe (.request info decision), ()⟩ :: (acting ++ last) ++
        ⟨.observe (.finished info (failure? result)), ()⟩ :: back) result := by
  have fate : Fate stream routed
      (front ++ ⟨.observe (.request info decision), ()⟩ :: (acting ++ last) ++
        ⟨.observe (.finished info (failure? result)), ()⟩ :: back) result := by
    refine pursuit.fate ?_ ?_ fun exchange member => by simp [member]
    · simp [dials_eq_nil front_quiet, dials_eq_nil last_quiet, dials_eq_nil back_quiet]
    · simp [relays_eq_nil front_quiet, relays_eq_nil last_quiet, relays_eq_nil back_quiet]
  refine ⟨fate, ?_, fate.clean, fate.once, ?_, ?_⟩
  · simp [observations_eq_nil front_quiet, observations_eq_nil last_quiet,
      observations_eq_nil back_quiet, pursuit.observations_eq_nil]
  · intro before route reply after split
    exact between_hooks front_quiet back_quiet (by rfl) (by simp) split
  · intro before near far idle reply after split
    exact between_hooks front_quiet back_quiet (by rfl) (by simp) split

end Runs

end TunnelProxy
