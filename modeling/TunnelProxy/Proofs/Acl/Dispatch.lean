import TunnelProxy.Proofs.Socks.Hooks

/-!
# Dispatch by rules

The first rule which applies to a destination decides about it, else the fallback does, and else the
default of the side which dispatches the request.  Acting on the decision is at most one connection,
and whoever asked for it gets what came of it.
-/

namespace TunnelProxy
namespace Acl

open Net (Address IpAddr)

/-! ## The first rule which applies -/

/-- A rule applies to a destination. -/
def Rule.Applies (rule : Rule) (target : Address) : Prop :=
  rule.pattern.isMatch target.domain? target.ip? = true

namespace RuleSet

/-- A rule is the first one which applies to a destination. -/
structure FirstAt (set : RuleSet) (target : Address) (index : Nat) (rule : Rule) : Prop where
  /-- The rule stands at the index. -/
  found : set.rules[index]? = some rule
  /-- It applies. -/
  applies : rule.Applies target
  /-- No rule before it does. -/
  least : ∀ earlier < index, ∀ other, set.rules[earlier]? = some other → ¬ other.Applies target

variable {set : RuleSet} {target : Address}

theorem FirstAt.find?_eq {index : Nat} {rule : Rule} (first : set.FirstAt target index rule) :
    (set.rules.find? fun rule => rule.pattern.isMatch target.domain? target.ip?) = some rule := by
  obtain ⟨bound, same⟩ := List.getElem?_eq_some_iff.mp first.found
  refine List.find?_eq_some_iff_getElem.mpr ⟨first.applies, index, bound, same, ?_⟩
  intro earlier before
  have unmatched := first.least earlier before _ (List.getElem?_eq_getElem (before.trans bound))
  simpa [Rule.Applies] using unmatched

theorem find?_eq_none (unmatched : ∀ rule ∈ set.rules, ¬ rule.Applies target) :
    (set.rules.find? fun rule => rule.pattern.isMatch target.domain? target.ip?) = none :=
  List.find?_eq_none.mpr unmatched

/-- Either there is a first rule which applies, or no rule does. -/
theorem exists_first (set : RuleSet) (target : Address) :
    (∃ index rule, set.FirstAt target index rule) ∨
      ∀ rule ∈ set.rules, ¬ rule.Applies target := by
  cases found : set.rules.find? fun rule => rule.pattern.isMatch target.domain? target.ip? with
  | none => exact .inr (List.find?_eq_none.mp found)
  | some rule =>
      obtain ⟨applies, index, bound, same, least⟩ := List.find?_eq_some_iff_getElem.mp found
      refine .inl ⟨index, rule, List.getElem?_eq_some_iff.mpr ⟨bound, same⟩, applies, ?_⟩
      intro earlier before other there
      obtain ⟨_, rfl⟩ := List.getElem?_eq_some_iff.mp there
      simpa [Rule.Applies] using least earlier before

/-- A rule stays the first one if nothing changes up to it. -/
theorem FirstAt.of_take {other : RuleSet} {index : Nat} {rule : Rule}
    (first : set.FirstAt target index rule)
    (same : other.rules.take (index + 1) = set.rules.take (index + 1)) :
    other.FirstAt target index rule := by
  have agree : ∀ earlier ≤ index, other.rules[earlier]? = set.rules[earlier]? := by
    intro earlier before
    have within : earlier < index + 1 := Nat.lt_succ_of_le before
    rw [← List.getElem?_take_of_lt within, same, List.getElem?_take_of_lt within]
  constructor
  · rw [agree index (Nat.le_refl index)]
    exact first.found
  · exact first.applies
  · intro earlier before
    rw [agree earlier (Nat.le_of_lt before)]
    exact first.least earlier before

end RuleSet

/-! ## Both sides -/

/-- Where a request is dispatched. -/
inductive Side where
  /-- At the tunnel server. -/
  | server
  /-- At the front-end. -/
  | frontEnd

namespace Side

/-- The dispatcher of a side. -/
def dispatcher : Side → Policy → Dispatcher
  | server => .server
  | frontEnd => .frontEnd

/-- What a side does about a destination if nothing decides about it. -/
def default : Side → Action
  | server => .direct
  | frontEnd => .proxy

/-- The way on which a side reaches what is to be reached through the tunnel. -/
def proxyWay : Side → Way
  | server => .direct
  | frontEnd => .proxy

/-- Act on a decision at a side. -/
def execute (side : Side) (decision : Decision) (target : Address) : Talk StreamRef :=
  match side with
  | server => Tunnel.Server.dial decision target
  | frontEnd => do
      let route ← decision.route target
      Talk.dial route

/-- The decision of a side about a destination under rules. -/
def decide (side : Side) (set : RuleSet) (target : Address) : Decision :=
  (side.dispatcher (.rules set)).decide target

theorem decide_of_first {side : Side} {set : RuleSet} {target : Address} {index : Nat} {rule : Rule}
    (first : set.FirstAt target index rule) : side.decide set target = rule.decision := by
  cases side <;>
    simp [decide, dispatcher, Dispatcher.server, Dispatcher.frontEnd, Dispatcher.decide,
      Policy.lookup, RuleSet.lookup, first.find?_eq]

theorem decide_of_unmatched {side : Side} {set : RuleSet} {target : Address}
    (unmatched : ∀ rule ∈ set.rules, ¬ rule.Applies target) :
    side.decide set target = { action := set.fallback.getD side.default } := by
  cases side <;> cases fallback : set.fallback <;>
    simp [decide, dispatcher, Dispatcher.server, Dispatcher.frontEnd, Dispatcher.decide,
      Policy.lookup, RuleSet.lookup, RuleSet.find?_eq_none unmatched, fallback, default]

/-! ## Acting on a decision -/

/-- The destination on a host which is named by a text: an IP address if the text is one. -/
inductive Named (text : String) (port : UInt16) : Address → Prop
  /-- The text is an IP address. -/
  | literal {host : IpAddr} (spelled : IpAddr.parse? text.toList = some host) :
      Named text port (.ip host port)
  /-- The text is anything else, and taken for a domain. -/
  | domain (unspelled : IpAddr.parse? text.toList = none) : Named text port (.domain text port)

theorem named_iff (text : String) (target address : Address) :
    Named text target.port address ↔ address = target.withHost text := by
  rw [Address.withHost, Address.ofHost, String.ofList_toList]
  constructor
  · rintro (spelled | unspelled)
    · rw [spelled]
    · rw [unspelled]
  · rintro rfl
    split
    · exact .literal ‹_›
    · exact .domain ‹_›

/-- The connection which a decision about a destination asks for at a side, or why it asks for
none. -/
inductive Calls (side : Side) (target : Address) : Decision → Except Error Route → Prop
  /-- The destination is connected to from here. -/
  | direct (argument : String) : Calls side target ⟨.direct, argument⟩ (.ok ⟨.direct, target⟩)
  /-- The destination is connected to through the tunnel, if the side has one. -/
  | proxy (argument : String) :
      Calls side target ⟨.proxy, argument⟩ (.ok ⟨side.proxyWay, target⟩)
  /-- Another host is connected to from here, with the same port. -/
  | hijack {argument : String} {address : Address} (nonempty : argument ≠ "")
      (named : Named argument target.port address) :
      Calls side target ⟨.hijack, argument⟩ (.ok ⟨.direct, address⟩)
  /-- There is no other host. -/
  | nowhere :
      Calls side target ⟨.hijack, ""⟩ (.error (.invalidAddress s!"hijack of {target.text}"))
  /-- The destination is blocked. -/
  | block (argument : String) : Calls side target ⟨.block, argument⟩ (.error (.blocked target))
  /-- The action has no meaning. -/
  | unknown (code : UInt8) (argument : String) :
      Calls side target ⟨.unknown code, argument⟩ (.error (.unknownAction code))

/-- The connection for which a side asks on account of a route. -/
def routed (side : Side) (decision : Decision) (target : Address) : Except Error Route :=
  match side with
  | server => (decision.route target).map fun route => ⟨.direct, route.address⟩
  | frontEnd => decision.route target

theorem calls_iff (side : Side) (decision : Decision) (target : Address)
    (called : Except Error Route) :
    side.Calls target decision called ↔ called = side.routed decision target := by
  constructor
  · intro calls
    cases calls with
    | @hijack argument address nonempty named =>
        obtain rfl := (named_iff ..).mp named
        cases side <;> simp [routed, Decision.route, nonempty, Except.map]
    | _ => cases side <;> rfl
  · rintro rfl
    obtain ⟨action, argument⟩ := decision
    cases action with
    | direct => cases side <;> exact .direct argument
    | proxy => cases side <;> exact .proxy argument
    | block => cases side <;> exact .block argument
    | unknown code => cases side <;> exact .unknown code argument
    | hijack =>
        by_cases empty : argument = ""
        · subst empty
          cases side <;> exact .nowhere
        · have named := (named_iff argument target _).mpr rfl
          have calls : side.Calls target ⟨.hijack, argument⟩
              (.ok ⟨.direct, target.withHost argument⟩) := .hijack empty named
          cases side <;> simpa [routed, Decision.route, empty, Except.map] using calls

/-- Acting on a decision asks for the connection which it calls for, and gives what came of it. -/
theorem run_execute_iff (side : Side) (decision : Decision) (target : Address)
    (exchanges : List Exchange) (outcome : Except Error StreamRef) :
    Talk.Run (side.execute decision target) exchanges outcome ↔
      (∃ error, side.Calls target decision (.error error) ∧ exchanges = [] ∧
        outcome = .error error) ∨
      ∃ route, side.Calls target decision (.ok route) ∧ exchanges = [⟨.dial route, outcome⟩] := by
  simp only [calls_iff]
  cases decided : decision.route target with
  | error error =>
      have routed : side.routed decision target = .error error := by
        cases side <;> simp [routed, decided, Except.map]
      have stops : side.execute decision target = throw error := by
        cases side
        · rw [execute, Tunnel.Server.dial, decided]
          rfl
        · rw [execute, decided]
          rfl
      rw [routed, stops, Talk.run_throw_iff]
      simp
  | ok route =>
      obtain ⟨called, routed, dials⟩ : ∃ called, side.routed decision target = .ok called ∧
          side.execute decision target = Talk.dial called := by
        cases side
        · refine ⟨⟨.direct, route.address⟩, by simp [routed, decided, Except.map], ?_⟩
          rw [execute, Tunnel.Server.dial, decided]
          rfl
        · refine ⟨route, decided, ?_⟩
          rw [execute, decided]
          rfl
      rw [routed, dials, Talk.dial]
      refine (Program.run_request_iff (.dial called) exchanges outcome).trans ?_
      simp [Exchange.Admissible]

/-! ## Whole requests -/

/-- A request for a destination is served at a side under rules. -/
inductive Serves (set : RuleSet) (target : Address) (stream : StreamRef) :
    Side → List Exchange → Except Error Unit → Prop
  /-- The tunnel server serves a stream on which the destination is spelled. -/
  | server {server : Tunnel.Server} {info : RequestInfo} {exchanges : List Exchange}
      {outcome : Except Error Unit} (ruled : server.dispatcher = Side.server.dispatcher (.rules set))
      (spelled : Address.parse? info.address = some target)
      (run : Talk.Run (server.connect info stream) exchanges outcome) :
      Serves set target stream .server exchanges outcome
  /-- The front-end serves a client which has asked for the destination. -/
  | frontEnd {frontEnd : Socks.FrontEnd} {exchanges : List Exchange} {outcome : Except Error Unit}
      (ruled : frontEnd.dispatcher = Side.frontEnd.dispatcher (.rules set))
      (run : Talk.Run (frontEnd.connect stream target (frontEnd.dispatcher.decide target)) exchanges
        outcome) :
      Serves set target stream .frontEnd exchanges outcome

/-- At most the connection is dialed for which the decision calls, and the result of the request is
that of dialing it unless bytes are relayed. -/
theorem fate_of_serves {side : Side} {set : RuleSet} {target : Address} {stream : StreamRef}
    {exchanges : List Exchange} {outcome : Except Error Unit}
    (serves : Serves set target stream side exchanges outcome) :
    Fate stream (side.routed (side.decide set target) target) exchanges outcome := by
  cases serves with
  | @server server info _ _ ruled spelled run =>
      have same : server.routed target =
          Side.server.routed (Side.server.decide set target) target := by
        rw [Tunnel.Server.routed, ruled]
        rfl
      rcases Tunnel.Server.connecting_of_run run with
        ⟨unspelled, -⟩ | ⟨other, acting, spelled_too, rfl, pursuit⟩
      · rw [spelled] at unspelled
        cases unspelled
      · cases spelled.symm.trans spelled_too
        have quiet : ¬ Asked isNoted [⟨.release stream, ()⟩] := by simp [isNoted]
        rw [same] at pursuit
        refine pursuit.fate ?_ ?_ fun exchange member => by simp [member]
        · simp [dials_eq_nil quiet]
        · simp [relays_eq_nil quiet]
  | frontEnd ruled run =>
      have pursuit := Socks.FrontEnd.pursuit_of_run_connect run
      rw [ruled] at pursuit
      exact pursuit.fate rfl rfl (List.Subset.refl _)

/-- What a side does about a destination under rules. -/
structure Dispatches (side : Side) (set : RuleSet) (target : Address) : Prop where
  /-- There is a first rule which applies, or no rule applies. -/
  covered : (∃ index rule, set.FirstAt target index rule) ∨
    ∀ rule ∈ set.rules, ¬ rule.Applies target
  /-- The first rule which applies decides. -/
  first : ∀ index rule, set.FirstAt target index rule → side.decide set target = rule.decision
  /-- If no rule applies, the fallback decides. -/
  fallback : ∀ action, (∀ rule ∈ set.rules, ¬ rule.Applies target) → set.fallback = some action →
    side.decide set target = { action }
  /-- If there is no fallback either, the side has a default. -/
  unruled : (∀ rule ∈ set.rules, ¬ rule.Applies target) → set.fallback = none →
    side.decide set target = { action := side.default }
  /-- Rules which agree up to the first one which applies decide alike. -/
  shadowed : ∀ index rule other, set.FirstAt target index rule →
    other.rules.take (index + 1) = set.rules.take (index + 1) →
      side.decide other target = side.decide set target
  /-- Acting on a decision, whatever it is, asks for the connection which it calls for, and gives what
  came of it. -/
  acting : ∀ decision exchanges outcome,
    Talk.Run (side.execute decision target) exchanges outcome ↔
      (∃ error, side.Calls target decision (.error error) ∧ exchanges = [] ∧
        outcome = .error error) ∨
      ∃ route, side.Calls target decision (.ok route) ∧ exchanges = [⟨.dial route, outcome⟩]
  /-- A request is served by acting on the decision. -/
  served : ∀ stream exchanges outcome, Serves set target stream side exchanges outcome →
    ∃ called, side.Calls target (side.decide set target) called ∧
      Fate stream called exchanges outcome

end Side

/-- Whatever the rules, the side and the destination are, the first rule which applies decides, and
acting on its decision is at most one connection. -/
theorem dispatches_by_first_rule (side : Side) (set : RuleSet) (target : Address) :
    side.Dispatches set target where
  covered := set.exists_first target
  first _ _ first := Side.decide_of_first first
  fallback action unmatched fallback := by
    rw [Side.decide_of_unmatched unmatched, fallback]
    rfl
  unruled unmatched fallback := by
    rw [Side.decide_of_unmatched unmatched, fallback]
    rfl
  shadowed _ _ _ first same := by
    rw [Side.decide_of_first first, Side.decide_of_first (first.of_take same)]
  acting decision := side.run_execute_iff decision target
  served _ _ _ serves := ⟨_, (side.calls_iff ..).mpr rfl, Side.fate_of_serves serves⟩

end Acl
end TunnelProxy
