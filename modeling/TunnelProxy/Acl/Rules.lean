import TunnelProxy.Acl.Action
import TunnelProxy.Acl.Network
import TunnelProxy.Acl.Wildcard

/-!
# Rules

Rules map destinations to decisions: the first rule whose pattern matches decides, and otherwise a
fallback does if there is one.  Patterns for domains see domains only, and networks see IP addresses
only.
-/

namespace TunnelProxy
namespace Acl

/-- The destinations of a rule which does not apply to all. -/
inductive HostPattern where
  /-- The IP addresses of a network. -/
  | network (addresses : Network)
  /-- The domains which contain a match of an expression with a notation. -/
  | regex (source : String) (compiled : Regex)
  /-- The domains of a wildcard. -/
  | wildcard (domains : Wildcard)

namespace HostPattern

/-- Whether a pattern matches a destination, which is given as domain or as IP address. -/
def isMatch (pattern : HostPattern) (domain : Option String) (ip : Option Net.IpAddr) : Bool :=
  match pattern with
  | network addresses => ip.any addresses.contains
  | regex _ compiled => domain.any compiled.isMatch
  | wildcard domains => domain.any domains.isMatch

end HostPattern

/-- The destinations of a rule. -/
inductive RulePattern where
  /-- All destinations. -/
  | any
  /-- The destinations which a pattern matches. -/
  | specific (pattern : HostPattern)

namespace RulePattern

/-- Whether a rule applies to a destination. -/
def isMatch (pattern : RulePattern) (domain : Option String) (ip : Option Net.IpAddr) : Bool :=
  match pattern with
  | any => true
  | specific pattern => pattern.isMatch domain ip

end RulePattern

/-- What to do with some destinations. -/
structure Rule where
  /-- The decision. -/
  decision : Decision
  /-- The destinations. -/
  pattern : RulePattern

/-- Rules in their order of precedence. -/
structure RuleSet where
  /-- The rules. -/
  rules : List Rule := []
  /-- What to do with destinations to which no rule applies. -/
  fallback : Option Action := none

namespace RuleSet

/-- The decision of the first rule which applies, or of the fallback. -/
def lookup (set : RuleSet) (domain : Option String) (ip : Option Net.IpAddr) : Option Decision :=
  match set.rules.find? fun rule => rule.pattern.isMatch domain ip with
  | some rule => some rule.decision
  | none => set.fallback.map fun action => { action }

end RuleSet

/-- A source of decisions. -/
inductive Policy where
  /-- Decide nothing. -/
  | none
  /-- Decide the same for every destination. -/
  | fixed (action : Action)
  /-- Decide by rules. -/
  | rules (set : RuleSet)

namespace Policy

/-- The decision about a destination, which is given as domain or as IP address. -/
def lookup (policy : Policy) (domain : Option String) (ip : Option Net.IpAddr) : Option Decision :=
  match policy with
  | none => Option.none
  | fixed action => some { action }
  | rules set => set.lookup domain ip

end Policy

/-- A policy and what to do where it decides nothing. -/
structure Dispatcher where
  /-- The policy. -/
  policy : Policy
  /-- The action for destinations about which the policy says nothing. -/
  default : Action

namespace Dispatcher

/-- At the tunnel server, destinations are dialed directly unless decided otherwise. -/
def server (policy : Policy) : Dispatcher := ⟨policy, .direct⟩

/-- At the front-end, destinations are reached through the tunnel unless decided otherwise. -/
def frontEnd (policy : Policy) : Dispatcher := ⟨policy, .proxy⟩

/-- The decision about a destination. -/
def decide (dispatcher : Dispatcher) (target : Net.Address) : Decision :=
  (dispatcher.policy.lookup target.domain? target.ip?).getD { action := dispatcher.default }

end Dispatcher
end Acl
end TunnelProxy
