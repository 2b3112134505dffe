import TunnelProxy.Acl.Rules
import TunnelProxy.Text.Quoted
import TunnelProxy.Text.Record

/-!
# Descriptions of rules

The texts by which rules are shown in messages: every value with its name and its parts.
-/

namespace TunnelProxy
namespace Acl

/-- The notation of an expression. -/
def describeNotation (source : String) : String := "Regex(" ++ Text.Quoted.quote source ++ ")"

namespace Network

/-- The text of a network. -/
def describe (network : Network) : String :=
  match network with
  | v4 address length _ =>
      Text.record "IpAddr" [("addr", address.text), ("prefix", toString length)]
  | v6 address length _ =>
      Text.record "IpAddr" [("addr", address.text), ("prefix", toString length)]

end Network

namespace HostPattern

/-- The text of a pattern. -/
def describe (pattern : HostPattern) : String :=
  match pattern with
  | network addresses => addresses.describe
  | regex source _ => "Domain(" ++ Text.record "Regex" [("pattern", describeNotation source)] ++ ")"
  | wildcard domains =>
      let compiled := describeNotation (Wildcard.source domains.text)
      let parts := [("wildcard", Text.Quoted.quote domains.text), ("compiled", compiled)]
      "Domain(" ++ Text.record "Wildcard" parts ++ ")"

end HostPattern

namespace RulePattern

/-- The text of the destinations of a rule. -/
def describe (pattern : RulePattern) : String :=
  match pattern with
  | any => "Any"
  | specific pattern => "Specif(" ++ pattern.describe ++ ")"

end RulePattern

namespace Rule

/-- The text of a rule. -/
def describe (rule : Rule) : String :=
  Text.record "AclRule"
    [("action", rule.decision.action.text),
      ("argument", Text.Quoted.quote rule.decision.argument),
      ("address", rule.pattern.describe)]

end Rule

namespace Policy

/-- The text of a policy. -/
def describe (policy : Policy) : String :=
  match policy with
  | none => "NoAcl"
  | fixed action => "FixedAction(" ++ action.text ++ ")"
  | rules set =>
      Text.record "AclEngine"
        [("rules", "[" ++ ", ".intercalate (set.rules.map Rule.describe) ++ "]"),
          ("fallback", Text.optional (set.fallback.map Action.text))]

end Policy

namespace Dispatcher

/-- The text of a dispatcher. -/
def describe (dispatcher : Dispatcher) : String :=
  "Dispatcher(" ++ dispatcher.policy.describe ++ ", default: " ++ dispatcher.default.text ++ ")"

end Dispatcher
end Acl
end TunnelProxy
