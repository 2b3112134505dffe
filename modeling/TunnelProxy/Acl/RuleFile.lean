import TunnelProxy.Acl.Describe
import TunnelProxy.Yaml.Record

/-!
# Rule files

Rules and their fallback are written as a YAML document.  A document which is read has networks of
proper length and valid expressions only, and every rule which hijacks names the host to connect to.
-/

namespace TunnelProxy
namespace Acl

open Yaml (Node Record Meaning)

namespace Action

/-- Read an action: its name, or the name `Unknown` with a number. -/
def ofNode? (node : Node) : Option Action := do
  let (name, value) ← node.alternative? ["Direct", "Proxy", "Block", "Hijack", "Unknown"]
  match name, value with
  | "Unknown", some number => return unknown (← number.byte?)
  | "Direct", _ => if Node.isUnit value then some direct else none
  | "Proxy", _ => if Node.isUnit value then some proxy else none
  | "Block", _ => if Node.isUnit value then some block else none
  | "Hijack", _ => if Node.isUnit value then some hijack else none
  | _, _ => none

end Action

namespace Network

/-- Read a network: an address and the number of bits which count. -/
def ofNode? (node : Node) : Option Network := do
  let record ← node.record? false ["addr", "prefix"]
  let address ← record.required? "addr" fun value =>
    value.text?.bind fun text => Net.IpAddr.parse? text.toList
  let length ← record.required? "prefix" Node.byte?
  ofAddress? address length.toNat

end Network

namespace HostPattern

mutual

/-- Whether a value whose form is not known beforehand can be read: scalars must have the form of
their types, and whole numbers have to fit into 64 bits. -/
def isReadable : Node → Bool
  | .scalar plain tag text =>
      match (Node.scalar plain tag text).meaning? with
      | some (.integer value) =>
          -Int.ofNat (Nat.pow 2 63) ≤ value ∧ value < Int.ofNat (Nat.pow 2 64)
      | some _ => true
      | none => false
  | .sequence items => areReadable items
  | .mapping pairs => arePairsReadable pairs

/-- Whether all values can be read. -/
def areReadable : List Node → Bool
  | [] => true
  | item :: items => isReadable item && areReadable items

/-- Whether all keys and values can be read. -/
def arePairsReadable : List (Node × Node) → Bool
  | [] => true
  | (key, value) :: pairs => isReadable key && isReadable value && arePairsReadable pairs

end

/-- Whether a key names the only field which is looked for, either by its name or by its number
zero.  Keys which could not name any field are not accepted. -/
def names? (field : String) (key : Node) : Option Bool :=
  match key with
  | .scalar true none _ =>
      match key.meaning? with
      | some (.text name) => some (name = field)
      | some (.integer value) => if 0 ≤ value then some (value = 0) else none
      | _ => none
  | _ =>
      match key.meaning? with
      | some (.text name) => some (name = field)
      | _ => none

/-- The text of the only field which is looked for in a mapping; other fields are ignored. -/
def field? (field : String) (pairs : List (Node × Node)) : Option String := do
  let marked ← pairs.mapM fun (key, value) => (names? field key).map fun found => (found, value)
  match marked.filter Prod.fst with
  | [(_, value)] =>
      match value.meaning? with
      | some (.text content) => some content
      | _ => none
  | _ => none

/-- Read a pattern for domains: an expression if there is a valid one, otherwise a wildcard. -/
def domain? : Node → Option HostPattern
  | .mapping pairs =>
      if arePairsReadable pairs then
        let expression := (field? "pattern" pairs).bind fun source =>
          (Regex.parse? source).map (regex source)
        match expression with
        | some pattern => some pattern
        | none => ((field? "wildcard" pairs).bind Wildcard.ofText?).map wildcard
      else none
  | _ => none

/-- Read a pattern. -/
def ofNode? (node : Node) : Option HostPattern := do
  match ← node.alternative? ["IpAddr", "Domain"] with
  | ("IpAddr", some value) => return network (← Network.ofNode? value)
  | ("Domain", some value) => domain? value
  | _ => none

end HostPattern

namespace RulePattern

/-- Read the destinations of a rule. -/
def ofNode? (node : Node) : Option RulePattern := do
  let (name, value) ← node.alternative? ["Any", "Specif"]
  match name, value with
  | "Specif", some pattern => return specific (← HostPattern.ofNode? pattern)
  | "Any", _ => if Node.isUnit value then some any else none
  | _, _ => none

end RulePattern

namespace Rule

/-- Read a rule. -/
def ofNode? (node : Node) : Option Rule := do
  let record ← node.record? false ["action", "argument", "address"]
  let action ← record.required? "action" Action.ofNode?
  let argument ← record.value? "argument" Node.text? ""
  let pattern ← record.required? "address" RulePattern.ofNode?
  return { decision := { action, argument }, pattern }

/-- Whether a rule hijacks without naming the host to connect to. -/
def lacksHost (rule : Rule) : Bool :=
  rule.decision.action = .hijack && rule.decision.argument.isEmpty

end Rule

namespace RuleSet

/-- Read rules and their fallback as they are written. -/
def ofNode? (node : Node) : Option RuleSet := do
  let record ← node.record? true ["fallback", "rules"]
  let fallback ← record.value? "fallback" (Node.optional? Action.ofNode?) none
  let rules ← record.value? "rules" (Node.list? Rule.ofNode?) []
  return { rules, fallback }

/-- Accept rules only if every decision they can give can be acted on. -/
def check (set : RuleSet) : Except ServiceError RuleSet :=
  match set.rules.find? Rule.lacksHost with
  | some rule =>
      .error (.config (some ("Hijack rule without argument: " ++ rule.pattern.describe)))
  | none =>
      if set.fallback = some .hijack then .error (.config (some "fallback can not be Hijack"))
      else .ok set

/-- The rules in a document. -/
def parse (document : String) : Except ServiceError RuleSet :=
  match (Yaml.document? document).bind ofNode? with
  | some set => set.check
  | none => .error (.config none)

end RuleSet
end Acl
end TunnelProxy
