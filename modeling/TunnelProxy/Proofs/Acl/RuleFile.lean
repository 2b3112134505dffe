import TunnelProxy.Acl.RuleFile
import TunnelProxy.Proofs.Acl.Network
import TunnelProxy.Proofs.Yaml.Record

/-!
# What rule files say

A document of the right shape is a draft of rules, whose parts are not checked yet.  Documents are
accepted exactly if they are drafts which are valid, and the rules which are read are the drafted
ones.
-/

namespace TunnelProxy
namespace Acl

open Net (IpAddr)
open Yaml (Node Meaning IsText IsByte IsVariant IsUnit IsOptional IsList IsRecord Required Defaulted)

/-! ## Drafts -/

/-- The destinations of a rule as they are written. -/
inductive HostDraft where
  /-- An address and the number of its bits which count. -/
  | network (address : IpAddr) (length : UInt8)
  /-- The notation of an expression or the text of a wildcard, or both. -/
  | domain (expression wildcard : Option String)

/-- A rule as it is written. -/
structure RuleDraft where
  /-- What to do. -/
  action : Action
  /-- The host to connect to instead. -/
  argument : String
  /-- The destinations, unless the rule applies to all. -/
  host : Option HostDraft

/-- Rules and their fallback as they are written. -/
structure Draft where
  /-- The rules. -/
  rules : List RuleDraft
  /-- The fallback. -/
  fallback : Option Action

/-- The destinations of a draft can be told: the address has the bits which count, and the
expression or else the wildcard is one. -/
def HostDraft.Valid : HostDraft → Prop
  | network address length => length.toNat ≤ address.width
  | domain expression wildcard =>
      (∃ source ∈ expression, (Regex.parse? source).isSome) ∨
        ∃ text ∈ wildcard, (Wildcard.ofText? text).isSome

/-- The destinations can be told, and a rule which hijacks names a host. -/
structure RuleDraft.Valid (draft : RuleDraft) : Prop where
  /-- The destinations can be told. -/
  host : ∀ host ∈ draft.host, host.Valid
  /-- A host is named if one is needed. -/
  named : draft.action = .hijack → draft.argument ≠ ""

/-- All rules are valid, and there is a host for every decision which needs one. -/
structure Draft.Valid (draft : Draft) : Prop where
  /-- The rules are valid. -/
  rules : ∀ rule ∈ draft.rules, rule.Valid
  /-- The fallback names no host, so it does not hijack. -/
  fallback : draft.fallback ≠ some .hijack

/-- The pattern for drafted destinations. -/
inductive HostDraft.Realizes : HostDraft → HostPattern → Prop
  /-- A network. -/
  | network {address : IpAddr} {length : UInt8} {network : Network}
      (made : Network.ofAddress? address length.toNat = some network) :
      Realizes (.network address length) (.network network)
  /-- An expression, whether a wildcard is written or not. -/
  | regex {source : String} {wildcard : Option String} {compiled : Regex}
      (parsed : Regex.parse? source = some compiled) :
      Realizes (.domain (some source) wildcard) (.regex source compiled)
  /-- A wildcard, if no proper expression is written. -/
  | wildcard {expression : Option String} {text : String} {wildcard : Wildcard}
      (improper : ∀ source ∈ expression, Regex.parse? source = none)
      (made : Wildcard.ofText? text = some wildcard) :
      Realizes (.domain expression (some text)) (.wildcard wildcard)

/-- The pattern for drafted destinations, or the one for all. -/
inductive RealizesPattern : Option HostDraft → RulePattern → Prop
  /-- All destinations. -/
  | any : RealizesPattern none .any
  /-- Certain destinations. -/
  | specific {host : HostDraft} {pattern : HostPattern} (realizes : host.Realizes pattern) :
      RealizesPattern (some host) (.specific pattern)

/-- The rule for a draft. -/
structure RuleDraft.Realizes (draft : RuleDraft) (rule : Rule) : Prop where
  /-- The decision is as drafted. -/
  decision : rule.decision = ⟨draft.action, draft.argument⟩
  /-- The destinations are the drafted ones. -/
  pattern : RealizesPattern draft.host rule.pattern

/-- The rules for a draft. -/
structure Draft.Realizes (draft : Draft) (set : RuleSet) : Prop where
  /-- The rules are the drafted ones, in the same order. -/
  rules : List.Forall₂ RuleDraft.Realizes draft.rules set.rules
  /-- The fallback is the drafted one. -/
  fallback : set.fallback = draft.fallback

/-! ## Shapes -/

/-- The actions which are written by their names. -/
def namedActions : List (String × Action) :=
  [("Direct", .direct), ("Proxy", .proxy), ("Block", .block), ("Hijack", .hijack)]

/-- A value is written as an action. -/
inductive IsAction : Node → Action → Prop
  /-- The name of an action. -/
  | named {node : Node} {name : String} {value : Option Node} {action : Action}
      (written : IsVariant ["Direct", "Proxy", "Block", "Hijack", "Unknown"] node name value)
      (listed : (name, action) ∈ namedActions) (unit : IsUnit value) : IsAction node action
  /-- The number of an action. -/
  | unknown {node value : Node} {code : UInt8}
      (written : IsVariant ["Direct", "Proxy", "Block", "Hijack", "Unknown"] node "Unknown"
        (some value))
      (number : IsByte value code) : IsAction node (.unknown code)

/-- A value is written as an IP address. -/
def IsAddress (node : Node) (address : IpAddr) : Prop :=
  ∃ text, IsText node text ∧ IpAddr.parse? text.toList = some address

/-- A value is written as an address and the number of its bits which count. -/
structure IsNetwork (node : Node) (address : IpAddr) (length : UInt8) : Prop where
  /-- The value is a record. -/
  record : IsRecord false ["addr", "prefix"] node
  /-- It has an address. -/
  address : Required ["addr", "prefix"] node "addr" IsAddress address
  /-- It has a number of bits. -/
  length : Required ["addr", "prefix"] node "prefix" IsByte length

/-- A value can be read although its form is not known beforehand. -/
inductive Readable : Node → Prop
  /-- A scalar of the form of its type, which fits into 64 bits if it is a whole number. -/
  | scalar {plain : Bool} {tag : Option Yaml.Tag} {text : String} {meaning : Meaning}
      (means : (Node.scalar plain tag text).meaning? = some meaning)
      (fits : ∀ value, meaning = .integer value →
        -Int.ofNat (Nat.pow 2 63) ≤ value ∧ value < Int.ofNat (Nat.pow 2 64)) :
      Readable (.scalar plain tag text)
  /-- A sequence of such values. -/
  | sequence {items : List Node} (members : ∀ item ∈ items, Readable item) :
      Readable (.sequence items)
  /-- A mapping between such values. -/
  | mapping {pairs : List (Node × Node)} (keys : ∀ pair ∈ pairs, Readable pair.1)
      (values : ∀ pair ∈ pairs, Readable pair.2) : Readable (.mapping pairs)

/-- A key names the only field of a record, or else another field. -/
inductive NamesField (field : String) : Node → Bool → Prop
  /-- The key is the name of a field. -/
  | text {key : Node} {name : String} (means : key.meaning? = some (.text name)) :
      NamesField field key (name = field)
  /-- The key is the number of a field, counted from zero. -/
  | number {text : String} {value : Int}
      (means : (Node.scalar true none text).meaning? = some (.integer value)) (natural : 0 ≤ value) :
      NamesField field (.scalar true none text) (value = 0)

/-- A field has a text in a mapping with other fields. -/
structure HasText (field : String) (pairs : List (Node × Node)) (content : String) : Prop where
  /-- All keys name fields. -/
  keyed : ∀ pair ∈ pairs, ∃ found, NamesField field pair.1 found
  /-- No two of them name the field. -/
  once : pairs.Pairwise fun first second =>
    ¬ (NamesField field first.1 true ∧ NamesField field second.1 true)
  /-- One names it and has the text as its value. -/
  named : ∃ pair ∈ pairs, NamesField field pair.1 true ∧ pair.2.meaning? = some (.text content)

/-- A value is written as destinations. -/
inductive IsHost : Node → HostDraft → Prop
  /-- An address and the number of its bits which count. -/
  | network {node value : Node} {address : IpAddr} {length : UInt8}
      (written : IsVariant ["IpAddr", "Domain"] node "IpAddr" (some value))
      (network : IsNetwork value address length) : IsHost node (.network address length)
  /-- A mapping in which there are an expression or a wildcard. -/
  | domain {node : Node} {pairs : List (Node × Node)} {expression wildcard : Option String}
      (written : IsVariant ["IpAddr", "Domain"] node "Domain" (some (.mapping pairs)))
      (readable : Readable (.mapping pairs))
      (pattern : ∀ content, expression = some content ↔ HasText "pattern" pairs content)
      (stars : ∀ content, wildcard = some content ↔ HasText "wildcard" pairs content) :
      IsHost node (.domain expression wildcard)

/-- A value is written as destinations or as all of them. -/
inductive IsPattern : Node → Option HostDraft → Prop
  /-- All destinations. -/
  | any {node : Node} {value : Option Node} (written : IsVariant ["Any", "Specif"] node "Any" value)
      (unit : IsUnit value) : IsPattern node none
  /-- Certain destinations. -/
  | specific {node value : Node} {host : HostDraft}
      (written : IsVariant ["Any", "Specif"] node "Specif" (some value))
      (inner : IsHost value host) : IsPattern node (some host)

/-- A value is written as a rule. -/
structure IsRule (node : Node) (draft : RuleDraft) : Prop where
  /-- The value is a record. -/
  record : IsRecord false ["action", "argument", "address"] node
  /-- It has an action. -/
  action : Required ["action", "argument", "address"] node "action" IsAction draft.action
  /-- It may have an argument. -/
  argument : Defaulted ["action", "argument", "address"] node "argument" IsText "" draft.argument
  /-- It has destinations. -/
  host : Required ["action", "argument", "address"] node "address" IsPattern draft.host

/-- A value is written as rules and their fallback. -/
structure IsDraft (node : Node) (draft : Draft) : Prop where
  /-- The value is a record without other fields. -/
  record : IsRecord true ["fallback", "rules"] node
  /-- It may have a fallback. -/
  fallback : Defaulted ["fallback", "rules"] node "fallback" (IsOptional IsAction) none draft.fallback
  /-- It may have rules. -/
  rules : Defaulted ["fallback", "rules"] node "rules" (IsList IsRule) [] draft.rules

/-! ## Reading -/

theorem Action.ofNode?_eq_some_iff (node : Node) (action : Action) :
    ofNode? node = some action ↔ IsAction node action := by
  rw [ofNode?, Option.bind_eq_bind, Option.bind_eq_some_iff]
  simp only [Prod.exists, Node.alternative?_eq_some_iff]
  have accepts {value : Option Node} {named : Action}
      (read : (if Node.isUnit value then some named else none) = some action) :
      IsUnit value ∧ named = action := by
    rw [Option.ite_none_right_eq_some] at read
    exact ⟨(Node.isUnit_iff value).mp read.1, Option.some.inj read.2⟩
  constructor
  · rintro ⟨name, value, written, read⟩
    split at read
    · obtain ⟨code, number, same⟩ := Option.bind_eq_some_iff.mp read
      cases same
      exact .unknown written ((Node.byte?_eq_some_iff ..).mp number)
    any_goals
      obtain ⟨proper, rfl⟩ := accepts read
      exact .named written (by simp [namedActions]) proper
    cases read
  · rintro (⟨written, listed, unit⟩ | ⟨written, number⟩)
    · refine ⟨_, _, written, ?_⟩
      have proper := (Node.isUnit_iff _).mpr unit
      simp only [namedActions, List.mem_cons, Prod.mk.injEq, List.not_mem_nil, or_false] at listed
      rcases listed with ⟨rfl, rfl⟩ | ⟨rfl, rfl⟩ | ⟨rfl, rfl⟩ | ⟨rfl, rfl⟩
      all_goals exact if_pos proper
    · refine ⟨_, _, written, ?_⟩
      exact congrArg (Option.bind · fun code => some (unknown code))
        ((Node.byte?_eq_some_iff ..).mpr number)

theorem parse?_text_eq_some_iff (node : Node) (address : IpAddr) :
    (node.text?.bind fun text => IpAddr.parse? text.toList) = some address ↔
      IsAddress node address := by
  rw [Option.bind_eq_some_iff]
  simp only [Node.text?_eq_some_iff]
  rfl

/-- A network is read from an address which has the bits which count. -/
theorem Network.ofNode?_eq_some_iff (node : Node) (network : Network) :
    ofNode? node = some network ↔
      ∃ address length, IsNetwork node address length ∧
        ofAddress? address length.toNat = some network := by
  have distinct : ["addr", "prefix"].Nodup := by decide
  simp only [ofNode?, Option.bind_eq_bind, Option.bind_eq_some_iff]
  constructor
  · rintro ⟨record, read, address, spelled, length, counted, made⟩
    have spelled := (Node.required?_iff distinct read (by decide) parse?_text_eq_some_iff _).mp spelled
    have counted := (Node.required?_iff distinct read (by decide) Node.byte?_eq_some_iff _).mp counted
    exact ⟨address, length, ⟨(Node.exists_record?_iff ..).mp ⟨record, read⟩, spelled, counted⟩, made⟩
  · rintro ⟨address, length, ⟨record, spelled, counted⟩, made⟩
    obtain ⟨record, read⟩ := (Node.exists_record?_iff ..).mpr record
    have spelled := (Node.required?_iff distinct read (by decide) parse?_text_eq_some_iff _).mpr spelled
    have counted := (Node.required?_iff distinct read (by decide) Node.byte?_eq_some_iff _).mpr counted
    exact ⟨record, read, address, spelled, length, counted, made⟩

namespace HostPattern

mutual

theorem isReadable_iff : ∀ node, isReadable node = true ↔ Readable node
  | .scalar plain tag text => by
      rw [isReadable]
      constructor
      · intro readable
        split at readable
        · rename_i number means
          refine .scalar means fun value same => ?_
          obtain rfl := Meaning.integer.inj same
          exact of_decide_eq_true readable
        · rename_i meaning other means
          exact .scalar means fun value same => absurd same (other value)
        · cases readable
      · rintro (⟨means, fits⟩)
        rw [means]
        split
        · rename_i number same
          exact decide_eq_true (fits number (Option.some.inj same))
        · rfl
        · contradiction
  | .sequence items => by
      rw [isReadable, areReadable_iff items]
      exact ⟨.sequence, fun (.sequence members) => members⟩
  | .mapping pairs => by
      rw [isReadable, arePairsReadable_iff pairs]
      exact ⟨fun ⟨keys, values⟩ => .mapping keys values, fun (.mapping keys values) => ⟨keys, values⟩⟩

theorem areReadable_iff : ∀ items, areReadable items = true ↔ ∀ item ∈ items, Readable item
  | [] => by simp [areReadable]
  | item :: items => by
      rw [areReadable, Bool.and_eq_true, isReadable_iff item, areReadable_iff items,
        List.forall_mem_cons]

theorem arePairsReadable_iff : ∀ pairs, arePairsReadable pairs = true ↔
    (∀ pair ∈ pairs, Readable pair.1) ∧ ∀ pair ∈ pairs, Readable pair.2
  | [] => by simp [arePairsReadable]
  | (key, value) :: pairs => by
      rw [arePairsReadable, Bool.and_eq_true, Bool.and_eq_true, isReadable_iff key,
        isReadable_iff value, arePairsReadable_iff pairs, List.forall_mem_cons, List.forall_mem_cons]
      exact and_and_and_comm

end

theorem names?_eq_some_iff (field : String) (key : Node) (found : Bool) :
    names? field key = some found ↔ NamesField field key found := by
  constructor
  · intro read
    rw [names?.eq_def] at read
    split at read
    · split at read
      · rename_i name means
        cases read
        exact .text means
      · rename_i number means
        split at read
        · rename_i natural
          cases read
          exact .number means natural
        · cases read
      · cases read
    · split at read
      · rename_i name means
        cases read
        exact .text means
      · cases read
  · rintro (means | ⟨means, natural⟩)
    · rw [names?.eq_def]
      split <;> simp [means]
    · rw [names?.eq_def]
      simp [means, natural]

theorem field?_eq_some_iff (field : String) (pairs : List (Node × Node)) (content : String) :
    field? field pairs = some content ↔ HasText field pairs content := by
  have same (marked : List (Bool × Node)) :
      marked.filter Prod.fst = marked.filter fun mark => mark.1 = true :=
    List.filter_congr fun mark _ => Bool.decide_eq_true.symm
  rw [field?, Option.bind_eq_bind, Option.bind_eq_some_iff]
  simp only [Yaml.entries_eq_some_iff (names? field), same]
  constructor
  · rintro ⟨marked, gives, read⟩
    split at read
    · rename_i found value only
      split at read
      · rename_i text means
        obtain rfl := Option.some.inj read
        have few : (marked.filter fun mark => mark.1 = true).length ≤ 1 := by
          rw [only]
          exact Nat.le_refl 1
        have once := (Yaml.length_filter_le_one_iff ..).mp few
        simp only [decide_eq_true_eq] at once
        obtain ⟨among, named⟩ := List.mem_filter.mp (only ▸ List.mem_singleton_self (found, value))
        obtain rfl : found = true := of_decide_eq_true named
        obtain ⟨pair, there, names, rfl⟩ := (Yaml.mem_entries_iff gives true value).mp among
        have keyed := Yaml.exists_entries_iff.mp ⟨marked, gives⟩
        have once := (Yaml.once_iff gives true).mp once
        simp only [names?_eq_some_iff] at keyed once names
        exact ⟨keyed, once, pair, there, names, means⟩
      · cases read
    · cases read
  · rintro ⟨keyed, once, ⟨key, value⟩, among, names, means⟩
    simp only [← names?_eq_some_iff] at keyed once names
    obtain ⟨marked, gives⟩ := Yaml.exists_entries_iff.mpr keyed
    have marks : (true, value) ∈ marked :=
      (Yaml.mem_entries_iff gives true value).mpr ⟨_, among, names, rfl⟩
    have only := (Yaml.filter_eq_singleton_iff ((Yaml.once_iff gives true).mpr once) value).mpr marks
    refine ⟨marked, gives, ?_⟩
    rw [only]
    dsimp only at means ⊢
    rw [means]

theorem domain?_eq_some_iff (pairs : List (Node × Node)) (pattern : HostPattern) :
    domain? (.mapping pairs) = some pattern ↔
      Readable (.mapping pairs) ∧
        (HostDraft.domain (field? "pattern" pairs) (field? "wildcard" pairs)).Realizes pattern := by
  have readable : arePairsReadable pairs = true ↔ Readable (.mapping pairs) := by
    rw [← isReadable_iff, isReadable]
  rw [domain?, Option.ite_none_right_eq_some, readable]
  refine and_congr_right fun _ => ?_
  constructor
  · intro read
    dsimp only at read
    split at read
    · rename_i found expression
      cases read
      obtain ⟨source, written, read⟩ := Option.bind_eq_some_iff.mp expression
      obtain ⟨compiled, parsed, rfl⟩ := Option.map_eq_some_iff.mp read
      rw [written]
      exact .regex parsed
    · rename_i improper
      obtain ⟨wildcard, made, rfl⟩ := Option.map_eq_some_iff.mp read
      obtain ⟨text, written, made⟩ := Option.bind_eq_some_iff.mp made
      rw [written]
      refine .wildcard (fun source among => ?_) made
      have improper := Option.bind_eq_none_iff.mp improper source among
      exact Option.map_eq_none_iff.mp improper
  · generalize field? "pattern" pairs = expression, field? "wildcard" pairs = wildcard
    rintro (- | parsed | ⟨improper, made⟩)
    · simp [parsed]
    · have none_ : (expression.bind fun source => (Regex.parse? source).map (regex source)) = none :=
        Option.bind_eq_none_iff.mpr fun source among => Option.map_eq_none_iff.mpr (improper source among)
      dsimp only
      rw [none_, Option.bind_some, made]
      rfl

theorem ofNode?_eq_some_iff (node : Node) (pattern : HostPattern) :
    ofNode? node = some pattern ↔ ∃ draft, IsHost node draft ∧ draft.Realizes pattern := by
  rw [ofNode?, Option.bind_eq_bind, Option.bind_eq_some_iff]
  simp only [Prod.exists, Node.alternative?_eq_some_iff]
  constructor
  · rintro ⟨name, value, written, read⟩
    split at read
    · rename_i inner same
      cases same
      obtain ⟨network, got, same⟩ := Option.bind_eq_some_iff.mp read
      cases same
      obtain ⟨address, length, shaped, made⟩ := (Network.ofNode?_eq_some_iff ..).mp got
      exact ⟨_, .network written shaped, .network made⟩
    · rename_i inner same
      cases same
      cases inner with
      | mapping pairs =>
          obtain ⟨readable, realizes⟩ := (domain?_eq_some_iff ..).mp read
          exact ⟨_, .domain written readable (field?_eq_some_iff "pattern" pairs)
            (field?_eq_some_iff "wildcard" pairs), realizes⟩
      | _ => cases read
    · cases read
  · rintro ⟨draft, ⟨written, shaped⟩ | ⟨written, readable, pattern, stars⟩, realizes⟩
    · refine ⟨_, _, written, ?_⟩
      cases realizes with
      | network made =>
          have got := (Network.ofNode?_eq_some_iff ..).mpr ⟨_, _, shaped, made⟩
          exact congrArg (Option.bind · fun network => some (HostPattern.network network)) got
    · -- The drafted texts are the ones which are read from the mapping.
      have same : _ = HostPattern.field? "pattern" _ :=
        Option.ext fun content => (pattern content).trans (field?_eq_some_iff ..).symm
      have same' : _ = HostPattern.field? "wildcard" _ :=
        Option.ext fun content => (stars content).trans (field?_eq_some_iff ..).symm
      subst same same'
      exact ⟨_, _, written, (domain?_eq_some_iff ..).mpr ⟨readable, realizes⟩⟩

end HostPattern

theorem RulePattern.ofNode?_eq_some_iff (node : Node) (pattern : RulePattern) :
    ofNode? node = some pattern ↔ ∃ host, IsPattern node host ∧ RealizesPattern host pattern := by
  rw [ofNode?, Option.bind_eq_bind, Option.bind_eq_some_iff]
  simp only [Prod.exists, Node.alternative?_eq_some_iff]
  constructor
  · rintro ⟨name, value, written, read⟩
    split at read
    · obtain ⟨host, got, same⟩ := Option.bind_eq_some_iff.mp read
      cases same
      obtain ⟨draft, shaped, realizes⟩ := (HostPattern.ofNode?_eq_some_iff ..).mp got
      exact ⟨_, .specific written shaped, .specific realizes⟩
    · rw [Option.ite_none_right_eq_some, Node.isUnit_iff] at read
      obtain ⟨unit, same⟩ := read
      cases same
      exact ⟨none, .any written unit, .any⟩
    · cases read
  · rintro ⟨host, ⟨written, unit⟩ | ⟨written, shaped⟩, realizes⟩
    · cases realizes
      exact ⟨_, _, written, if_pos ((Node.isUnit_iff _).mpr unit)⟩
    · cases realizes with
      | specific realizes =>
          have got := (HostPattern.ofNode?_eq_some_iff ..).mpr ⟨_, shaped, realizes⟩
          exact ⟨_, _, written, congrArg (Option.bind · fun host => some (specific host)) got⟩

theorem Rule.ofNode?_eq_some_iff (node : Node) (rule : Rule) :
    ofNode? node = some rule ↔ ∃ draft, IsRule node draft ∧ draft.Realizes rule := by
  have distinct : ["action", "argument", "address"].Nodup := by decide
  simp only [ofNode?, Option.bind_eq_bind, Option.bind_eq_some_iff, Option.pure_def]
  constructor
  · rintro ⟨record, read, action, acts, argument, argues, pattern, applies, ⟨⟩⟩
    have acts := (Node.required?_iff distinct read (by decide) Action.ofNode?_eq_some_iff _).mp acts
    have argues := (Node.value?_iff distinct read (by decide) Node.text?_eq_some_iff _ _).mp argues
    obtain ⟨written, given, shaped⟩ :=
      (Node.required?_iff distinct read (by decide) RulePattern.ofNode?_eq_some_iff _).mp applies
    obtain ⟨host, shaped, realizes⟩ := shaped
    have shape := (Node.exists_record?_iff ..).mp ⟨record, read⟩
    exact ⟨⟨action, argument, host⟩, ⟨shape, acts, argues, written, given, shaped⟩, rfl, realizes⟩
  · rintro ⟨draft, ⟨shape, acts, argues, written, given, shaped⟩, decided, realizes⟩
    obtain ⟨record, read⟩ := (Node.exists_record?_iff ..).mpr shape
    have acts := (Node.required?_iff distinct read (by decide) Action.ofNode?_eq_some_iff _).mpr acts
    have argues := (Node.value?_iff distinct read (by decide) Node.text?_eq_some_iff _ _).mpr argues
    have applies := (Node.required?_iff distinct read (by decide) RulePattern.ofNode?_eq_some_iff _).mpr
      ⟨written, given, draft.host, shaped, realizes⟩
    refine ⟨record, read, _, acts, _, argues, _, applies, ?_⟩
    rw [← decided]

/-- Rules which are read from a sequence are those of the drafts in it. -/
theorem isList_realizes_iff (node : Node) (rules : List Rule) :
    IsList (fun node rule => ∃ draft, IsRule node draft ∧ draft.Realizes rule) node rules ↔
      ∃ drafts, IsList IsRule node drafts ∧ List.Forall₂ RuleDraft.Realizes drafts rules := by
  constructor
  · rintro ⟨members⟩
    induction members with
    | nil => exact ⟨[], .sequence .nil, .nil⟩
    | cons here _ ih =>
        obtain ⟨draft, shaped, realizes⟩ := here
        obtain ⟨drafts, ⟨shaped'⟩, realizes'⟩ := ih
        exact ⟨draft :: drafts, .sequence (.cons shaped shaped'), .cons realizes realizes'⟩
  · rintro ⟨drafts, ⟨members⟩, realizes⟩
    refine .sequence ?_
    induction members generalizing rules with
    | nil =>
        cases realizes
        exact .nil
    | cons here _ ih =>
        cases realizes with
        | cons one more => exact .cons ⟨_, here, one⟩ (ih _ more)

theorem RuleSet.ofNode?_eq_some_iff (node : Node) (set : RuleSet) :
    ofNode? node = some set ↔ ∃ draft, IsDraft node draft ∧ draft.Realizes set := by
  have distinct : ["fallback", "rules"].Nodup := by decide
  have optional := Node.optional?_eq_some_iff Action.ofNode?_eq_some_iff
  have list := Node.list?_eq_some_iff Rule.ofNode?_eq_some_iff
  simp only [ofNode?, Option.bind_eq_bind, Option.bind_eq_some_iff, Option.pure_def]
  constructor
  · rintro ⟨record, read, fallback, falls, rules, ruled, ⟨⟩⟩
    have shape := (Node.exists_record?_iff ..).mp ⟨record, read⟩
    have falls := (Node.value?_iff distinct read (by decide) optional _ _).mp falls
    rcases (Node.value?_iff distinct read (by decide) list _ _).mp ruled with
      ⟨written, given, members⟩ | ⟨absent, rfl⟩
    · obtain ⟨drafts, members, realizes⟩ := (isList_realizes_iff ..).mp members
      exact ⟨⟨drafts, fallback⟩, ⟨shape, falls, .inl ⟨written, given, members⟩⟩, realizes, rfl⟩
    · exact ⟨⟨[], fallback⟩, ⟨shape, falls, .inr ⟨absent, rfl⟩⟩, .nil, rfl⟩
  · rintro ⟨draft, ⟨shape, falls, ruled⟩, realizes, same⟩
    obtain ⟨record, read⟩ := (Node.exists_record?_iff ..).mpr shape
    have falls := (Node.value?_iff distinct read (by decide) optional _ _).mpr falls
    have ruled : Defaulted ["fallback", "rules"] node "rules"
        (IsList fun node rule => ∃ draft, IsRule node draft ∧ draft.Realizes rule) [] set.rules := by
      rcases ruled with ⟨written, given, members⟩ | ⟨absent, empty⟩
      · exact .inl ⟨written, given, (isList_realizes_iff ..).mpr ⟨_, members, realizes⟩⟩
      · rw [empty] at realizes
        exact .inr ⟨absent, List.forall₂_nil_left_iff.mp realizes⟩
    have ruled := (Node.value?_iff distinct read (by decide) list _ _).mpr ruled
    refine ⟨record, read, _, falls, _, ruled, ?_⟩
    rw [← same]

/-! ## Acceptance -/

theorem Rule.lacksHost_iff (rule : Rule) :
    rule.lacksHost = true ↔ rule.decision = ⟨.hijack, ""⟩ := by
  obtain ⟨⟨action, argument⟩, pattern⟩ := rule
  simp [lacksHost, String.isEmpty_iff]

/-- Rules are accepted if none of their decisions lacks a host to connect to. -/
theorem RuleSet.check_eq_ok_iff (set checked : RuleSet) :
    set.check = .ok checked ↔
      set = checked ∧ (∀ rule ∈ set.rules, rule.decision ≠ ⟨.hijack, ""⟩) ∧
        set.fallback ≠ some .hijack := by
  have lacks (rule : Rule) : ¬ rule.lacksHost = true ↔ rule.decision ≠ ⟨.hijack, ""⟩ :=
    not_congr rule.lacksHost_iff
  rw [check]
  split
  · rename_i rule found
    have among := List.mem_of_find?_eq_some found
    have lacking := List.find?_some found
    exact ⟨nofun, fun ⟨_, named, _⟩ => absurd lacking ((lacks rule).mpr (named rule among))⟩
  · rename_i found
    have named : ∀ rule ∈ set.rules, rule.decision ≠ ⟨.hijack, ""⟩ :=
      fun rule among => (lacks rule).mp (List.find?_eq_none.mp found rule among)
    split
    · rename_i hijacks
      exact ⟨nofun, fun ⟨_, _, other⟩ => absurd hijacks other⟩
    · rename_i other
      exact ⟨fun accepted => ⟨Except.ok.inj accepted, named, other⟩, fun ⟨same, _⟩ => congrArg _ same⟩

theorem HostDraft.exists_realizes_iff (draft : HostDraft) :
    (∃ pattern, draft.Realizes pattern) ↔ draft.Valid := by
  cases draft with
  | network address length =>
      rw [Valid, ← Network.isSome_ofAddress?_iff, Option.isSome_iff_exists]
      constructor
      · rintro ⟨pattern, ⟨made⟩⟩
        exact ⟨_, made⟩
      · rintro ⟨network, made⟩
        exact ⟨_, .network made⟩
  | domain expression wildcard =>
      constructor
      · rintro ⟨pattern, - | parsed | ⟨improper, made⟩⟩
        · exact .inl ⟨_, rfl, by simp [parsed]⟩
        · exact .inr ⟨_, rfl, by simp [made]⟩
      · intro valid
        -- A proper expression is preferred to a wildcard.
        cases proper : expression.bind Regex.parse? with
        | some compiled =>
            obtain ⟨source, rfl, parsed⟩ := Option.bind_eq_some_iff.mp proper
            exact ⟨_, .regex parsed⟩
        | none =>
            have improper := Option.bind_eq_none_iff.mp proper
            rcases valid with ⟨source, written, parsed⟩ | ⟨text, rfl, made⟩
            · rw [improper source written] at parsed
              cases parsed
            · obtain ⟨wildcard, made⟩ := Option.isSome_iff_exists.mp made
              exact ⟨_, .wildcard improper made⟩

theorem RuleDraft.exists_realizes {draft : RuleDraft} (valid : draft.Valid) :
    ∃ rule, draft.Realizes rule := by
  cases written : draft.host with
  | none => exact ⟨⟨⟨draft.action, draft.argument⟩, .any⟩, rfl, written ▸ .any⟩
  | some host =>
      obtain ⟨pattern, realizes⟩ := (HostDraft.exists_realizes_iff host).mpr (valid.host host written)
      exact ⟨⟨⟨draft.action, draft.argument⟩, .specific pattern⟩, rfl, written ▸ .specific realizes⟩

/-- There are rules for a valid draft. -/
theorem Draft.exists_realizes {draft : Draft} (valid : draft.Valid) : ∃ set, draft.Realizes set := by
  have rules : ∀ drafts : List RuleDraft, (∀ rule ∈ drafts, rule.Valid) →
      ∃ rules, List.Forall₂ RuleDraft.Realizes drafts rules := by
    intro drafts valid
    induction drafts with
    | nil => exact ⟨[], .nil⟩
    | cons rule rest ih =>
        rw [List.forall_mem_cons] at valid
        obtain ⟨first, realizes⟩ := RuleDraft.exists_realizes valid.1
        obtain ⟨others, realizes'⟩ := ih valid.2
        exact ⟨first :: others, .cons realizes realizes'⟩
  obtain ⟨rules, realizes⟩ := rules draft.rules valid.rules
  exact ⟨⟨rules, draft.fallback⟩, realizes, rfl⟩

theorem RuleDraft.valid_iff {draft : RuleDraft} {rule : Rule} (realizes : draft.Realizes rule) :
    draft.Valid ↔ rule.decision ≠ ⟨.hijack, ""⟩ := by
  rw [realizes.decision, ne_eq, Decision.mk.injEq]
  constructor
  · exact fun valid ⟨hijacks, empty⟩ => valid.named hijacks empty
  · refine fun named => ⟨fun host written => ?_, fun hijacks empty => named ⟨hijacks, empty⟩⟩
    have pattern := realizes.pattern
    rw [Option.mem_def.mp written] at pattern
    generalize rule.pattern = applied at pattern
    cases pattern with
    | specific realizes => exact (HostDraft.exists_realizes_iff host).mp ⟨_, realizes⟩

/-- A draft for which there are rules is valid if none of their decisions lacks a host. -/
theorem Draft.valid_iff {draft : Draft} {set : RuleSet} (realizes : draft.Realizes set) :
    draft.Valid ↔ (∀ rule ∈ set.rules, rule.decision ≠ ⟨.hijack, ""⟩) ∧
      set.fallback ≠ some .hijack := by
  have rules := Yaml.forall_mem_iff_of_forall₂ realizes.rules fun _ _ one => RuleDraft.valid_iff one
  rw [← rules, realizes.fallback]
  exact ⟨fun valid => ⟨valid.rules, valid.fallback⟩, fun ⟨rules, fallback⟩ => ⟨rules, fallback⟩⟩

theorem RuleSet.parse_eq (document : String) :
    parse document =
      match (Yaml.document? document).bind ofNode? with
      | some set => set.check
      | none => .error (.config none) := (rfl)

/-- A document is accepted exactly if it is a valid draft, and it is read as the rules which are
drafted. -/
theorem RuleSet.parse_eq_ok_iff (document : String) (set : RuleSet) :
    parse document = .ok set ↔
      ∃ node draft, Yaml.document? document = some node ∧ IsDraft node draft ∧ draft.Valid ∧
        draft.Realizes set := by
  rw [parse_eq]
  constructor
  · intro accepted
    split at accepted
    · rename_i written found
      obtain ⟨node, parsed, read⟩ := Option.bind_eq_some_iff.mp found
      obtain ⟨draft, shaped, realizes⟩ := (ofNode?_eq_some_iff ..).mp read
      obtain ⟨rfl, named⟩ := (check_eq_ok_iff ..).mp accepted
      exact ⟨node, draft, parsed, shaped, (Draft.valid_iff realizes).mpr named, realizes⟩
    · cases accepted
  · rintro ⟨node, draft, parsed, shaped, valid, realizes⟩
    have read := (ofNode?_eq_some_iff ..).mpr ⟨draft, shaped, realizes⟩
    rw [parsed, Option.bind_some, read]
    exact (check_eq_ok_iff set set).mpr ⟨rfl, (Draft.valid_iff realizes).mp valid⟩

end Acl
end TunnelProxy
