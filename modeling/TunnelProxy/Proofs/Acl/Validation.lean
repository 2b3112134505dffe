import TunnelProxy.Proofs.Acl.Dispatch
import TunnelProxy.Proofs.Acl.RuleFile

/-!
# Rules which have been checked

What is checked when rules are read is enough for all that is done with them: no network counts more
bits than its addresses have, and no decision, be it that of a rule, of the fallback or of a side, is
to hijack without a host.  A request which is not dialed is therefore blocked, or its action has no
meaning.
-/

namespace TunnelProxy
namespace Acl

open Net (Address)

variable {document : String} {set : RuleSet}

/-- A network counts at most as many bits as its address has; so the difference of words by which
ones are shifted is the number of the others. -/
def Network.InRange (network : Network) : Prop :=
  ∃ base length, ofAddress? base length = some network ∧ length ≤ base.width ∧
    (hostLength base.width length).toNat + length = base.width

theorem Network.inRange (network : Network) : network.InRange := by
  cases network with
  | v4 base length fits =>
      have rest : (hostLength 32 length).toNat + length = 32 := toNat_hostLength fits (by decide)
      exact ⟨.v4 base, length, dif_pos fits, fits, rest⟩
  | v6 base length fits =>
      have rest : (hostLength 128 length).toNat + length = 128 := toNat_hostLength fits (by decide)
      exact ⟨.v6 base, length, dif_pos fits, fits, rest⟩

/-- No rule which is accepted hijacks without a host, and no fallback hijacks at all. -/
theorem RuleSet.named_of_parse (accepted : parse document = .ok set) :
    (∀ rule ∈ set.rules, rule.decision ≠ ⟨.hijack, ""⟩) ∧ set.fallback ≠ some .hijack := by
  obtain ⟨node, draft, -, -, valid, realizes⟩ := (parse_eq_ok_iff document set).mp accepted
  exact (Draft.valid_iff realizes).mp valid

namespace Side

/-- Neither the rules nor the fallback nor the default of a side hijack without a host. -/
theorem decide_ne_of_named (named : ∀ rule ∈ set.rules, rule.decision ≠ ⟨.hijack, ""⟩)
    (fallback : set.fallback ≠ some .hijack) (side : Side) (target : Address) :
    side.decide set target ≠ ⟨.hijack, ""⟩ := by
  rcases set.exists_first target with ⟨index, rule, first⟩ | unmatched
  · rw [decide_of_first first]
    exact named rule (List.mem_of_getElem? first.found)
  · rw [decide_of_unmatched unmatched]
    cases written : set.fallback with
    | none => cases side <;> simp [default]
    | some action =>
        rintro same
        have hijacks : action = .hijack := congrArg Decision.action same
        exact fallback (hijacks ▸ written)

/-- Acting on a decision which does not lack a host is to dial, unless there is nothing to be
dialed. -/
theorem dials_of_run {side : Side} {decision : Decision} {target : Address}
    (named : decision ≠ ⟨.hijack, ""⟩) {exchanges : List Exchange} {outcome : Except Error StreamRef}
    (run : Talk.Run (side.execute decision target) exchanges outcome) :
    (∃ route, exchanges = [⟨.dial route, outcome⟩]) ∨
      exchanges = [] ∧
        (decision.action = .block ∧ outcome = .error (.blocked target) ∨
          ∃ code, decision.action = .unknown code ∧ outcome = .error (.unknownAction code)) := by
  rcases (run_execute_iff side decision target exchanges outcome).mp run with
    ⟨error, calls, rfl, rfl⟩ | ⟨route, -, rfl⟩
  · refine .inr ⟨rfl, ?_⟩
    cases calls with
    | nowhere => exact absurd rfl named
    | block => exact .inl ⟨rfl, rfl⟩
    | unknown code => exact .inr ⟨code, rfl, rfl⟩
  · exact .inl ⟨route, rfl⟩

end Side

/-- What holds of rules which are used at a side for a destination. -/
structure Side.Sound (side : Side) (set : RuleSet) (target : Address) : Prop where
  /-- No network counts more bits than there are. -/
  networks : ∀ rule ∈ set.rules, ∀ network, rule.pattern = .specific (.network network) →
    network.InRange
  /-- The side does not decide to hijack without a host. -/
  named : side.decide set target ≠ ⟨.hijack, ""⟩
  /-- Acting on the decision is to dial once, unless the destination is blocked or the action has
  no meaning. -/
  dials : ∀ exchanges outcome,
    Talk.Run (side.execute (side.decide set target) target) exchanges outcome →
      (∃ route, exchanges = [⟨.dial route, outcome⟩]) ∨
        exchanges = [] ∧
          ((side.decide set target).action = .block ∧ outcome = .error (.blocked target) ∨
            ∃ code, (side.decide set target).action = .unknown code ∧
              outcome = .error (.unknownAction code))

/-- What the checks on reading a document achieve. -/
structure Checked (document : String) : Prop where
  /-- What is accepted is a valid draft, and the rules are the drafted ones. -/
  drafted : ∀ set, RuleSet.parse document = .ok set →
    ∃ node draft, Yaml.document? document = some node ∧ IsDraft node draft ∧ draft.Valid ∧
      draft.Realizes set
  /-- Every valid draft is accepted. -/
  accepted : ∀ node draft, Yaml.document? document = some node → IsDraft node draft → draft.Valid →
    ∃ set, RuleSet.parse document = .ok set ∧ draft.Realizes set
  /-- Nothing fails later, wherever the rules are used. -/
  sound : ∀ set, RuleSet.parse document = .ok set → ∀ side target, Side.Sound side set target

/-- Documents are accepted exactly if they are valid drafts, and then no dispatch fails for want of
what could have been checked. -/
theorem checked_of_document (document : String) : Checked document where
  drafted set accepted := (RuleSet.parse_eq_ok_iff document set).mp accepted
  accepted node draft parsed shaped valid := by
    obtain ⟨set, realizes⟩ := Draft.exists_realizes valid
    have accepted := (RuleSet.parse_eq_ok_iff document set).mpr
      ⟨node, draft, parsed, shaped, valid, realizes⟩
    exact ⟨set, accepted, realizes⟩
  sound set accepted side target := by
    obtain ⟨named, fallback⟩ := RuleSet.named_of_parse accepted
    have decided := Side.decide_ne_of_named named fallback side target
    exact
      { networks := fun _ _ network _ => network.inRange
        named := decided
        dials := fun _ _ run => Side.dials_of_run decided run }

/-- Rules which hijack the destinations of a network are accepted, and used without fail. -/
theorem checked_with_hijack :
    ∃ document set, RuleSet.parse document = .ok set ∧ set.rules.length = 1 ∧
      Side.Sound .frontEnd set (.ip (.v4 ⟨10, 1, 2, 3⟩) 80) := by
  let plain := Yaml.Node.scalar true none
  have parsed :
      Yaml.document? "[~, [[Hijack, b, \x7bSpecif: \x7bIpAddr: [10.0.0.0, 8]\x7d\x7d]]]" =
        some (.sequence [plain "~", .sequence [.sequence [plain "Hijack", plain "b",
          .mapping [(plain "Specif",
            .mapping [(plain "IpAddr", .sequence [plain "10.0.0.0", plain "8"])])]]]]) := by
    have scanned :
        Yaml.tokens? "[~, [[Hijack, b, \x7bSpecif: \x7bIpAddr: [10.0.0.0, 8]\x7d\x7d]]]" =
          some #[.flowSequenceStart, .scalar true "~", .flowEntry, .flowSequenceStart,
            .flowSequenceStart, .scalar true "Hijack", .flowEntry, .scalar true "b", .flowEntry,
            .flowMappingStart, .key, .scalar true "Specif", .value, .flowMappingStart, .key,
            .scalar true "IpAddr", .value, .flowSequenceStart, .scalar true "10.0.0.0", .flowEntry,
            .scalar true "8", .flowSequenceEnd, .flowMappingEnd, .flowMappingEnd, .flowSequenceEnd,
            .flowSequenceEnd, .flowSequenceEnd, .streamEnd] := by decide +kernel
    rw [Yaml.document?, scanned]
    rfl
  let network : Network := .v4 ⟨10, 0, 0, 0⟩ 8 (by decide)
  let set : RuleSet := ⟨[⟨⟨.hijack, "b"⟩, .specific (.network network)⟩], none⟩
  have accepted :
      RuleSet.parse "[~, [[Hijack, b, \x7bSpecif: \x7bIpAddr: [10.0.0.0, 8]\x7d\x7d]]]" = .ok set := by
    rw [RuleSet.parse_eq, parsed]
    rfl
  exact ⟨_, set, accepted, rfl, (checked_of_document _).sound set accepted _ _⟩

end Acl
end TunnelProxy
