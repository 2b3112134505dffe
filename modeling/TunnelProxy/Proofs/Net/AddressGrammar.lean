import TunnelProxy.Proofs.Net.AddressText

/-!
# The grammar of destinations

A text names a destination exactly if it is a spelled host, a colon and a port.  The text of a
destination names the destination itself, unless it is a domain whose spelling means another host or
none at all.
-/

namespace TunnelProxy
namespace Net
namespace Address

open Text.Numeral (decimal? decimal?_eq_none digits?_ten_iff ofDecimal)

/-! ## Ports -/

/-- A text is a port: decimal digits, perhaps after a plus sign, whose value is that of the port. -/
inductive SpellsPort : List Char → UInt16 → Prop
  /-- The digits stand alone. -/
  | unsigned {digits : List Char} {port : UInt16} (nonempty : digits ≠ [])
      (decimal : ∀ char ∈ digits, char.isDigit) (value : ofDecimal digits = port.toNat) :
      SpellsPort digits port
  /-- The digits stand behind a plus sign. -/
  | signed {digits : List Char} {port : UInt16} (nonempty : digits ≠ [])
      (decimal : ∀ char ∈ digits, char.isDigit) (value : ofDecimal digits = port.toNat) :
      SpellsPort ('+' :: digits) port

theorem decimal?_eq_some_iff (limit : Nat) (chars : List Char) (value : Nat) :
    decimal? limit chars = some value ↔
      ∃ digits, (chars = digits ∨ chars = '+' :: digits) ∧ digits ≠ [] ∧
        (∀ char ∈ digits, char.isDigit) ∧ value = ofDecimal digits ∧ value ≤ limit := by
  unfold decimal?
  split
  · rename_i digits
    rw [digits?_ten_iff]
    constructor
    · exact fun proper => ⟨digits, .inr rfl, proper⟩
    · rintro ⟨others, rfl | same, proper⟩
      · exact absurd (proper.2.1 '+' List.mem_cons_self) (by decide)
      · cases same
        exact proper
  · rename_i unsigned
    rw [digits?_ten_iff]
    constructor
    · exact fun proper => ⟨chars, .inl rfl, proper⟩
    · rintro ⟨others, rfl | same, proper⟩
      · exact proper
      · exact absurd same (unsigned others)

theorem spellsPort_iff (chars : List Char) (port : UInt16) :
    SpellsPort chars port ↔ decimal? 0xFFFF chars = some port.toNat := by
  have small : port.toNat ≤ 0xFFFF := Nat.le_of_lt_succ port.toNat_lt
  rw [decimal?_eq_some_iff]
  constructor
  · rintro (⟨nonempty, decimal, value⟩ | ⟨nonempty, decimal, value⟩)
    · exact ⟨_, .inl rfl, nonempty, decimal, value.symm, small⟩
    · exact ⟨_, .inr rfl, nonempty, decimal, value.symm, small⟩
  · rintro ⟨digits, rfl | rfl, nonempty, decimal, value, -⟩
    · exact .unsigned nonempty decimal value.symm
    · exact .signed nonempty decimal value.symm

theorem SpellsPort.colonless {chars : List Char} {port : UInt16} (spells : SpellsPort chars port) :
    ':' ∉ chars := by
  intro member
  rw [spellsPort_iff, decimal?_eq_none member (by decide) rfl] at spells
  cases spells

/-! ## Hosts -/

/-- The destination on a host with a port: an IP address if the host is a literal one, and otherwise
a domain. -/
inductive Located (host : List Char) (port : UInt16) : Address → Prop
  /-- The host is a literal IP address. -/
  | literal {address : IpAddr} (spelled : IpAddr.parse? host = some address) :
      Located host port (.ip address port)
  /-- The host is anything else. -/
  | domain (unspelled : IpAddr.parse? host = none) :
      Located host port (.domain (String.ofList host) port)

theorem located_iff (host : List Char) (port : UInt16) (address : Address) :
    Located host port address ↔ address = ofHost host port := by
  rw [ofHost]
  constructor
  · rintro (spelled | unspelled)
    · rw [spelled]
    · rw [unspelled]
  · rintro rfl
    split
    · exact .literal ‹_›
    · exact .domain ‹_›

theorem splitLast?_sound {separator : Char} {chars front back : List Char}
    (cut : splitLast? separator chars = some (front, back)) :
    chars = front ++ separator :: back := by
  induction chars generalizing front with
  | nil => cases cut
  | cons char rest ih =>
      rw [splitLast?] at cut
      split at cut
      · rename_i before after later
        cases cut
        rw [ih later, List.cons_append]
      · split at cut
        · rename_i same
          cases cut
          rw [same, List.nil_append]
        · cases cut

/-- What is separated from the port is a spelling in front of a colon. -/
theorem exists_spelling {chars host back : List Char} (cut : splitHost? chars = some (host, back)) :
    ∃ spelling, chars = spelling ++ ':' :: back := by
  by_cases open_ : chars.head? = some '['
  · obtain ⟨rest, rfl⟩ := List.head?_eq_some_iff.mp open_
    obtain ⟨-, rfl⟩ := (splitHost?_bracket_iff ..).mp cut
    exact ⟨'[' :: host ++ [']'], by simp⟩
  · rw [splitHost?.eq_def] at cut
    split at cut
    · exact absurd rfl open_
    · split at cut
      · rename_i front digits last
        split at cut
        · cases cut
        · cases cut
          exact ⟨host, splitLast?_sound last⟩
      · cases cut

/-! ## Texts -/

/-- A text is that of a destination: a spelled host, a colon and a port. -/
inductive Spells (text : String) (host : List Char) (port : UInt16) : Prop
  /-- These are the parts of the text. -/
  | intro {spelling digits : List Char} (whole : text.toList = spelling ++ ':' :: digits)
      (named : Names spelling host) (spelled : SpellsPort digits port)

theorem parse?_eq_some_iff (text : String) (address : Address) :
    parse? text = some address ↔ ∃ host port, Spells text host port ∧ Located host port address := by
  rw [parse?, Option.bind_eq_bind, Option.bind_eq_some_iff]
  constructor
  · rintro ⟨⟨host, digits⟩, cut, read⟩
    dsimp only at read
    split at read
    · cases read
    · rename_i nonempty
      obtain ⟨value, counted, same⟩ := Option.bind_eq_some_iff.mp read
      obtain ⟨-, -, -, -, -, small⟩ := (decimal?_eq_some_iff ..).mp counted
      have spelled : SpellsPort digits (UInt16.ofNat value) := by
        rw [spellsPort_iff, counted, UInt16.toNat_ofNat_of_lt' (Nat.lt_succ_of_le small)]
      obtain ⟨spelling, whole⟩ := exists_spelling cut
      rw [whole] at cut
      obtain ⟨named, -⟩ :=
        (splitHost?_iff spelled.colonless spelled.colonless).mp ⟨cut, by simpa using nonempty⟩
      cases same
      exact ⟨host, _, ⟨whole, named, spelled⟩, (located_iff ..).mpr rfl⟩
  · rintro ⟨host, port, ⟨whole, named, spelled⟩, located⟩
    obtain ⟨cut, nonempty⟩ :=
      (splitHost?_iff spelled.colonless spelled.colonless).mpr ⟨named, rfl⟩
    rw [spellsPort_iff] at spelled
    rw [located_iff] at located
    exact ⟨_, by rw [whole, cut], by simp [nonempty, spelled, located]⟩

/-- The destinations whose text names themselves. -/
inductive Readable : Address → Prop
  /-- Every IP address is readable. -/
  | ip (host : IpAddr) (port : UInt16) : Readable (.ip host port)
  /-- A domain is readable if it is no literal IP address and stands as it is in front of a port. -/
  | domain {name : String} {port : UInt16} (nonempty : name ≠ "") (colonless : ':' ∉ name.toList)
      (open_ : name.toList.head? ≠ some '[') (unspelled : IpAddr.parse? name.toList = none) :
      Readable (.domain name port)

theorem readable_iff (address : Address) :
    Readable address ↔ address.Plain ∧ ∃ host, Names address.spelling host := by
  constructor
  · rintro (⟨host, port⟩ | ⟨nonempty, colonless, open_, unspelled⟩)
    · exact ⟨trivial, _, names_spelling_ip host port⟩
    · exact ⟨⟨unspelled, open_⟩, _, .bare (by simpa [spelling] using nonempty) colonless open_⟩
  · rintro ⟨plain, host, named⟩
    cases address with
    | ip host port => exact .ip host port
    | domain name port =>
        rw [spelling] at named
        generalize spelled : name.toList = chars at named
        cases named with
        | bare nonempty colonless open_ =>
            subst spelled
            exact .domain (by simpa using nonempty) colonless open_ plain.1
        | bracketed => exact absurd (by simp [spelled]) plain.2

/-- The text of a destination is read as the destination exactly if that is an IP address, or a
domain which is not empty, holds no colon, does not begin with a bracket and is no literal IP
address.  A text is read exactly if it is a spelled host, a colon and a port, and then as the
destination on that host with that port. -/
theorem parse?_inverts_text :
    (∀ address : Address, parse? address.text = some address ↔ Readable address) ∧
    (∀ text : String, (parse? text).isSome ↔ ∃ host port, Spells text host port) ∧
    ∀ (text : String) (address : Address), parse? text = some address ↔
      ∃ host port, Spells text host port ∧ Located host port address := by
  refine ⟨fun address => ?_, fun text => ?_, parse?_eq_some_iff⟩
  · rw [readable_iff]
    constructor
    · intro read
      obtain ⟨host, named, -⟩ := (parse?_text_iff address address).mp read
      exact ⟨(eq_iff_plain read).mp rfl, host, named⟩
    · rintro ⟨plain, host, named⟩
      have read := (parse?_text_iff address _).mpr ⟨host, named, rfl⟩
      rw [read, (eq_iff_plain read).mpr plain]
  · rw [Option.isSome_iff_exists]
    constructor
    · rintro ⟨address, read⟩
      obtain ⟨host, port, spells, -⟩ := (parse?_eq_some_iff text address).mp read
      exact ⟨host, port, spells⟩
    · rintro ⟨host, port, spells⟩
      exact ⟨_, (parse?_eq_some_iff text _).mpr ⟨host, port, spells, (located_iff ..).mpr rfl⟩⟩

end Address
end Net
end TunnelProxy
