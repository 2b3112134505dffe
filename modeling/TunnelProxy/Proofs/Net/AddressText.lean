import TunnelProxy.Proofs.Net.IpText
import TunnelProxy.Proofs.Text.Utf8

/-!
# Reading destinations back

The text of a destination is a spelling of its host in front of a colon and the port.  A spelling
without colons names the host it spells; a spelling in brackets names what is inside of them, which
is meant for addresses of version 6 but holds of any host.
-/

namespace TunnelProxy
namespace Net
namespace Address

open Text.Numeral (decimal?_eq_none decimal?_toDigits not_mem_toDigits)

/-- How the host of a destination is spelled in front of the port. -/
def spelling : Address → List Char
  | ip (.v4 host) _ => host.text.toList
  | ip (.v6 host) _ => '[' :: host.text.toList ++ [']']
  | domain name _ => name.toList

/-- A spelling names a host. -/
inductive Names : List Char → List Char → Prop
  /-- The host stands as it is. -/
  | bare {host : List Char} (nonempty : host ≠ []) (colonless : ':' ∉ host)
      (open_ : host.head? ≠ some '[') : Names host host
  /-- The host stands in brackets. -/
  | bracketed {host : List Char} (nonempty : host ≠ []) (closed : ']' ∉ host) :
      Names ('[' :: host ++ [']']) host

theorem text_toList (address : Address) :
    address.text.toList = address.spelling ++ ':' :: Nat.toDigits 10 address.port.toNat := by
  rcases address with (host | host) | name
  · simp [text, spelling, port, SocketAddress.ofIp, SocketAddress.text]
    rfl
  · simp [text, spelling, port, SocketAddress.ofIp, SocketAddress.text]
    rfl
  · simp [text, spelling, port]
    rfl

theorem cut_unique {separator : Char} {front back front' back' : List Char}
    (absent : separator ∉ back) (absent' : separator ∉ back')
    (same : front ++ separator :: back = front' ++ separator :: back') :
    front = front' ∧ back = back' := by
  have cut := splitLast?_append absent front
  rw [same, splitLast?_append absent' front'] at cut
  cases cut
  exact ⟨rfl, rfl⟩

theorem splitHost?_bracket_iff (rest host back : List Char) :
    splitHost? ('[' :: rest) = some (host, back) ↔
      ']' ∉ host ∧ rest = host ++ ']' :: ':' :: back := by
  rw [← splitFirst?_eq_some_iff, splitHost?]
  split <;> simp_all

theorem splitHost?_bare {spelling digits : List Char} (open_ : spelling.head? ≠ some '[')
    (absent : ':' ∉ digits) :
    splitHost? (spelling ++ ':' :: digits) =
      if spelling.contains ':' then none else some (spelling, digits) := by
  rw [splitHost?.eq_def]
  split
  · rename_i rest same
    cases spelling <;> simp_all
  · rw [splitLast?_append absent]

/-- The host which is separated from the port is the one which its spelling names. -/
theorem splitHost?_iff {spelling digits host back : List Char} (absent : ':' ∉ digits)
    (absent' : ':' ∉ back) :
    splitHost? (spelling ++ ':' :: digits) = some (host, back) ∧ host ≠ [] ↔
      Names spelling host ∧ digits = back := by
  by_cases open_ : spelling.head? = some '['
  · obtain ⟨rest, rfl⟩ := List.head?_eq_some_iff.mp open_
    rw [List.cons_append, splitHost?_bracket_iff]
    constructor
    · rintro ⟨⟨closed, whole⟩, nonempty⟩
      obtain ⟨rfl, rfl⟩ := cut_unique absent absent'
        (by simpa using whole : rest ++ ':' :: digits = (host ++ [']']) ++ ':' :: back)
      exact ⟨.bracketed nonempty closed, rfl⟩
    · rintro ⟨names, rfl⟩
      generalize opened : '[' :: rest = bracketed at names
      cases names with
      | bare _ _ unopened => exact absurd (by simp [← opened]) unopened
      | bracketed nonempty closed =>
          cases opened
          exact ⟨⟨closed, by simp⟩, nonempty⟩
  · rw [splitHost?_bare open_ absent]
    constructor
    · rintro ⟨cut, nonempty⟩
      split at cut
      · cases cut
      · rename_i colonless
        cases cut
        exact ⟨.bare nonempty (by simpa using colonless) open_, rfl⟩
    · rintro ⟨names, rfl⟩
      cases names with
      | bare nonempty colonless => exact ⟨by simp [colonless], nonempty⟩
      | bracketed => exact absurd rfl open_

/-- The text of a destination is read as the destination on the host which its spelling names. -/
theorem parse?_text_iff (address seen : Address) :
    parse? address.text = some seen ↔
      ∃ host, Names address.spelling host ∧ seen = ofHost host address.port := by
  have colonless : ':' ∉ Nat.toDigits 10 address.port.toNat :=
    not_mem_toDigits (by decide) (by decide) rfl
  have number : Text.Numeral.decimal? 0xFFFF (Nat.toDigits 10 address.port.toNat) =
      some address.port.toNat := by
    have small := address.port.toNat_lt
    exact decimal?_toDigits (by omega)
  rw [parse?, text_toList, Option.bind_eq_bind, Option.bind_eq_some_iff]
  constructor
  · rintro ⟨⟨host, digits⟩, cut, read⟩
    dsimp only at read
    split at read
    · cases read
    · rename_i nonempty
      obtain ⟨value, counted, same⟩ := Option.bind_eq_some_iff.mp read
      have colonless' : ':' ∉ digits := by
        intro member
        rw [decimal?_eq_none member (by decide) rfl] at counted
        cases counted
      obtain ⟨names, rfl⟩ :=
        (splitHost?_iff colonless colonless').mp ⟨cut, by simpa using nonempty⟩
      rw [number] at counted
      cases counted
      cases same
      exact ⟨host, names, by simp⟩
  · rintro ⟨host, names, rfl⟩
    obtain ⟨cut, nonempty⟩ := (splitHost?_iff colonless colonless).mpr ⟨names, rfl⟩
    exact ⟨_, cut, by simp [nonempty, number]⟩

/-! ## Destinations which are read back -/

theorem names_spelling_ip (host : IpAddr) (port : UInt16) :
    Names (ip host port).spelling host.text.toList := by
  cases host with
  | v4 host =>
      refine .bare ?_ (host.not_mem_text rfl (by decide)) ?_
      · simp [spelling, Ipv4.text_toList, List.intercalate_cons_cons]
      · intro opened
        exact host.not_mem_text rfl (by decide) (List.mem_of_mem_head? opened)
  | v6 host =>
      refine .bracketed ?_ (host.not_mem_text rfl (by decide) (by decide))
      exact List.ne_nil_of_mem host.colon_mem_text

theorem ofHost_text (host : IpAddr) (port : UInt16) : ofHost host.text.toList port = ip host port := by
  rw [ofHost, IpAddr.parse?_text]

/-- A destination with a literal IP address is read back from its text. -/
theorem parse?_text_ip (host : IpAddr) (port : UInt16) :
    parse? (ip host port).text = some (ip host port) :=
  (parse?_text_iff ..).mpr ⟨_, names_spelling_ip host port, (ofHost_text host port).symm⟩

/-- A domain is read back from its text if it stands in front of the port as it is and is no literal
IP address. -/
theorem parse?_text_domain {name : String} (port : UInt16) (nonempty : name ≠ "")
    (colonless : ':' ∉ name.toList) (open_ : name.toList.head? ≠ some '[')
    (unspelled : IpAddr.parse? name.toList = none) :
    parse? (domain name port).text = some (domain name port) := by
  have names : Names (domain name port).spelling name.toList :=
    .bare (by simpa [spelling] using nonempty) colonless open_
  rw [(parse?_text_iff ..).mpr ⟨_, names, rfl⟩, ofHost, unspelled, String.ofList_toList]
  rfl

/-- The text of a destination is not that of another one: its domain, if it has one, neither spells
an IP address nor begins with a bracket. -/
def Plain : Address → Prop
  | ip .. => True
  | domain name _ => IpAddr.parse? name.toList = none ∧ name.toList.head? ≠ some '['

theorem port_of_parse? {target seen : Address} (read : parse? target.text = some seen) :
    seen.port = target.port := by
  obtain ⟨host, -, rfl⟩ := (parse?_text_iff ..).mp read
  rw [ofHost]
  split <;> rfl

/-- What is read from the text of a destination is the destination exactly if it is plain. -/
theorem eq_iff_plain {target seen : Address} (read : parse? target.text = some seen) :
    seen = target ↔ target.Plain := by
  cases target with
  | ip host port =>
      rw [parse?_text_ip] at read
      cases read
      exact ⟨fun _ => trivial, fun _ => rfl⟩
  | domain name port =>
      obtain ⟨host, names, rfl⟩ := (parse?_text_iff ..).mp read
      rw [spelling] at names
      generalize spelled : name.toList = chars at names
      cases names with
      | bare _ _ open_ =>
          subst spelled
          rw [ofHost]
          cases literal : IpAddr.parse? name.toList with
          | some host => simp [Plain, literal]
          | none => simp [Plain, literal, open_, Address.port]
      | bracketed _ _ =>
          have opened : name.toList.head? = some '[' := by simp [spelled]
          refine ⟨fun same => ?_, fun plain => absurd opened plain.2⟩
          have inside : String.ofList host = name := by
            rw [ofHost] at same
            split at same
            · cases same
            · exact (domain.inj same).1
          have longer := congrArg List.length spelled
          rw [← inside, String.toList_ofList] at longer
          simp only [List.length_append, List.length_cons, List.length_nil] at longer
          omega

/-! ## Sizes -/

open Text.Utf8 (encode) in
/-- The text of a destination is not much longer than its domain. -/
theorem encode_text_length_le (address : Address) :
    (encode address.text).length ≤ (encode (address.domain?.getD "")).length + 200 := by
  have split : address.text =
      String.ofList address.spelling ++ String.ofList (':' :: Nat.toDigits 10 address.port.toNat) := by
    rw [← String.toList_inj, text_toList]
    simp
  have digits : (Nat.toDigits 10 address.port.toNat).length ≤ 5 := by
    have small := address.port.toNat_lt
    exact (Nat.length_toDigits_le_iff (by decide) (by decide)).mpr (by omega)
  have port_size := Text.Utf8.encode_length_le
    (String.ofList (':' :: Nat.toDigits 10 address.port.toNat))
  rw [String.toList_ofList, List.length_cons] at port_size
  have host_size : (encode (String.ofList address.spelling)).length ≤
      (encode (address.domain?.getD "")).length + 176 := by
    cases address with
    | domain name port => simp [spelling, domain?]
    | ip host port =>
        have size := Text.Utf8.encode_length_le (String.ofList (ip host port).spelling)
        rw [String.toList_ofList] at size
        have short : (ip host port).spelling.length ≤ 44 := by
          cases host with
          | v4 host => exact Nat.le_trans host.length_text_le (by decide)
          | v6 host =>
              have inside := host.length_text_le
              simp only [spelling, List.length_append, List.length_cons, List.length_nil]
              omega
        omega
  rw [split, Text.Utf8.encode_append, List.length_append]
  omega

end Address
end Net
end TunnelProxy
