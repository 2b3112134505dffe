import Mathlib.Data.List.GetD
import Mathlib.Tactic.IntervalCases
import Mathlib.Tactic.SplitIfs
import TunnelProxy.Proofs.Net.IpText

/-!
# Bits of IP addresses

The value of an address as one bit string has the bits of its octets, one octet after another, so an
address is determined by its family and its bits.
-/

namespace TunnelProxy
namespace Net
namespace IpAddr

/-- How many bits an address has. -/
def width : IpAddr → Nat
  | v4 _ => 32
  | v6 _ => 128

/-- A bit of an address, counted from the most significant one of the first octet. -/
def bit (address : IpAddr) (index : Nat) : Bool :=
  (address.octets.getD (index / 8) 0).toBitVec.getMsbD (index % 8)

theorem length_octets (address : IpAddr) : 8 * address.octets.length = address.width := by
  cases address <;> rfl

end IpAddr

namespace Ipv4

theorem getMsbD_bits (ip : Ipv4) {index : Nat} (inside : index < 32) :
    ip.bits.getMsbD index = (IpAddr.v4 ip).bit index := by
  obtain ⟨octet, place, small, rfl⟩ : ∃ octet place, place < 8 ∧ index = 8 * octet + place :=
    ⟨index / 8, index % 8, Nat.mod_lt _ (by decide), (Nat.div_add_mod ..).symm⟩
  have bound : octet < 4 := by omega
  rw [bits, BitVec.getMsbD_append (n := 24) (m := 8), BitVec.getMsbD_append (n := 16) (m := 8),
    BitVec.getMsbD_append (n := 8) (m := 8), IpAddr.bit, Nat.mul_add_div (by decide),
    Nat.mul_add_mod, Nat.div_eq_of_lt small, Nat.mod_eq_of_lt small]
  interval_cases octet <;> split_ifs <;> first | omega | simp [IpAddr.octets, octets]

theorem octets_injective {first second : Ipv4} (same : first.octets = second.octets) :
    first = second := by
  obtain ⟨a, b, c, d⟩ := first
  simp_all [octets]

end Ipv4

theorem getMsbD_groupOctets (value : UInt16) {half place : Nat} (halves : half < 2)
    (small : place < 8) :
    value.toBitVec.getMsbD (8 * half + place) =
      ((groupOctets value).getD half 0).toBitVec.getMsbD place := by
  interval_cases half
  · have index : 15 - place = 8 + (7 - place) := by omega
    have first : place < 16 := by omega
    have second : 7 - place < 8 := by omega
    simp [groupOctets, BitVec.getMsbD_eq_getLsbD, small, first, second, index]
  · have index : 15 - (8 + place) = 7 - place := by omega
    have whole : 8 + place < 16 := by omega
    have second : 7 - place < 8 := by omega
    simp [groupOctets, BitVec.getMsbD_eq_getLsbD, small, whole, second, index]

namespace Ipv6

theorem getMsbD_bits_group (ip : Ipv6) {group place : Nat} (bound : group < 8) (small : place < 16) :
    ip.bits.getMsbD (16 * group + place) = (ip.groups.getD group 0).toBitVec.getMsbD place := by
  rw [bits, BitVec.getMsbD_append (n := 112) (m := 16), BitVec.getMsbD_append (n := 96) (m := 16),
    BitVec.getMsbD_append (n := 80) (m := 16), BitVec.getMsbD_append (n := 64) (m := 16),
    BitVec.getMsbD_append (n := 48) (m := 16), BitVec.getMsbD_append (n := 32) (m := 16),
    BitVec.getMsbD_append (n := 16) (m := 16)]
  interval_cases group <;> split_ifs <;> first | omega | simp [groups]

theorem getD_octets (ip : Ipv6) {group half : Nat} (bound : group < 8) (halves : half < 2) :
    ip.octets.getD (2 * group + half) 0 = (groupOctets (ip.groups.getD group 0)).getD half 0 := by
  interval_cases group <;> interval_cases half <;> rfl

theorem getMsbD_bits (ip : Ipv6) {index : Nat} (inside : index < 128) :
    ip.bits.getMsbD index = (IpAddr.v6 ip).bit index := by
  obtain ⟨group, half, place, halves, small, rfl⟩ :
      ∃ group half place, half < 2 ∧ place < 8 ∧ index = 16 * group + (8 * half + place) :=
    ⟨index / 16, index / 8 % 2, index % 8, by omega, by omega, by omega⟩
  have bound : group < 8 := by omega
  have octet : (16 * group + (8 * half + place)) / 8 = 2 * group + half := by omega
  have inner : (16 * group + (8 * half + place)) % 8 = place := by omega
  rw [ip.getMsbD_bits_group bound (by omega), getMsbD_groupOctets _ halves small,
    ← ip.getD_octets bound halves, IpAddr.bit, octet, inner]
  rfl

theorem ofOctets?_octets (ip : Ipv6) : ofOctets? ip.octets = some ip := by
  simp [octets, groups, groupOctets, ofOctets?, group_groupOctets]

end Ipv6

namespace IpAddr

theorem octets_injective {first second : IpAddr} (same : first.octets = second.octets) :
    first = second := by
  have family := congrArg List.length same
  cases first with
  | v4 first =>
      cases second with
      | v4 second => rw [Ipv4.octets_injective same]
      | v6 second => cases family
  | v6 first =>
      cases second with
      | v4 second => cases family
      | v6 second =>
          have read := congrArg Ipv6.ofOctets? same
          simp only [octets, Ipv6.ofOctets?_octets, Option.some.injEq] at read
          rw [read]

/-- Addresses of one family whose bits are the same are the same. -/
theorem eq_of_bit_eq {first second : IpAddr} (family : first.width = second.width)
    (agree : ∀ index < first.width, first.bit index = second.bit index) : first = second := by
  have lengths := first.length_octets
  have lengths' := second.length_octets
  refine octets_injective (List.ext_getElem (by omega) fun octet inside inside' => ?_)
  refine UInt8.toBitVec_inj.mp (BitVec.eq_of_getMsbD_eq fun place small => ?_)
  have here := agree (8 * octet + place) (by omega)
  simpa only [bit, Nat.mul_add_div (by decide : 0 < 8), Nat.mul_add_mod, Nat.div_eq_of_lt small,
    Nat.mod_eq_of_lt small, Nat.add_zero, List.getD_eq_getElem _ _ inside,
    List.getD_eq_getElem _ _ inside'] using here

end IpAddr
end Net
end TunnelProxy
