import TunnelProxy.Acl.Network
import TunnelProxy.Proofs.Net.IpBits

/-!
# Members of networks

An address belongs to a network exactly if it is of the family of the network's address and agrees
with it in as many leading bits as the network counts.
-/

namespace TunnelProxy
namespace Acl

open Net (IpAddr)

namespace Network

/-! ## Masks -/

/-- The difference of words is the number of the bits which do not count. -/
theorem toNat_hostLength {width length : Nat} (fits : length ≤ width) (word : width < 2 ^ 32) :
    (hostLength width length).toNat + length = width := by
  have first : (UInt32.ofNat width).toNat = width := UInt32.toNat_ofNat_of_lt' word
  have second : (UInt32.ofNat length).toNat = length :=
    UInt32.toNat_ofNat_of_lt' (Nat.lt_of_le_of_lt fits word)
  have ordered : UInt32.ofNat length ≤ UInt32.ofNat width := by
    rwa [UInt32.le_iff_toNat_le, first, second]
  rw [hostLength, UInt32.toNat_sub_of_le _ _ ordered, first, second, Nat.sub_add_cancel fits]

theorem getMsbD_mask {width length : Nat} (fits : length ≤ width) (word : width < 2 ^ 32)
    (index : Nat) : (mask width length).getMsbD index = decide (index < length) := by
  have places := toNat_hostLength fits word
  rw [mask, shiftLeft?]
  split
  · have still : index + (hostLength width length).toNat < width ↔ index < length := by omega
    simp [BitVec.getMsbD_shiftLeft, BitVec.getMsbD_allOnes, still]
  · -- No bit counts, so no bit is left by the shift.
    have none_ : ¬ index < length := by omega
    simp [none_]

/-- Words which stand for addresses are the same under a mask if the addresses have the same bits
there. -/
theorem and_mask_eq_iff {width length : Nat} (fits : length ≤ width) (word : width < 2 ^ 32)
    {first second : BitVec width} {left right : IpAddr}
    (spelled : ∀ {index}, index < width → first.getMsbD index = left.bit index)
    (spelled' : ∀ {index}, index < width → second.getMsbD index = right.bit index) :
    first &&& mask width length = second &&& mask width length ↔
      ∀ index < length, left.bit index = right.bit index := by
  constructor
  · intro same index counts
    have inside : index < width := Nat.lt_of_lt_of_le counts fits
    have here := congrArg (BitVec.getMsbD · index) same
    rw [← spelled inside, ← spelled' inside]
    simpa [getMsbD_mask fits word, counts] using here
  · intro agree
    refine BitVec.eq_of_getMsbD_eq fun index inside => ?_
    rw [BitVec.getMsbD_and, BitVec.getMsbD_and, getMsbD_mask fits word]
    by_cases counts : index < length
    · rw [spelled inside, spelled' inside, agree index counts]
    · simp [counts]

/-! ## Members -/

/-- Two addresses are of one family and have the same leading bits. -/
structure Agree (length : Nat) (first second : IpAddr) : Prop where
  /-- They are of one family. -/
  family : first.width = second.width
  /-- Their first bits are the same. -/
  bits : ∀ index < length, first.bit index = second.bit index

theorem Agree.symm {length : Nat} {first second : IpAddr} (agree : Agree length first second) :
    Agree length second first where
  family := agree.family.symm
  bits index counts := (agree.bits index counts).symm

theorem Agree.trans {length : Nat} {first second third : IpAddr} (left : Agree length first second)
    (right : Agree length second third) : Agree length first third where
  family := left.family.trans right.family
  bits index counts := (left.bits index counts).trans (right.bits index counts)

theorem Agree.mono {length shorter : Nat} (le : shorter ≤ length) {first second : IpAddr}
    (agree : Agree length first second) : Agree shorter first second where
  family := agree.family
  bits index counts := agree.bits index (Nat.lt_of_lt_of_le counts le)

theorem agree_zero_iff {first second : IpAddr} :
    Agree 0 first second ↔ first.width = second.width :=
  ⟨Agree.family, fun family => ⟨family, fun index counts => absurd counts (Nat.not_lt_zero index)⟩⟩

theorem agree_width_iff {first second : IpAddr} :
    Agree first.width first second ↔ second = first := by
  constructor
  · exact fun agree => (IpAddr.eq_of_bit_eq agree.family agree.bits).symm
  · rintro rfl
    exact ⟨rfl, fun index counts => rfl⟩

theorem isSome_ofAddress?_iff (base : IpAddr) (length : Nat) :
    (ofAddress? base length).isSome ↔ length ≤ base.width := by
  cases base <;> simp [ofAddress?, IpAddr.width]

/-- Whether one address is in the network of another is decided by their leading bits. -/
theorem contains_iff {base : IpAddr} {length : Nat} {network : Network}
    (made : ofAddress? base length = some network) (address : IpAddr) :
    network.contains address = true ↔ Agree length base address := by
  have fits : length ≤ base.width := (isSome_ofAddress?_iff base length).mp (by simp [made])
  cases base with
  | v4 base =>
      change length ≤ 32 at fits
      cases (dif_pos fits).symm.trans made
      cases address with
      | v4 host =>
          have same := and_mask_eq_iff fits (by decide) base.getMsbD_bits host.getMsbD_bits
          exact decide_eq_true_iff.trans
            (same.trans ⟨fun agree => ⟨rfl, agree⟩, Agree.bits⟩)
      | v6 host => exact ⟨nofun, fun agree => absurd agree.family (by simp [IpAddr.width])⟩
  | v6 base =>
      change length ≤ 128 at fits
      cases (dif_pos fits).symm.trans made
      cases address with
      | v4 host => exact ⟨nofun, fun agree => absurd agree.family (by simp [IpAddr.width])⟩
      | v6 host =>
          have same := and_mask_eq_iff fits (by decide) base.getMsbD_bits host.getMsbD_bits
          exact decide_eq_true_iff.trans
            (same.trans ⟨fun agree => ⟨rfl, agree⟩, Agree.bits⟩)

/-- A network has the members which its base and its length stand for. -/
structure Matches (base : IpAddr) (length : Nat) (network : Network) : Prop where
  /-- The word by which ones are shifted is what the length leaves of the width. -/
  shift : (hostLength base.width length).toNat + length = base.width
  /-- The members are of the family of the base and have its leading bits. -/
  members : ∀ address, network.contains address = true ↔ Agree length base address
  /-- If no bits count, all addresses of the family are members. -/
  all : length = 0 → ∀ address, network.contains address = true ↔ address.width = base.width
  /-- If all bits count, the base is the only member. -/
  single : length = base.width → ∀ address, network.contains address = true ↔ address = base
  /-- The bits of the base which do not count do not matter. -/
  masked : ∀ other network', ofAddress? other length = some network' → Agree length base other →
    ∀ address, network'.contains address = network.contains address
  /-- The network of fewer bits exists and has at least these members. -/
  wider : ∀ shorter ≤ length, ∃ network', ofAddress? base shorter = some network' ∧
    ∀ address, network.contains address = true → network'.contains address = true

/-- There is a network exactly if the address has the bits which count, and the addresses which
match it are those of its family with the same leading bits. -/
theorem matches_of_accepted (base : IpAddr) (length : Nat) :
    ((ofAddress? base length).isSome ↔ length ≤ base.width) ∧
      ∀ network, ofAddress? base length = some network → Matches base length network := by
  refine ⟨isSome_ofAddress?_iff base length, fun network made => ?_⟩
  have fits : length ≤ base.width := (isSome_ofAddress?_iff base length).mp (by simp [made])
  have word : base.width < 2 ^ 32 := by cases base <;> simp [IpAddr.width]
  refine ⟨toNat_hostLength fits word, contains_iff made, ?_, ?_, ?_, ?_⟩
  · rintro rfl address
    rw [contains_iff made, agree_zero_iff, eq_comm]
  · rintro rfl address
    rw [contains_iff made, agree_width_iff]
  · intro other network' made' agree address
    rw [Bool.eq_iff_iff, contains_iff made, contains_iff made']
    exact ⟨agree.trans, agree.symm.trans⟩
  · intro shorter le
    obtain ⟨network', made'⟩ := Option.isSome_iff_exists.mp
      ((isSome_ofAddress?_iff base shorter).mpr (Nat.le_trans le fits))
    refine ⟨network', made', fun address member => ?_⟩
    rw [contains_iff made] at member
    exact (contains_iff made' address).mpr (member.mono le)

/-- The bits of 192.168.0.1 behind the first 24 do not matter, but those in front of them do. -/
theorem matches_with_low_bits :
    ∃ network, ofAddress? (.v4 ⟨192, 168, 0, 1⟩) 24 = some network ∧
      Matches (.v4 ⟨192, 168, 0, 1⟩) 24 network ∧
        network.contains (.v4 ⟨192, 168, 0, 255⟩) = true ∧
          network.contains (.v4 ⟨192, 168, 1, 2⟩) = false := by
  refine ⟨.v4 ⟨192, 168, 0, 1⟩ 24 (by decide), rfl, ?_, by decide, by decide⟩
  exact (matches_of_accepted (.v4 ⟨192, 168, 0, 1⟩) 24).2 _ rfl

end Network
end Acl
end TunnelProxy
