import TunnelProxy.Text.Utf8

/-!
# IP addresses

Addresses of both families with their octets and their value as one bit string.
-/

namespace TunnelProxy
namespace Net

/-- An address of version 4: four octets, most significant first. -/
structure Ipv4 where
  /-- Most significant octet. -/
  a : UInt8
  /-- Second octet. -/
  b : UInt8
  /-- Third octet. -/
  c : UInt8
  /-- Least significant octet. -/
  d : UInt8
  deriving DecidableEq, Inhabited

namespace Ipv4

/-- The octets in network order. -/
def octets (ip : Ipv4) : Bytes := [ip.a, ip.b, ip.c, ip.d]

/-- The address as one number of 32 bits. -/
def bits (ip : Ipv4) : BitVec 32 :=
  ip.a.toBitVec ++ ip.b.toBitVec ++ ip.c.toBitVec ++ ip.d.toBitVec

/-- The address which stands for no particular host. -/
def unspecified : Ipv4 := ⟨0, 0, 0, 0⟩

/-- The address of this host. -/
def localhost : Ipv4 := ⟨127, 0, 0, 1⟩

end Ipv4

/-- Two octets as one group of an address of version 6. -/
def group (high low : UInt8) : UInt16 :=
  high.toUInt16 <<< 8 ||| low.toUInt16

/-- The two octets of a group. -/
def groupOctets (value : UInt16) : Bytes :=
  [(value >>> 8).toUInt8, value.toUInt8]

/-- An address of version 6: eight groups of sixteen bits, most significant first. -/
structure Ipv6 where
  /-- Most significant group. -/
  s0 : UInt16
  /-- Second group. -/
  s1 : UInt16
  /-- Third group. -/
  s2 : UInt16
  /-- Fourth group. -/
  s3 : UInt16
  /-- Fifth group. -/
  s4 : UInt16
  /-- Sixth group. -/
  s5 : UInt16
  /-- Seventh group. -/
  s6 : UInt16
  /-- Least significant group. -/
  s7 : UInt16
  deriving DecidableEq, Inhabited

namespace Ipv6

/-- The eight groups in network order. -/
def groups (ip : Ipv6) : List UInt16 :=
  [ip.s0, ip.s1, ip.s2, ip.s3, ip.s4, ip.s5, ip.s6, ip.s7]

/-- The address with exactly these groups. -/
def ofGroups? : List UInt16 → Option Ipv6
  | [s0, s1, s2, s3, s4, s5, s6, s7] => some ⟨s0, s1, s2, s3, s4, s5, s6, s7⟩
  | _ => none

/-- The address with exactly these octets. -/
def ofOctets? : Bytes → Option Ipv6
  | [a, b, c, d, e, f, g, h, i, j, k, l, m, n, o, p] =>
      some ⟨group a b, group c d, group e f, group g h, group i j, group k l, group m n, group o p⟩
  | _ => none

/-- The sixteen octets in network order. -/
def octets (ip : Ipv6) : Bytes := ip.groups.flatMap groupOctets

/-- The address as one number of 128 bits. -/
def bits (ip : Ipv6) : BitVec 128 :=
  ip.s0.toBitVec ++ ip.s1.toBitVec ++ ip.s2.toBitVec ++ ip.s3.toBitVec ++
    ip.s4.toBitVec ++ ip.s5.toBitVec ++ ip.s6.toBitVec ++ ip.s7.toBitVec

/-- The version 4 address carried by a mapped address, `::ffff:a.b.c.d`. -/
def mapped? (ip : Ipv6) : Option Ipv4 :=
  match ip.groups with
  | [0, 0, 0, 0, 0, 0xFFFF, high, low] =>
      match groupOctets high, groupOctets low with
      | [a, b], [c, d] => some ⟨a, b, c, d⟩
      | _, _ => none
  | _ => none

end Ipv6

/-- An IP address of either version. -/
inductive IpAddr where
  /-- Version 4. -/
  | v4 (address : Ipv4)
  /-- Version 6. -/
  | v6 (address : Ipv6)
  deriving DecidableEq, Inhabited

namespace IpAddr

/-- The octets in network order: four or sixteen. -/
def octets : IpAddr → Bytes
  | v4 ip => ip.octets
  | v6 ip => ip.octets

end IpAddr
end Net
end TunnelProxy
