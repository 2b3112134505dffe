import TunnelProxy.Net.IpText

/-!
# Networks

A network is an address and the number of its leading bits which count.  Addresses of one family
never belong to networks of the other.
-/

namespace TunnelProxy
namespace Acl

/-- A set of IP addresses which agree in their leading bits. -/
inductive Network where
  /-- A network of version 4. -/
  | v4 (address : Net.Ipv4) (length : Nat) (length_le : length ≤ 32)
  /-- A network of version 6. -/
  | v6 (address : Net.Ipv6) (length : Nat) (length_le : length ≤ 128)
  deriving DecidableEq

namespace Network

/-- The network of the addresses which agree with `address` in `length` bits.  There is none if
the address has fewer bits. -/
def ofAddress? (address : Net.IpAddr) (length : Nat) : Option Network :=
  match address with
  | .v4 host => if h : length ≤ 32 then some (v4 host length h) else none
  | .v6 host => if h : length ≤ 128 then some (v6 host length h) else none

/-- Why there is no network of so many bits of an address. -/
def tooLong (address : Net.IpAddr) (length : Nat) : String :=
  s!"{length} is too large for {address.text}"

/-- How many bits of an address do not count, as a word of 32 bits.  The difference of words is this
number only if no more bits count than there are. -/
def hostLength (width length : Nat) : UInt32 := UInt32.ofNat width - UInt32.ofNat length

/-- Bits moved to the left, unless they would all be moved out. -/
def shiftLeft? {width : Nat} (bits : BitVec width) (places : UInt32) : Option (BitVec width) :=
  if places.toNat < width then some (bits <<< places.toNat) else none

/-- The bits which count: `length` ones, then zeros. -/
def mask (width length : Nat) : BitVec width :=
  (shiftLeft? (BitVec.allOnes width) (hostLength width length)).getD 0

/-- Whether an address belongs to a network. -/
def contains (network : Network) (address : Net.IpAddr) : Bool :=
  match network, address with
  | v4 base length _, .v4 host => base.bits &&& mask 32 length = host.bits &&& mask 32 length
  | v6 base length _, .v6 host => base.bits &&& mask 128 length = host.bits &&& mask 128 length
  | _, _ => false

end Network
end Acl
end TunnelProxy
