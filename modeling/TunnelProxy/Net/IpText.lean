import TunnelProxy.Net.Ip
import TunnelProxy.Text.Numeral

/-!
# Text of IP addresses

Version 4 addresses are dotted decimal octets without leading zeros.  Version 6 addresses are
colon separated hexadecimal groups; the first longest run of at least two zero groups is written
as `::`, and a mapped address shows its version 4 part in dotted form.
-/

namespace TunnelProxy
namespace Net

open Text (Numeral.digits? Numeral.hexText)

/-- Cut a text at every occurrence of a separator. -/
def splitAt (separator : Char) : List Char → List (List Char)
  | [] => [[]]
  | char :: rest =>
      if char = separator then [] :: splitAt separator rest
      else
        match splitAt separator rest with
        | piece :: pieces => (char :: piece) :: pieces
        | [] => [[char]]

/-- Cut a text at the first occurrence of a separator, which is dropped. -/
def splitFirst? (separator : Char) : List Char → Option (List Char × List Char)
  | [] => none
  | char :: rest =>
      if char = separator then some ([], rest)
      else (splitFirst? separator rest).map fun (front, back) => (char :: front, back)

/-- Cut a text at the last occurrence of a separator, which is dropped. -/
def splitLast? (separator : Char) : List Char → Option (List Char × List Char)
  | [] => none
  | char :: rest =>
      match splitLast? separator rest with
      | some (front, back) => some (char :: front, back)
      | none => if char = separator then some ([], rest) else none

namespace Ipv4

/-- The text of an address: four decimal octets. -/
def text (ip : Ipv4) : String :=
  s!"{ip.a.toNat}.{ip.b.toNat}.{ip.c.toNat}.{ip.d.toNat}"

/-- An octet: one to three digits, no leading zero unless it is the only digit. -/
def octet? (digits : List Char) : Option UInt8 :=
  if digits.length ≤ 3 ∧ ¬ (digits.head? = some '0' ∧ digits.length ≠ 1) then
    (Numeral.digits? 10 255 digits).map UInt8.ofNat
  else
    none

/-- Read four dotted octets. -/
def parse? (chars : List Char) : Option Ipv4 :=
  match splitAt '.' chars with
  | [a, b, c, d] => do return ⟨← octet? a, ← octet? b, ← octet? c, ← octet? d⟩
  | _ => none

end Ipv4

/-- A group: one to four hexadecimal digits. -/
def group? (digits : List Char) : Option UInt16 :=
  if digits.length ≤ 4 then (Numeral.digits? 16 0xFFFF digits).map UInt16.ofNat else none

/-- A run of zero groups: where it starts and how long it is. -/
structure ZeroRun where
  /-- Index of the first zero group. -/
  start : Nat
  /-- Number of zero groups. -/
  length : Nat
  deriving DecidableEq

/-- The number of zero groups at the front. -/
def leadingZeros : List UInt16 → Nat
  | [] => 0
  | value :: rest => if value = 0 then leadingZeros rest + 1 else 0

/-- The first of the longest runs of zero groups, looking from position `index` on. -/
def longestZeroRun (index : Nat) : List UInt16 → ZeroRun
  | [] => ⟨index, 0⟩
  | value :: rest =>
      let here := leadingZeros (value :: rest)
      let later := longestZeroRun (index + 1) rest
      if later.length ≤ here then ⟨index, here⟩ else later

/-- Hexadecimal groups joined by colons. -/
def groupsText (groups : List UInt16) : String :=
  ":".intercalate (groups.map fun value => Numeral.hexText value.toNat)

namespace Ipv6

/-- The text of an address. -/
def text (ip : Ipv6) : String :=
  match ip.mapped? with
  | some v4 => s!"::ffff:{v4.text}"
  | none =>
      let run := longestZeroRun 0 ip.groups
      if 1 < run.length then
        groupsText (ip.groups.take run.start) ++ "::" ++
          groupsText (ip.groups.drop (run.start + run.length))
      else
        groupsText ip.groups

/-- Read colon separated pieces; the last may be a version 4 address worth two groups. -/
def pieces? : List (List Char) → Option (List UInt16)
  | [] => some []
  | [last] =>
      match group? last with
      | some value => some [value]
      | none => (Ipv4.parse? last).map fun v4 => [group v4.a v4.b, group v4.c v4.d]
  | piece :: rest => do return (← group? piece) :: (← pieces? rest)

/-- The groups of a side of `::`; an empty side has none. -/
def side? (chars : List Char) : Option (List UInt16) :=
  if chars.isEmpty then some [] else pieces? (splitAt ':' chars)

/-- Cut a text at its first `::`. -/
def splitGap? : List Char → Option (List Char × List Char)
  | ':' :: ':' :: rest => some ([], rest)
  | char :: rest => (splitGap? rest).map fun (front, back) => (char :: front, back)
  | [] => none

/-- Read an address; `::` stands for one or more zero groups. -/
def parse? (chars : List Char) : Option Ipv6 :=
  match splitGap? chars with
  | some (front, back) => do
      let head ← if front.contains '.' then none else side? front
      let tail ← side? back
      if head.length + tail.length ≤ 7 then
        ofGroups? (head ++ List.replicate (8 - head.length - tail.length) 0 ++ tail)
      else
        none
  | none => side? chars >>= ofGroups?

end Ipv6

namespace IpAddr

/-- The text of an address of either version. -/
def text : IpAddr → String
  | v4 ip => ip.text
  | v6 ip => ip.text

/-- Read a literal address of either version. -/
def parse? (chars : List Char) : Option IpAddr :=
  match Ipv4.parse? chars with
  | some ip => some (v4 ip)
  | none => (Ipv6.parse? chars).map v6

end IpAddr
end Net
end TunnelProxy
