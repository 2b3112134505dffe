/-!
# UTF-8 text

Texts are written as UTF-8 and read back leniently: each maximal ill-formed piece of the input
becomes one replacement character, so that every byte sequence denotes some text.
-/

namespace TunnelProxy

/-- A finite sequence of bytes, as it travels over a connection. -/
abbrev Bytes := List UInt8

namespace Text
namespace Utf8

/-- The character standing for an ill-formed piece of the input. -/
def replacement : Char := '\uFFFD'

/-- The UTF-8 bytes of a text. -/
def encode (text : String) : Bytes :=
  text.toList.flatMap String.utf8EncodeChar

/-- A byte which may continue a multi-byte character. -/
def isContinuation (byte : UInt8) : Bool :=
  0x80 ≤ byte && byte ≤ 0xBF

/-- The range of the second byte after a leading byte of a three-byte character. -/
def secondOfThree (lead byte : UInt8) : Bool :=
  if lead = 0xE0 then 0xA0 ≤ byte && byte ≤ 0xBF
  else if lead = 0xED then 0x80 ≤ byte && byte ≤ 0x9F
  else isContinuation byte

/-- The range of the second byte after a leading byte of a four-byte character. -/
def secondOfFour (lead byte : UInt8) : Bool :=
  if lead = 0xF0 then 0x90 ≤ byte && byte ≤ 0xBF
  else if lead = 0xF4 then 0x80 ≤ byte && byte ≤ 0x8F
  else isContinuation byte

/-- The six payload bits of a continuation byte. -/
def payload (byte : UInt8) : Nat := byte.toNat % 64

/-- The character begun by `lead`, and how many of the following bytes belong to it. -/
def first (lead : UInt8) (rest : Bytes) : Char × Nat :=
  if lead < 0x80 then
    (Char.ofNat lead.toNat, 0)
  else if 0xC2 ≤ lead && lead ≤ 0xDF then
    match rest with
    | b :: _ =>
        if isContinuation b then (Char.ofNat (lead.toNat % 32 * 64 + payload b), 1)
        else (replacement, 0)
    | [] => (replacement, 0)
  else if 0xE0 ≤ lead && lead ≤ 0xEF then
    match rest with
    | b :: c :: _ =>
        if secondOfThree lead b then
          if isContinuation c then
            (Char.ofNat ((lead.toNat % 16 * 64 + payload b) * 64 + payload c), 2)
          else (replacement, 1)
        else (replacement, 0)
    | [b] => (replacement, if secondOfThree lead b then 1 else 0)
    | [] => (replacement, 0)
  else if 0xF0 ≤ lead && lead ≤ 0xF4 then
    match rest with
    | b :: c :: d :: _ =>
        if secondOfFour lead b then
          if isContinuation c then
            if isContinuation d then
              (Char.ofNat (((lead.toNat % 8 * 64 + payload b) * 64 + payload c) * 64 + payload d), 3)
            else (replacement, 2)
          else (replacement, 1)
        else (replacement, 0)
    | [b, c] =>
        (replacement, if secondOfFour lead b then if isContinuation c then 2 else 1 else 0)
    | [b] => (replacement, if secondOfFour lead b then 1 else 0)
    | [] => (replacement, 0)
  else
    (replacement, 0)

/-- The characters of a byte sequence, most recent first, after those already decoded. -/
def decodeOnto (decoded : List Char) : Bytes → List Char
  | [] => decoded
  | lead :: rest =>
      let (char, used) := first lead rest
      decodeOnto (char :: decoded) (rest.drop used)
termination_by bytes => bytes.length
decreasing_by
  simp only [List.length_drop, List.length_cons]
  omega

/-- The text denoted by a byte sequence; ill-formed pieces become replacement characters. -/
def decode (bytes : Bytes) : String :=
  String.ofList (decodeOnto [] bytes).reverse

end Utf8
end Text
end TunnelProxy
