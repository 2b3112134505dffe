import TunnelProxy.Text.Numeral
import TunnelProxy.Text.Utf8

/-!
# Hexadecimal text of bytes

Every byte is written as two digits, the higher one first.
-/

namespace TunnelProxy
namespace Text
namespace Hex

/-- The lower case digit with a value below sixteen. -/
def digit (value : Nat) : Char :=
  Char.ofNat (if value < 10 then 48 + value else 87 + value)

/-- The text of bytes. -/
def encode (bytes : Bytes) : String :=
  String.ofList (bytes.flatMap fun byte => [digit (byte.toNat / 16), digit (byte.toNat % 16)])

/-- The value of a digit; what is no digit counts as zero. -/
def value (char : Char) : Nat := (Numeral.hexDigit? char).getD 0

/-- Read pairs of digits behind bytes which were read before, most recent first.  A digit which is
left over is not read. -/
def decodeFrom (done : Bytes) : List Char → Bytes
  | high :: low :: rest => decodeFrom (UInt8.ofNat (value high * 16 + value low) :: done) rest
  | _ => done.reverse

/-- The bytes with a text. -/
def decode (text : String) : Bytes := decodeFrom [] text.toList

end Hex
end Text
end TunnelProxy
