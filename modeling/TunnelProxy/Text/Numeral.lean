/-!
# Numerals

Readers and writers of unsigned numbers: decimal numerals bounded by the width of a field, and
hexadecimal digits.
-/

namespace TunnelProxy
namespace Text
namespace Numeral

/-- The value of a decimal digit. -/
def decimalDigit? (char : Char) : Option Nat :=
  if '0' ≤ char ∧ char ≤ '9' then some (char.toNat - '0'.toNat) else none

/-- The value of a hexadecimal digit of either case. -/
def hexDigit? (char : Char) : Option Nat :=
  if '0' ≤ char ∧ char ≤ '9' then some (char.toNat - '0'.toNat)
  else if 'a' ≤ char ∧ char ≤ 'f' then some (char.toNat - 'a'.toNat + 10)
  else if 'A' ≤ char ∧ char ≤ 'F' then some (char.toNat - 'A'.toNat + 10)
  else none

/-- The value of a digit in a base of at most sixteen. -/
def digit? (base : Nat) (char : Char) : Option Nat :=
  (hexDigit? char).filter (· < base)

/-- Append digits to a number already read, most significant first. -/
def valueFrom? (base : Nat) : Nat → List Char → Option Nat
  | value, [] => some value
  | value, char :: rest =>
      match digit? base char with
      | some digit => valueFrom? base (value * base + digit) rest
      | none => none

/-- The value of a non-empty run of digits, if it does not exceed `limit`. -/
def digits? (base limit : Nat) (digits : List Char) : Option Nat :=
  if digits.isEmpty then none else (valueFrom? base 0 digits).filter (· ≤ limit)

/-- A decimal numeral of at most `limit`, which may carry a plus sign. -/
def decimal? (limit : Nat) : List Char → Option Nat
  | '+' :: digits => digits? 10 limit digits
  | digits => digits? 10 limit digits

/-- The lower case hexadecimal numeral of a number, without leading zeros. -/
def hexText (value : Nat) : String :=
  String.ofList (Nat.toDigits 16 value)

/-- The upper case hexadecimal numeral of a number, without leading zeros. -/
def upperHexText (value : Nat) : String :=
  String.ofList ((Nat.toDigits 16 value).map Char.toUpper)

end Numeral
end Text
end TunnelProxy
