import TunnelProxy.Text.Numeral
import TunnelProxy.Yaml.Node

/-!
# Meanings of scalars

A scalar whose place does not say what it is stands for a text, a number, a truth value or nothing.
Quoted and block scalars are always texts; plain ones follow their form or the type in front of
them.
-/

namespace TunnelProxy
namespace Yaml

open Text (Numeral.digits? Numeral.decimalDigit?)

/-- What a scalar stands for. -/
inductive Meaning where
  /-- Nothing. -/
  | null
  /-- A truth value. -/
  | truth (value : Bool)
  /-- A whole number. -/
  | integer (value : Int)
  /-- Any other number. -/
  | real
  /-- A text. -/
  | text (value : String)
  deriving DecidableEq, Inhabited

namespace Meaning

/-- The plain scalars which stand for nothing. -/
def isNullText (text : String) : Bool := text = "~" || text = "null"

/-- A number in a base, which may carry a plus sign. -/
def magnitude? (base limit : Nat) : List Char → Option Nat
  | '+' :: digits => Numeral.digits? base limit digits
  | digits => Numeral.digits? base limit digits

/-- Split a mark of base off a number. -/
def splitBase : List Char → Nat × List Char
  | '0' :: 'x' :: digits => (16, digits)
  | '0' :: 'o' :: digits => (8, digits)
  | '0' :: 'b' :: digits => (2, digits)
  | digits => (10, digits)

/-- Whether a text without its sign consists of several digits of which the first is zero. -/
def hasLeadingZero : List Char → Bool
  | '0' :: digit :: digits => (digit :: digits).all fun char => (Numeral.decimalDigit? char).isSome
  | _ => false

/-- A text without the sign it may begin with. -/
def withoutSign : List Char → List Char
  | '+' :: rest => rest
  | '-' :: rest => rest
  | chars => chars

/-- The whole number in a plain scalar: decimal without leading zeros, or after a mark of base. -/
def integer? (chars : List Char) : Option Int :=
  if hasLeadingZero (withoutSign chars) then none
  else
    match chars with
    | '-' :: rest =>
        let (base, digits) := splitBase rest
        (Numeral.digits? base (Nat.pow 2 127) digits).map fun value => -(value : Int)
    | '+' :: rest =>
        let (base, digits) := splitBase rest
        (magnitude? base (Nat.pow 2 128 - 1) digits).map Int.ofNat
    | _ =>
        let (base, digits) := splitBase chars
        (magnitude? base (Nat.pow 2 128 - 1) digits).map Int.ofNat

/-- The digits at the start of a text, and the rest. -/
def spanDigits (chars : List Char) : List Char × List Char :=
  chars.span fun char => (Numeral.decimalDigit? char).isSome

/-- An exponent: nothing, or a letter, perhaps a sign, and digits. -/
def exponent? : List Char → Option Int
  | [] => some 0
  | letter :: rest =>
      if letter = 'e' ∨ letter = 'E' then
        match rest with
        | '-' :: digits =>
            (Numeral.digits? 10 (Nat.pow 10 digits.length) digits).map fun value => -(value : Int)
        | '+' :: digits => (Numeral.digits? 10 (Nat.pow 10 digits.length) digits).map Int.ofNat
        | digits => (Numeral.digits? 10 (Nat.pow 10 digits.length) digits).map Int.ofNat
      else none

/-- The digits and the exponent of a decimal number without sign. -/
def decimal? (chars : List Char) : Option (List Char × Int) :=
  let (whole, rest) := spanDigits chars
  let (fraction, rest) :=
    match rest with
    | '.' :: rest => spanDigits rest
    | _ => ([], rest)
  let digits := whole ++ fraction
  if digits.isEmpty then none
  else (exponent? rest).map fun power => (digits, power - fraction.length)

/-- The numbers from here on are too large for a real number of 64 bits. -/
def realLimit : Nat := Nat.pow 2 1024 - Nat.pow 2 970

/-- Whether digits and an exponent are a number below the limit of real numbers. -/
def isFinite (digits : List Char) (power : Int) : Bool :=
  let significant := digits.dropWhile (· = '0')
  let size := (significant.length : Int) + power
  if significant.isEmpty || size < 300 then true
  else if 320 < size then false
  else
    let value := (Numeral.digits? 10 (Nat.pow 10 significant.length) significant).getD 0
    if 0 ≤ power then value * Nat.pow 10 power.toNat < realLimit
    else value < realLimit * Nat.pow 10 (-power).toNat

/-- Whether a plain scalar is a number which is not whole. -/
def isReal (chars : List Char) : Bool :=
  let names := [".inf", ".Inf", ".INF", "+.inf", "+.Inf", "+.INF", "-.inf", "-.Inf", "-.INF",
    ".nan", ".NaN", ".NAN"]
  if names.any fun name => name.toList = chars then true
  else (decimal? (withoutSign chars)).any fun (digits, power) => isFinite digits power

/-- What a plain scalar without a type stands for. -/
def ofPlain (text : String) : Meaning :=
  let chars := text.toList
  if isNullText text then null
  else if text = "true" then truth true
  else if text = "false" then truth false
  else
    match integer? chars with
    | some value => integer value
    | none =>
        if hasLeadingZero (withoutSign chars) then Meaning.text text
        else if isReal chars then real
        else Meaning.text text

/-- A whole number of 64 bits after the type of whole numbers. -/
def typedInteger? : List Char → Option Int
  | '-' :: digits => (Numeral.digits? 10 (Nat.pow 2 63) digits).map fun value => -(value : Int)
  | chars => (magnitude? 10 (Nat.pow 2 63 - 1) chars).map Int.ofNat

/-- What a plain scalar with one of the basic types stands for; it must have the form of its
type. -/
def ofTyped? (type text : String) : Option Meaning :=
  match type with
  | "bool" =>
      if text = "true" then some (truth true)
      else if text = "false" then some (truth false)
      else none
  | "int" => (typedInteger? text.toList).map integer
  | "float" =>
      let word := String.ofList ((withoutSign text.toList).map Char.toLower)
      let isWord := word = "inf" || word = "infinity" || word = "nan"
      if isWord || (decimal? (withoutSign text.toList)).isSome then some real else none
  | "null" => if isNullText text then some null else none
  | _ => some (Meaning.text text)

end Meaning

namespace Node

/-- What a value which is a scalar stands for. -/
def meaning? : Node → Option Meaning
  | scalar true none text => some (.ofPlain text)
  | scalar true (some ⟨"!!", type⟩) text => Meaning.ofTyped? type text
  | scalar _ _ text => some (.text text)
  | _ => none

end Node
end Yaml
end TunnelProxy
