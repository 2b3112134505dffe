import TunnelProxy.Text.Numeral
import TunnelProxy.Text.Unicode.Property

/-!
# Quoted texts

A text between double quotes, in which quotes, backslashes and characters which can not be seen on
their own are written as escapes.
-/

namespace TunnelProxy
namespace Text
namespace Quoted

/-- A character by its number. -/
def byNumber (char : Char) : String :=
  "\\u\x7b" ++ Numeral.hexText char.toNat ++ "\x7d"

/-- A character as it stands between the quotes. -/
def escape (char : Char) : String :=
  match char with
  | '"' => "\\\""
  | '\\' => "\\\\"
  | '\t' => "\\t"
  | '\r' => "\\r"
  | '\n' => "\\n"
  | '\x00' => "\\0"
  | _ =>
      if ' ' ≤ char ∧ char ≤ '~' then String.singleton char
      else if Property.graphemeExtend.contains char then byNumber char
      else if Property.printable.contains char then String.singleton char
      else byNumber char

/-- A text between quotes. -/
def quote (text : String) : String :=
  "\"" ++ String.join (text.toList.map escape) ++ "\""

end Quoted
end Text
end TunnelProxy
