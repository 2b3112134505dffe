import TunnelProxy.Regex.Match
import TunnelProxy.Regex.Parser
import TunnelProxy.Text.Replace

/-!
# Wildcards

A wildcard stands for whole domains.  Each star in it stands for one label or a part of one, that
is for 1 to 63 letters, digits and dashes; every other character stands for itself.  Upper and lower
case do not matter, by simple case folding.  A wildcard is matched by the expression which is read
from its text: all characters escaped, and the escaped stars replaced by the notation of a label.
-/

namespace TunnelProxy
namespace Acl

namespace Wildcard

/-- The notation for a label or a part of one. -/
def labelNotation : String := "[A-Za-z0-9-]\x7b1,63\x7d"

/-- The notation of the expression for a wildcard. -/
def source (text : String) : String :=
  let inner :=
    Text.replace "\\*".toList labelNotation.toList (Regex.escaped text.toList)
  "(?i)\\A" ++ String.ofList inner ++ "\\z"

end Wildcard

/-- A wildcard with the expression it stands for. -/
structure Wildcard where
  /-- The text of the wildcard. -/
  text : String
  /-- The expression. -/
  compiled : Regex
  /-- The expression is the one which the notation for the text stands for. -/
  compiled_eq : Regex.parse? (Wildcard.source text) = some compiled

namespace Wildcard

/-- The wildcard with a text, unless the expression is too large. -/
def ofText? (text : String) : Option Wildcard :=
  match parsed : Regex.parse? (source text) with
  | some compiled => some ⟨text, compiled, parsed⟩
  | none => none

/-- Whether a domain is among those a wildcard stands for. -/
def isMatch (wildcard : Wildcard) (domain : String) : Bool :=
  wildcard.compiled.isMatch domain

end Wildcard
end Acl
end TunnelProxy
