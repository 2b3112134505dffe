/-!
# Replacing parts of texts

Every occurrence of a text is replaced, from the start to the end; occurrences do not overlap.
-/

namespace TunnelProxy
namespace Text

/-- Replace the occurrences of a text which is not empty, after the first `skip` characters, which
are dropped. -/
def replaceAfter (old new : List Char) : Nat → List Char → List Char
  | _, [] => []
  | skip + 1, _ :: rest => replaceAfter old new skip rest
  | 0, char :: rest =>
      if old.isPrefixOf (char :: rest) then new ++ replaceAfter old new (old.length - 1) rest
      else char :: replaceAfter old new 0 rest

/-- Replace the occurrences of a text which is not empty. -/
def replace (old new chars : List Char) : List Char := replaceAfter old new 0 chars

end Text
end TunnelProxy
