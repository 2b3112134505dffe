import TunnelProxy.Text.CharSet
import TunnelProxy.Text.Unicode.FoldTable

/-!
# Simple case folding

Characters which are the same up to simple case folding form groups: `k`, `K` and the kelvin sign,
for instance.  A set is closed under folding by adding the whole group of each member.
-/

namespace TunnelProxy
namespace Text
namespace Fold

/-- The groups in a line of the table, as code points. -/
def groupsOfLine (line : List Char) : List (List Nat) :=
  (CharSet.words ' ' line).map fun word => (CharSet.words ',' word).map CharSet.codePoint

/-- The groups of more than one character. -/
def groups : List (List Nat) := table.flatMap fun line => groupsOfLine line.toList

/-- Add to a set all characters which are the same as a member up to simple case folding. -/
def close (set : CharSet) : CharSet :=
  let touched := groups.filter fun group => group.any (CharSet.holds set.ranges)
  CharSet.ofRanges (set.ranges ++ touched.flatten.map fun code => ⟨code, code⟩)

end Fold
end Text
end TunnelProxy
