import TunnelProxy.Text.Numeral

/-!
# Sets of characters

A set of characters is a list of ranges of code points.  Sets made by the functions here have
their ranges in ascending order and apart from each other.
-/

namespace TunnelProxy
namespace Text

/-- A range of code points with both its ends. -/
structure CharRange where
  /-- The least code point. -/
  low : Nat
  /-- The greatest code point. -/
  high : Nat
  deriving DecidableEq, Inhabited

/-- A set of characters. -/
structure CharSet where
  /-- The ranges whose members are in the set. -/
  ranges : List CharRange
  deriving DecidableEq, Inhabited

namespace CharSet

/-- The greatest code point. -/
def maximum : Nat := 0x10FFFF

/-- Whether a code point is in one of the ranges. -/
def holds (ranges : List CharRange) (code : Nat) : Bool :=
  ranges.any fun range => range.low ≤ code && code ≤ range.high

/-- Whether a character is in a set. -/
def contains (set : CharSet) (char : Char) : Bool :=
  holds set.ranges char.toNat

/-- The set without members. -/
def empty : CharSet := ⟨[]⟩

/-- The set of all characters. -/
def all : CharSet := ⟨[⟨0, maximum⟩]⟩

/-- Put a range before ascending ranges, joining those which touch it. -/
def joinFront (range : CharRange) : List CharRange → List CharRange
  | [] => [range]
  | next :: rest =>
      if next.low ≤ range.high + 1 then
        joinFront ⟨min range.low next.low, max range.high next.high⟩ rest
      else range :: next :: rest

/-- The members of any ranges as a set. -/
def ofRanges (ranges : List CharRange) : CharSet :=
  ⟨(ranges.mergeSort fun first second => first.low ≤ second.low).foldr joinFront []⟩

/-- The set of one character. -/
def singleton (char : Char) : CharSet := ⟨[⟨char.toNat, char.toNat⟩]⟩

/-- The characters from `low` to `high`. -/
def interval (low high : Char) : CharSet := ⟨[⟨low.toNat, high.toNat⟩]⟩

/-- The members of either set. -/
def union (first second : CharSet) : CharSet :=
  ofRanges (first.ranges ++ second.ranges)

/-- The ranges between ascending ranges, from a code point on. -/
def gaps (start : Nat) : List CharRange → List CharRange
  | [] => if start ≤ maximum then [⟨start, maximum⟩] else []
  | range :: rest =>
      if start < range.low then ⟨start, range.low - 1⟩ :: gaps (range.high + 1) rest
      else gaps (range.high + 1) rest

/-- The characters which are not in a set. -/
def complement (set : CharSet) : CharSet := ⟨gaps 0 set.ranges⟩

/-- The members of both sets. -/
def inter (first second : CharSet) : CharSet :=
  (first.complement.union second.complement).complement

/-- The members of the first set which are not in the second. -/
def difference (first second : CharSet) : CharSet :=
  first.inter second.complement

/-- The members of exactly one of two sets. -/
def symmetricDifference (first second : CharSet) : CharSet :=
  (first.difference second).union (second.difference first)

/-- The members of any of several sets. -/
def unions (sets : List CharSet) : CharSet :=
  ofRanges (sets.flatMap ranges)

/-- Cut a line of a table into its words. -/
def words (separator : Char) (line : List Char) : List (List Char) :=
  let step (char : Char) (state : List Char × List (List Char)) : List Char × List (List Char) :=
    if char = separator then ([], state.1 :: state.2) else (char :: state.1, state.2)
  let (first, rest) := line.foldr step ([], [])
  first :: rest

/-- A code point in hexadecimal digits. -/
def codePoint (digits : List Char) : Nat :=
  (Numeral.digits? 16 maximum digits).getD 0

/-- A range in hexadecimal digits: one code point, or two joined by a dash. -/
def rangeOfWord (word : List Char) : CharRange :=
  let low := word.takeWhile (· ≠ '-')
  let high := (word.dropWhile (· ≠ '-')).drop 1
  ⟨codePoint low, codePoint (if high.isEmpty then low else high)⟩

/-- A set from the lines of a table: ranges in ascending order, separated by blanks. -/
def ofTable (lines : List String) : CharSet :=
  ⟨lines.flatMap fun line => (words ' ' line.toList).map rangeOfWord⟩

end CharSet
end Text
end TunnelProxy
