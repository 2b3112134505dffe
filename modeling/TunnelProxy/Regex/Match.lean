import TunnelProxy.Regex.Basic

/-!
# Matching

An expression moves a set of positions of a text forward: to every position which can be reached
from one of them by a piece of the text that matches.  The sets are kept as one mark for each
position, from the start of the text to its end, so a search looks at every position once and never
goes back.
-/

namespace TunnelProxy
namespace Regex

open Text (CharSet)

/-- A position of a text by the characters around it. -/
structure Place where
  /-- The character before the position. -/
  before : Option Char
  /-- The character after the position. -/
  after : Option Char
  deriving DecidableEq, Inhabited

/-- The positions of a text after a character. -/
def placesAfter (before : Option Char) : List Char → List Place
  | [] => [⟨before, none⟩]
  | char :: rest => ⟨before, some char⟩ :: placesAfter (some char) rest

/-- The positions of a text, from its start to its end. -/
def places (text : List Char) : List Place := placesAfter none text

/-- Move marks over one character of a set. -/
def stepOver (members : CharSet) (places : List Place) (marks : List Bool) : List Bool :=
  false :: (List.zipWith (fun place mark => mark && Look.isIn members place.after) places marks).dropLast

/-- Keep the marks of positions which pass a test. -/
def keep (test : Look) (places : List Place) (marks : List Bool) : List Bool :=
  List.zipWith (fun place mark => mark && test.holds place.before place.after) places marks

/-- The positions marked in either list. -/
def both (first second : List Bool) : List Bool :=
  List.zipWith (· || ·) first second

/-- Move marks any number of times, at most `fuel`, and mark every position on the way. -/
def closure (move : List Bool → List Bool) : Nat → List Bool → List Bool
  | 0, marks => marks
  | fuel + 1, marks =>
      let more := both marks (move marks)
      if more = marks then marks else closure move fuel more

/-- Move marks exactly `count` times. -/
def iterate (move : List Bool → List Bool) : Nat → List Bool → List Bool
  | 0, marks => marks
  | count + 1, marks => if marks.any id then iterate move count (move marks) else marks

/-- The positions which an expression reaches from the marked ones.  A position which can be reached
by repetitions at all is reached by at most as many as there are positions. -/
def reach (places : List Place) : Regex → List Bool → List Bool
  | empty, marks => marks
  | oneOf members, marks => if marks.any id then stepOver members places marks else marks
  | look test, marks => keep test places marks
  | seq first second, marks => reach places second (reach places first marks)
  | alt first second, marks => both (reach places first marks) (reach places second marks)
  | run body least extra, marks =>
      closure (reach places body) (extra.getD places.length) (iterate (reach places body) least marks)

/-- Whether an expression matches some piece of a text. -/
def isMatch (regex : Regex) (text : String) : Bool :=
  let places := places text.toList
  (reach places regex (places.map fun _ => true)).any id

end Regex
end TunnelProxy
