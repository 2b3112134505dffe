import Mathlib.Algebra.GroupWithZero.Nat
import TunnelProxy.Regex.Parser

/-!
# Reading notation step by step

What the reader of expressions does with one part of a notation: a flag, a test, an escaped or
a plain character.  Outside of notation with blanks and comments every step reads a first part and
goes on behind it.
-/

namespace TunnelProxy
namespace Regex

open Text (CharSet)

/-! ## Characters -/

/-- A backslash lets every character with a meaning of its own stand for itself. -/
theorem escape?_of_isMeta (flags : Flags) {char : Char} (special : isMeta char = true)
    (rest : List Char) : escape? flags (char :: rest) = some (.literal char, rest) := by
  rw [escape?.eq_def]
  dsimp only
  split
  all_goals first
    | exact absurd special (by decide)
    | exact if_pos (by rw [isEscapable, special]; rfl)

theorem escaped_cons (char : Char) (rest : List Char) :
    escaped (char :: rest) = (if isMeta char then ['\\', char] else [char]) ++ escaped rest :=
  List.flatMap_cons

/-! ## Pieces -/

/-- Several pieces are one expression after another. -/
theorem Piece.concat_of_several {pieces : List Piece} (several : 1 < pieces.length) :
    Piece.concat pieces =
      ⟨Regex.concat (pieces.reverse.map Piece.regex), (pieces.map Piece.depth).foldl max 0 + 1,
        false⟩ := by
  rw [Piece.concat.eq_def]
  split
  · cases several
  · exact absurd several (by simp)
  · rfl

theorem foldl_max_le {bound start : Nat} {values : List Nat} (first : start ≤ bound)
    (small : ∀ value ∈ values, value ≤ bound) : values.foldl max start ≤ bound := by
  induction values generalizing start with
  | nil => exact first
  | cons value values ih =>
      rw [List.forall_mem_cons] at small
      exact ih (Nat.max_le.mpr ⟨first, small.1⟩) small.2

/-! ## Sizes -/

theorem size_oneOf_le (members : CharSet) : (oneOf members).size ≤ 24 + 20 * members.ranges.length := by
  rw [size]
  split
  · exact Nat.le_add_right ..
  · exact Nat.le_refl _

theorem size_concat (parts : List Regex) : (concat parts).size = (parts.map size).sum + 24 := by
  induction parts with
  | nil => rfl
  | cons part rest ih =>
      rw [List.map_cons, List.sum_cons, Nat.add_assoc, ← ih]
      rfl

/-! ## Steps -/

namespace ParseState

/-- The reader goes on behind what one step has read. -/
theorem finish?_of_step? {state next : ParseState} (plain : state.flags.verbose = false)
    {input rest : List Char} (step : state.step? input = some (next, rest)) (fuel : Nat) :
    state.finish? (fuel + 1) input = next.finish? fuel rest := by
  rw [finish?, Flags.skip, plain]
  cases input with
  | nil => cases step
  | cons char input =>
      change (state.step? (char :: input) >>= fun read => read.1.finish? fuel read.2) = _
      rw [step]
      rfl

theorem finish?_nil {state : ParseState} (plain : state.flags.verbose = false)
    (closed : state.outer = []) (fuel : Nat) : state.finish? (fuel + 1) [] = some state.value := by
  rw [finish?, Flags.skip, plain, closed]
  rfl

/-- The expression for a character under the flags of a state. -/
theorem atom?_literal {state : ParseState} (unicode : state.flags.unicode = true) (char : Char) :
    state.atom? (.literal char) =
      some (state.pushSimple (.oneOf (state.flags.fold (CharSet.singleton char)))) := by
  rw [atom?, Flags.admit?, unicode]
  rfl

theorem step?_escaped {state : ParseState} (unicode : state.flags.unicode = true) {char : Char}
    (special : isMeta char = true) (rest : List Char) :
    state.step? ('\\' :: char :: rest) =
      some (state.pushSimple (.oneOf (state.flags.fold (CharSet.singleton char))), rest) := by
  rw [step?, escape?_of_isMeta _ special]
  simp only [Option.bind_eq_bind, Option.bind_some, atom?_literal unicode]
  rfl

theorem step?_literal {state : ParseState} (unicode : state.flags.unicode = true) {char : Char}
    (plain : isMeta char = false) (rest : List Char) :
    state.step? (char :: rest) =
      some (state.pushSimple (.oneOf (state.flags.fold (CharSet.singleton char))), rest) := by
  have ordinary : state.step? (char :: rest) = (state.atom? (.literal char)).map (·, rest) := by
    rw [step?.eq_def]
    split
    -- All characters which the reader looks for have a meaning of their own.
    all_goals
      rename_i same
      cases same
    all_goals first
      | exact absurd plain (by decide)
      | rfl
  rw [ordinary, atom?_literal unicode]
  rfl

end ParseState
end Regex
end TunnelProxy
