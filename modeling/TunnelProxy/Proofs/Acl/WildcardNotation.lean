import TunnelProxy.Acl.Wildcard
import TunnelProxy.Proofs.Regex.Notation

/-!
# The expression for a wildcard

The notation for a wildcard is that of its characters, one after another, between the ends of a text:
no star arises from escaping another character, and none is lost.  It is read as one piece for each
character, so the only reason why there may be no expression is its size.
-/

namespace TunnelProxy
namespace Acl
namespace Wildcard

open Regex (Flags ParseState isMeta escaped escaped_cons)
open Text (CharSet)

/-! ## Notation -/

/-- The notation for a character of a wildcard. -/
def notationOf (char : Char) : List Char :=
  if char = '*' then labelNotation.toList else if isMeta char then ['\\', char] else [char]

theorem not_star_isPrefixOf_escaped (chars : List Char) : ['*'].isPrefixOf (escaped chars) = false := by
  cases chars with
  | nil => rfl
  | cons char rest =>
      rw [escaped_cons]
      split
      · rfl
      · rename_i plain
        have other : ('*' == char) = false := by
          rw [beq_eq_false_iff_ne]
          rintro rfl
          exact plain rfl
        simp [List.isPrefixOf, other]

/-- Only the stars of a wildcard are replaced. -/
theorem replace_escaped (chars : List Char) :
    Text.replace "\\*".toList labelNotation.toList (escaped chars) = chars.flatMap notationOf := by
  have star : "\\*".toList = ['\\', '*'] := rfl
  rw [Text.replace, star]
  induction chars with
  | nil => rfl
  | cons char rest ih =>
      rw [escaped_cons, List.flatMap_cons, ← ih, notationOf]
      by_cases isStar : char = '*'
      · subst isStar
        rfl
      · have differ : ('*' == char) = false := beq_eq_false_iff_ne.mpr (Ne.symm isStar)
        have unmatched : ['\\', '*'].isPrefixOf (char :: escaped rest) = false := by
          simp [List.isPrefixOf, not_star_isPrefixOf_escaped]
        rw [if_neg isStar]
        split
        · have unescaped : ['\\', '*'].isPrefixOf ('\\' :: char :: escaped rest) = false := by
            simp [List.isPrefixOf, differ]
          simp [Text.replaceAfter, unmatched, unescaped]
        · simp [Text.replaceAfter, unmatched]

theorem source_toList (text : String) :
    (source text).toList =
      "(?i)\\A".toList ++ (text.toList.flatMap notationOf ++ "\\z".toList) := by
  rw [source, replace_escaped, String.toList_append, String.toList_append, List.append_assoc,
    String.toList_ofList (l := text.toList.flatMap notationOf)]

/-! ## Reading -/

/-- The flags under which a wildcard is read: case does not matter. -/
def caseless : Flags := { ignoreCase := true }

/-- The characters of labels in either case. -/
def labelSet : CharSet :=
  Text.Fold.close (CharSet.unions
    [CharSet.singleton '-', CharSet.interval '0' '9', CharSet.interval 'a' 'z',
      CharSet.interval 'A' 'Z'])

/-- What a character of a wildcard is read as. -/
def piece (char : Char) : Regex.Piece :=
  if char = '*' then ⟨.run (.oneOf labelSet) 1 (some 62), 3, false⟩
  else ⟨.oneOf (Text.Fold.close (CharSet.singleton char)), 0, false⟩

/-- In how many steps a character of a wildcard is read. -/
def steps (char : Char) : Nat := if char = '*' then 2 else 1

theorem steps_le (char : Char) : steps char ≤ (notationOf char).length := by
  rw [steps, notationOf]
  split
  · decide
  · split <;> simp

variable {state : ParseState}

theorem finish?_label (flags : state.flags = caseless) {rest : List Char}
    (greedy : rest.head? ≠ some '?') (fuel : Nat) :
    state.finish? (fuel + 2) (labelNotation.toList ++ rest) =
      (state.push (piece '*')).finish? fuel rest := by
  have plain : state.flags.verbose = false := by rw [flags]; rfl
  let class_ : Regex.Piece := ⟨.oneOf labelSet, 2, false⟩
  have first : state.step? (labelNotation.toList ++ rest) =
      some (state.push class_, "\x7b1,63\x7d".toList ++ rest) := by
    have read : Regex.charClass? state.flags ("A-Za-z0-9-]\x7b1,63\x7d".toList ++ rest) =
        some (⟨labelSet, 2⟩, "\x7b1,63\x7d".toList ++ rest) := by
      rw [flags]
      rfl
    change (Regex.charClass? state.flags ("A-Za-z0-9-]\x7b1,63\x7d".toList ++ rest) >>= _) = _
    rw [read]
    rfl
  have kept : Regex.dropLazy rest = rest := by
    rw [Regex.dropLazy.eq_def]
    split
    · exact absurd rfl greedy
    · rfl
  have plain' : (state.push class_).flags.verbose = false := plain
  have second : (state.push class_).step? ("\x7b1,63\x7d".toList ++ rest) =
      some (state.push (piece '*'), rest) := by
    have read : Regex.bounds? state.flags ("1,63\x7d".toList ++ rest) = some (1, some 62, rest) := by
      rw [flags]
      rfl
    change (Regex.bounds? state.flags ("1,63\x7d".toList ++ rest) >>= _) = _
    rw [read]
    change some (state.push (piece '*'), Regex.dropLazy (state.flags.skip rest)) = _
    rw [Flags.skip, plain]
    exact congrArg (fun rest => some (state.push (piece '*'), rest)) kept
  rw [ParseState.finish?_of_step? plain first, ParseState.finish?_of_step? plain' second]

/-- A character of a wildcard is read as its piece. -/
theorem finish?_notationOf (flags : state.flags = caseless) (char : Char) {rest : List Char}
    (greedy : rest.head? ≠ some '?') (fuel : Nat) :
    state.finish? (fuel + steps char) (notationOf char ++ rest) =
      (state.push (piece char)).finish? fuel rest := by
  have plain : state.flags.verbose = false := by rw [flags]; rfl
  have unicode : state.flags.unicode = true := by rw [flags]; rfl
  have folded : state.flags.fold (CharSet.singleton char) =
      Text.Fold.close (CharSet.singleton char) := by rw [flags]; rfl
  by_cases isStar : char = '*'
  · subst isStar
    exact finish?_label flags greedy fuel
  · have single : state.pushSimple (.oneOf (state.flags.fold (CharSet.singleton char))) =
        state.push (piece char) := by
      rw [folded, piece, if_neg isStar]
      rfl
    rw [steps, notationOf, if_neg isStar, if_neg isStar, ← single]
    split
    · rename_i special
      exact ParseState.finish?_of_step? plain (ParseState.step?_escaped unicode special rest) fuel
    · rename_i ordinary
      exact ParseState.finish?_of_step? plain
        (ParseState.step?_literal unicode ((Bool.not_eq_true _).mp ordinary) rest) fuel

theorem head?_notation_ne (chars : List Char) :
    (chars.flatMap notationOf ++ "\\z".toList).head? ≠ some '?' := by
  cases chars with
  | nil => decide
  | cons char rest =>
      rw [List.flatMap_cons, notationOf]
      split
      · change some '[' ≠ some '?'
        decide
      · split
        · simp
        · rename_i ordinary
          intro same
          obtain rfl : char = '?' := by simpa using same
          exact ordinary rfl

/-- The characters of a wildcard are read as their pieces, and then the end is. -/
theorem finish?_chars (flags : state.flags = caseless) (outer : state.outer = [])
    (chars : List Char) (fuel : Nat) :
    state.finish? (fuel + 2 + (chars.map steps).sum) (chars.flatMap notationOf ++ "\\z".toList) =
      some { state with
        pieces := ⟨.look .textEnd, 0, false⟩ :: ((chars.map piece).reverse ++ state.pieces) }.value := by
  induction chars generalizing state with
  | nil =>
      have plain : state.flags.verbose = false := by rw [flags]; rfl
      have step : state.step? "\\z".toList = some (state.pushSimple (.look .textEnd), []) := rfl
      have closed : (state.pushSimple (.look .textEnd)).outer = [] := outer
      have plain' : (state.pushSimple (.look .textEnd)).flags.verbose = false := plain
      exact (ParseState.finish?_of_step? plain step (fuel + 1)).trans
        (ParseState.finish?_nil plain' closed fuel)
  | cons char rest ih =>
      have flags' : (state.push (piece char)).flags = caseless := flags
      have outer' : (state.push (piece char)).outer = [] := outer
      rw [List.flatMap_cons, List.append_assoc, List.map_cons, List.sum_cons,
        Nat.add_comm (steps char), ← Nat.add_assoc,
        finish?_notationOf flags char (head?_notation_ne rest), ih flags' outer']
      simp [ParseState.push]

/-- The expression for a wildcard: its pieces between the ends of a text, behind the flag. -/
def expression (text : String) : Regex :=
  Regex.concat (.empty :: .look .textStart ::
    (text.toList.map (fun char => (piece char).regex) ++ [.look .textEnd]))

theorem sum_steps_le (chars : List Char) :
    (chars.map steps).sum ≤ (chars.flatMap notationOf).length := by
  induction chars with
  | nil => exact Nat.le_refl 0
  | cons char rest ih =>
      have here := steps_le char
      rw [List.map_cons, List.sum_cons, List.flatMap_cons, List.length_append]
      omega

theorem depth_piece_le (char : Char) : (piece char).depth ≤ 3 := by
  rw [piece]
  split
  · exact Nat.le_refl 3
  · exact Nat.zero_le 3

/-- The notation for a wildcard is read as one piece whose expression is that of the wildcard. -/
theorem finish?_source (text : String) :
    ∃ depth ≤ 4, ParseState.finish? {} ((source text).toList.length + 1) (source text).toList =
      some ⟨expression text, depth, false⟩ := by
  let inner := text.toList.flatMap notationOf ++ "\\z".toList
  let flagged : ParseState := { flags := caseless, pieces := [⟨.empty, 0, true⟩] }
  let opened : ParseState := flagged.pushSimple (.look .textStart)
  have first : ParseState.step? {} ("(?i)\\A".toList ++ inner) =
      some (flagged, "\\A".toList ++ inner) := rfl
  have second : flagged.step? ("\\A".toList ++ inner) = some (opened, inner) := rfl
  let pieces := ⟨.look .textEnd, 0, false⟩ :: ((text.toList.map piece).reverse ++ opened.pieces)
  obtain ⟨fuel, enough⟩ : ∃ fuel, (source text).toList.length + 1 =
      fuel + 2 + (text.toList.map steps).sum + 1 + 1 := by
    have few := sum_steps_le text.toList
    have length : (source text).toList.length = 6 + (text.toList.flatMap notationOf).length + 2 := by
      rw [source_toList, List.length_append, List.length_append, Nat.add_assoc]
      rfl
    exact ⟨(text.toList.flatMap notationOf).length - (text.toList.map steps).sum + 5, by omega⟩
  refine ⟨(pieces.map Regex.Piece.depth).foldl max 0 + 1, ?_, ?_⟩
  · refine Nat.succ_le_succ (Regex.foldl_max_le (Nat.zero_le 3) ?_)
    intro depth member
    obtain ⟨part, among, rfl⟩ := List.mem_map.mp member
    simp only [pieces, opened, flagged, ParseState.pushSimple, ParseState.push, List.mem_cons,
      List.mem_append, List.mem_reverse, List.mem_map, List.not_mem_nil, or_false] at among
    rcases among with rfl | ⟨char, -, rfl⟩ | rfl | rfl
    · exact Nat.zero_le 3
    · exact depth_piece_le char
    · exact Nat.zero_le 3
    · exact Nat.zero_le 3
  · have value : ({ opened with pieces } : ParseState).value = Regex.Piece.concat pieces := rfl
    have several : 1 < pieces.length := by simp [pieces, opened, flagged, ParseState.pushSimple,
      ParseState.push]
    rw [enough, source_toList, ParseState.finish?_of_step? rfl first,
      ParseState.finish?_of_step? rfl second, finish?_chars rfl rfl, value,
      Regex.Piece.concat_of_several several]
    simp [pieces, opened, flagged, ParseState.pushSimple, ParseState.push, expression,
      Function.comp_def]

/-- The notation for a wildcard stands for its expression, unless that is too large. -/
theorem parse?_source (text : String) :
    Regex.parse? (source text) =
      if (expression text).size ≤ Regex.maximumSize then some (expression text) else none := by
  obtain ⟨depth, shallow, read⟩ := finish?_source text
  have fits : depth ≤ Regex.maximumDepth := Nat.le_trans shallow (by decide)
  rw [Regex.parse?, Option.bind_eq_bind, read]
  simp [fits]

end Wildcard
end Acl
end TunnelProxy
