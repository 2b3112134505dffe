import Mathlib.Data.List.Forall2
import TunnelProxy.Acl.Rules
import TunnelProxy.Proofs.Acl.WildcardNotation
import TunnelProxy.Proofs.Regex.Match
import TunnelProxy.Proofs.Text.CharSet

/-!
# Domains of wildcards

A wildcard matches exactly the domains which can be cut into one word for each of its characters, in
order: a star stands for a label or a part of one, and every other character for itself, up to case.
-/

namespace TunnelProxy
namespace Acl
namespace Wildcard

open Regex (Matches Spans spans_nil_iff spans_append_iff spans_whole_iff
  matches_textStart_iff matches_textEnd_iff isMeta)
open Text (CharRange CharSet)
open Text.Fold (Alike)

/-! ## Words -/

/-- The characters of labels: ASCII letters, digits and the dash. -/
def isLabelChar (char : Char) : Bool := char.isAlphanum || char = '-'

/-- The words for which a character of a wildcard stands. -/
inductive Stands : Char → List Char → Prop
  /-- A star stands for up to 63 characters of labels, and at least for one. -/
  | star {word : List Char} (nonempty : 1 ≤ word.length) (short : word.length ≤ 63)
      (label : ∀ char ∈ word, ∃ other, isLabelChar other = true ∧ Alike char.toNat other.toNat) :
      Stands '*' word
  /-- Any other character stands for itself. -/
  | self {char other : Char} (plain : char ≠ '*') (alike : Alike other.toNat char.toNat) :
      Stands char [other]

/-- No star stands for a word with a dot. -/
theorem dot_not_mem_of_stands {word : List Char} (stands : Stands '*' word) : '.' ∉ word := by
  intro member
  cases stands with
  | star _ _ label =>
      obtain ⟨other, isLabel, alike⟩ := label '.' member
      obtain rfl := Char.toNat_inj.mp (alike.eq_of_ascii (by decide) rfl)
      exact absurd isLabel (by decide)
  | self plain => exact plain rfl

theorem ascii_of_isMeta {char : Char} (special : isMeta char = true) :
    char.toNat < 0x80 ∧ char.isAlpha = false := by
  have each : ("\\.+*?()|[]\x7b\x7d^$#&-~".toList.all fun other =>
      other.toNat < 0x80 && !other.isAlpha) = true := by decide
  simpa using List.all_eq_true.mp each char (List.contains_iff_mem.mp special)

/-- A special character other than the star stands for nothing but itself. -/
theorem stands_special_iff {char : Char} (special : isMeta char = true) (plain : char ≠ '*')
    (word : List Char) : Stands char word ↔ word = [char] := by
  obtain ⟨ascii, letter⟩ := ascii_of_isMeta special
  constructor
  · intro stands
    cases stands with
    | star => exact absurd rfl plain
    | self _ alike => rw [Char.toNat_inj.mp (alike.symm.eq_of_ascii ascii letter)]
  · rintro rfl
    exact .self plain (.inl rfl)

/-! ## Pieces -/

/-- The code points of the characters of labels. -/
def labelRanges : List CharRange := [⟨45, 45⟩, ⟨48, 57⟩, ⟨97, 122⟩, ⟨65, 90⟩]

theorem holds_labelRanges_iff (code : Nat) :
    CharSet.holds labelRanges code = true ↔
      ∃ other : Char, isLabelChar other = true ∧ other.toNat = code := by
  have each : ∀ code < 128, CharSet.holds labelRanges code = true →
      isLabelChar (Char.ofNat code) = true ∧ (Char.ofNat code).toNat = code := by decide
  constructor
  · intro held
    refine ⟨Char.ofNat code, each code ?_ held⟩
    simp only [CharSet.holds_iff, labelRanges, List.mem_cons, List.not_mem_nil, or_false,
      exists_eq_or_imp, exists_eq_left] at held
    omega
  · rintro ⟨other, isLabel, rfl⟩
    simp only [CharSet.holds_iff, labelRanges, List.mem_cons, List.not_mem_nil, or_false,
      exists_eq_or_imp, exists_eq_left]
    have letter : other.isAlpha = (decide (65 ≤ other.val ∧ other.val ≤ 90) ||
        decide (97 ≤ other.val) && decide (other.val ≤ 122)) := rfl
    simp only [isLabelChar, Char.isAlphanum, letter, Char.isDigit, Bool.or_eq_true,
      Bool.and_eq_true, decide_eq_true_eq, UInt32.le_iff_toNat_le, ge_iff_le, Char.ext_iff,
      ← UInt32.toNat_inj] at isLabel
    simp only [↓Char.isValue, Char.reduceVal, UInt32.reduceToNat, Char.toNat_val] at isLabel
    omega

theorem contains_labelSet_iff (char : Char) :
    labelSet.contains char = true ↔
      ∃ other, isLabelChar other = true ∧ Alike char.toNat other.toNat := by
  have same : ∀ code, CharSet.holds (CharSet.unions [CharSet.singleton '-', CharSet.interval '0' '9',
      CharSet.interval 'a' 'z', CharSet.interval 'A' 'Z']).ranges code =
        CharSet.holds labelRanges code := CharSet.holds_ofRanges _
  simp only [labelSet, Text.Fold.contains_close_iff, same, holds_labelRanges_iff]
  constructor
  · rintro ⟨_, ⟨other, isLabel, rfl⟩, alike⟩
    exact ⟨other, isLabel, alike⟩
  · rintro ⟨other, isLabel, alike⟩
    exact ⟨_, ⟨other, isLabel, rfl⟩, alike⟩

theorem contains_close_singleton_iff (char other : Char) :
    (Text.Fold.close (CharSet.singleton char)).contains other = true ↔
      Alike other.toNat char.toNat := by
  simp only [Text.Fold.contains_close_iff, CharSet.singleton, CharSet.holds_iff, List.mem_singleton,
    exists_eq_left]
  constructor
  · rintro ⟨code, ⟨low, high⟩, alike⟩
    rwa [Nat.le_antisymm low high]
  · exact fun alike => ⟨_, ⟨Nat.le_refl _, Nat.le_refl _⟩, alike⟩

variable {text : List Char} {first last : Nat}

/-- What a character of a wildcard is read as matches the words for which it stands. -/
theorem matches_piece_iff (char : Char) :
    Matches text (piece char).regex first last ↔
      ∃ word, Stands char word ∧ Spans text word first last := by
  rw [piece]
  split
  · subst char
    rw [Regex.matches_run_oneOf_iff]
    simp only [contains_labelSet_iff]
    constructor
    · rintro ⟨word, many, few, label, spans⟩
      exact ⟨word, .star many (few 62 rfl) label, spans⟩
    · rintro ⟨word, stands, spans⟩
      cases stands with
      | star many few label =>
          exact ⟨word, many, fun more given => by cases given; exact few, label, spans⟩
      | self plain => exact absurd rfl plain
  · rename_i plain
    simp only [Regex.matches_oneOf_iff, contains_close_singleton_iff]
    constructor
    · rintro ⟨other, alike, spans⟩
      exact ⟨[other], .self plain alike, spans⟩
    · rintro ⟨word, stands, spans⟩
      cases stands with
      | star => exact absurd rfl plain
      | self _ alike => exact ⟨_, alike, spans⟩

/-- What the characters of a wildcard are read as, and then the end, match the words for which the
characters stand one after another, up to the end. -/
theorem matches_pieces_iff (chars : List Char) :
    Matches text (Regex.concat (chars.map (fun char => (piece char).regex) ++ [.look .textEnd]))
        first last ↔
      ∃ words, List.Forall₂ Stands chars words ∧ Spans text words.flatten first last ∧
        text.length ≤ last := by
  -- The characters are matched one by one, each from where the word before it ends.
  induction chars generalizing first with
  | nil =>
      constructor
      · rintro ⟨middle, ending, rfl⟩
        obtain ⟨rfl, beyond⟩ := matches_textEnd_iff.mp ending
        exact ⟨[], .nil, spans_nil_iff.mpr rfl, beyond⟩
      · rintro ⟨words, stand, spans, beyond⟩
        cases stand with
        | nil =>
            obtain rfl := spans_nil_iff.mp spans
            exact ⟨last, matches_textEnd_iff.mpr ⟨rfl, beyond⟩, rfl⟩
  | cons char rest ih =>
      constructor
      · rintro ⟨middle, front, back⟩
        obtain ⟨word, stands, spans⟩ := (matches_piece_iff char).mp front
        obtain ⟨words, stand, spans', beyond⟩ := ih.mp back
        exact ⟨word :: words, .cons stands stand, spans_append_iff.mpr ⟨middle, spans, spans'⟩, beyond⟩
      · rintro ⟨words, stand, spans, beyond⟩
        cases stand with
        | @cons _ word _ words stands stand =>
            obtain ⟨middle, front, back⟩ := spans_append_iff.mp spans
            exact ⟨middle, (matches_piece_iff char).mpr ⟨word, stands, front⟩,
              ih.mpr ⟨words, stand, back, beyond⟩⟩

/-! ## Domains -/

/-- A domain can be cut into one word for each character of a wildcard. -/
def CutInto (chars domain : List Char) : Prop :=
  ∃ words, List.Forall₂ Stands chars words ∧ domain = words.flatten

/-- A domain is not shorter than a wildcard which matches it. -/
theorem length_le_of_cutInto {chars domain : List Char} (cut : CutInto chars domain) :
    chars.length ≤ domain.length := by
  obtain ⟨words, stand, rfl⟩ := cut
  induction stand with
  | nil => exact Nat.le_refl 0
  | cons stands _ ih =>
      rw [List.flatten_cons, List.length_append, List.length_cons]
      cases stands with
      | star nonempty => omega
      | self =>
          rw [List.length_singleton]
          omega

theorem isMatch_expression_iff (text domain : String) :
    (expression text).isMatch domain = true ↔ CutInto text.toList domain.toList := by
  rw [Regex.isMatch_iff]
  -- Any part of the domain may match, but both ends of it are those of the domain.
  constructor
  · rintro ⟨first, last, inside, _, rfl, _, starting, pieces⟩
    obtain ⟨rfl, rfl⟩ := (matches_textStart_iff inside).mp starting
    obtain ⟨words, stand, spans, beyond⟩ := (matches_pieces_iff _).mp pieces
    exact ⟨words, stand, spans_whole_iff.mp ⟨last, spans, beyond⟩⟩
  · rintro ⟨words, stand, whole⟩
    obtain ⟨last, spans, beyond⟩ := spans_whole_iff.mpr whole
    have starting : Matches domain.toList (.look .textStart) 0 0 :=
      (matches_textStart_iff (Nat.zero_le _)).mpr ⟨rfl, rfl⟩
    exact ⟨0, last, Nat.zero_le _, 0, rfl, 0, starting,
      (matches_pieces_iff _).mpr ⟨words, stand, spans, beyond⟩⟩

/-- The expression of a wildcard is the one for its text. -/
theorem compiled_of_ofText? {text : String} {wildcard : Wildcard}
    (made : ofText? text = some wildcard) : wildcard.compiled = expression text := by
  rw [ofText?] at made
  split at made
  · rename_i compiled parsed
    cases made
    rw [parse?_source] at parsed
    split at parsed
    · exact (Option.some.inj parsed).symm
    · cases parsed
  · cases made

/-! ## Acceptance -/

/-- A bound on the size of a class. -/
def classBound : Nat := 24 + 20 * (4 + Text.Fold.groupedBound)

/-- A bound on the size of a star, which is a repeated class. -/
def starBound : Nat := 63 * classBound + 24

theorem size_close_le {set : CharSet} (few : set.ranges.length ≤ 4) :
    (Regex.oneOf (Text.Fold.close set)).size ≤ classBound := by
  have bound : (Text.Fold.close set).ranges.length ≤ 4 + Text.Fold.groupedBound :=
    Nat.le_trans (Text.Fold.length_close_le set) (Nat.add_le_add_right few _)
  have sized := Regex.size_oneOf_le (Text.Fold.close set)
  rw [classBound]
  omega

theorem size_piece_le (char : Char) :
    (piece char).regex.size ≤ classBound + if char = '*' then starBound else 0 := by
  rw [piece]
  split
  · have sized : (Regex.oneOf labelSet).size ≤ classBound :=
      size_close_le (CharSet.length_ofRanges_le _)
    change (Regex.oneOf labelSet).size * (1 + 62) + 24 ≤ _
    rw [starBound]
    omega
  · exact size_close_le (Nat.le_add_left 1 3)

theorem sum_size_pieces_le (chars : List Char) :
    (chars.map fun char => (piece char).regex.size).sum ≤
      chars.length * classBound + chars.count '*' * starBound := by
  induction chars with
  | nil => exact Nat.zero_le _
  | cons char rest ih =>
      have here := size_piece_le char
      rw [List.map_cons, List.sum_cons, List.length_cons, List.count_cons, Nat.add_one_mul]
      by_cases star : char = '*'
      · rw [if_pos star] at here
        rw [if_pos (beq_iff_eq.mpr star), Nat.add_one_mul]
        omega
      · rw [if_neg star] at here
        rw [if_neg (mt beq_iff_eq.mp star), Nat.add_zero]
        omega

/-- A short wildcard with one star is accepted, whatever its other characters are. -/
theorem isSome_ofText?_of_short {text : String} (short : text.toList.length ≤ 30)
    (stars : text.toList.count '*' ≤ 1) : (ofText? text).isSome := by
  have pieces := sum_size_pieces_le text.toList
  have length := Nat.mul_le_mul_right classBound short
  have count := Nat.mul_le_mul_right starBound stars
  have size : (expression text).size =
      24 + (24 + ((text.toList.map fun char => (piece char).regex.size).sum + 24)) + 24 := by
    simp [expression, Regex.size_concat, Function.comp_def, Regex.size]
  have room : 24 + (24 + (30 * classBound + 1 * starBound + 24)) + 24 ≤ Regex.maximumSize := by decide
  have fits : (expression text).size ≤ Regex.maximumSize := by omega
  have parsed : Regex.parse? (source text) = some (expression text) := by
    rw [parse?_source, if_pos fits]
  rw [ofText?]
  split
  · rfl
  · rename_i failed
    cases failed.symm.trans parsed

/-! ## Matching -/

/-- What a wildcard with a text matches. -/
structure Matching (text : String) (wildcard : Wildcard) : Prop where
  /-- Exactly the domains match which can be cut into the words of the characters; nothing is left
  before, between or behind the words, and an IP address never matches. -/
  domains : ∀ domain ip, (HostPattern.wildcard wildcard).isMatch domain ip = true ↔
    ∃ name, domain = some name ∧ CutInto text.toList name.toList
  /-- No star stands for a word with a dot. -/
  dotless : ∀ word, Stands '*' word → '.' ∉ word
  /-- Characters which are special in expressions stand for nothing but themselves. -/
  special : ∀ char, isMeta char = true → char ≠ '*' → ∀ word, Stands char word ↔ word = [char]

/-- A wildcard matches what its characters stand for, one after another. -/
theorem matching_of_accepted {text : String} {wildcard : Wildcard}
    (made : ofText? text = some wildcard) : Matching text wildcard where
  domains domain ip := by
    rw [HostPattern.isMatch, Option.any_eq_true]
    simp only [isMatch, compiled_of_ofText? made, isMatch_expression_iff]
  dotless _ := dot_not_mem_of_stands
  special _ := stands_special_iff

/-- A star has to stand for something, which may be letters, digits and dashes. -/
theorem matching_with_star :
    ∃ wildcard, ofText? "a*.b" = some wildcard ∧ Matching "a*.b" wildcard ∧
      (HostPattern.wildcard wildcard).isMatch (some "a-Z.b") none = true ∧
        (HostPattern.wildcard wildcard).isMatch (some "a.b") none = false := by
  have accepted : (ofText? "a*.b").isSome := isSome_ofText?_of_short (by decide) (by decide)
  obtain ⟨wildcard, made⟩ := Option.isSome_iff_exists.mp accepted
  have matching := matching_of_accepted made
  refine ⟨wildcard, made, matching, ?_, ?_⟩
  · rw [matching.domains]
    refine ⟨"a-Z.b", rfl, [['a'], ['-', 'Z'], ['.'], ['b']], ?_, rfl⟩
    have label : ∀ char ∈ ['-', 'Z'], ∃ other, isLabelChar other = true ∧
        Alike char.toNat other.toNat := by
      intro char member
      have isLabel : isLabelChar char = true := by
        rcases List.mem_pair.mp member with rfl | rfl <;> rfl
      exact ⟨char, isLabel, .inl rfl⟩
    exact .cons (.self (by decide) (.inl rfl)) (.cons (.star (by decide) (by decide) label)
      (.cons (.self (by decide) (.inl rfl)) (.cons (.self (by decide) (.inl rfl)) .nil)))
  · rw [Bool.eq_false_iff, ne_eq, matching.domains]
    rintro ⟨name, same, cut⟩
    cases same
    exact absurd (length_le_of_cutInto cut) (by decide)

end Wildcard
end Acl
end TunnelProxy
