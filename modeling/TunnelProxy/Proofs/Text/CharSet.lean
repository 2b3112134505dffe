import TunnelProxy.Text.Unicode.Fold

/-!
# Members of sets of characters

Ranges which are sorted and joined hold the same code points as before, and a set closed under case
folding holds exactly the characters which are the same as a member up to folding.  Among the ASCII
characters, only letters are the same as others.
-/

namespace TunnelProxy
namespace Text

namespace CharSet

theorem holds_iff (ranges : List CharRange) (code : Nat) :
    holds ranges code = true ↔ ∃ range ∈ ranges, range.low ≤ code ∧ code ≤ range.high := by
  simp [holds]

theorem holds_append (first second : List CharRange) (code : Nat) :
    holds (first ++ second) code = (holds first code || holds second code) :=
  List.any_append

/-- Joining a range with those which follow neither adds nor loses code points. -/
theorem holds_joinFront (range : CharRange) (ranges : List CharRange) (code : Nat)
    (ascending : ∀ next ∈ ranges, range.low ≤ next.low) :
    holds (joinFront range ranges) code = holds (range :: ranges) code := by
  induction ranges generalizing range with
  | nil => rfl
  | cons next rest ih =>
      have before := ascending next List.mem_cons_self
      rw [joinFront]
      split
      · rename_i touches
        have later : ∀ other ∈ rest, min range.low next.low ≤ other.low := by
          intro other member
          have least := ascending other (List.mem_cons_of_mem _ member)
          omega
        rw [ih _ later]
        simp only [holds, List.any_cons, ← Bool.or_assoc]
        congr 1
        rw [Bool.eq_iff_iff]
        simp only [Bool.and_eq_true, Bool.or_eq_true, decide_eq_true_eq]
        omega
      · rfl

/-- Joined ranges do not begin before the ranges they were made of. -/
theorem le_low_of_mem_joinFront {bound : Nat} {range out : CharRange} {ranges : List CharRange}
    (first : bound ≤ range.low) (later : ∀ next ∈ ranges, bound ≤ next.low)
    (member : out ∈ joinFront range ranges) : bound ≤ out.low := by
  induction ranges generalizing range with
  | nil =>
      obtain rfl := List.mem_singleton.mp member
      exact first
  | cons next rest ih =>
      rw [List.forall_mem_cons] at later
      rw [joinFront] at member
      split at member
      · exact ih (Nat.le_min.mpr ⟨first, later.1⟩) later.2 member
      · rcases List.mem_cons.mp member with rfl | behind
        · exact first
        · rcases List.mem_cons.mp behind with rfl | behind
          · exact later.1
          · exact later.2 out behind

theorem holds_foldr_joinFront {ranges : List CharRange}
    (sorted : ranges.Pairwise fun first second => first.low ≤ second.low) (code : Nat) :
    holds (ranges.foldr joinFront []) code = holds ranges code ∧
      ∀ bound, (∀ range ∈ ranges, bound ≤ range.low) →
        ∀ out ∈ ranges.foldr joinFront [], bound ≤ out.low := by
  induction sorted with
  | nil => exact ⟨rfl, fun _ _ _ member => absurd member List.not_mem_nil⟩
  | @cons range rest least sorted ih =>
      obtain ⟨same, bounded⟩ := ih
      refine ⟨?_, fun bound lows out member => ?_⟩
      · rw [List.foldr_cons, holds_joinFront _ _ _ (bounded _ least)]
        simpa [holds] using congrArg _ same
      · rw [List.forall_mem_cons] at lows
        exact le_low_of_mem_joinFront lows.1 (bounded bound lows.2) member

/-- A set made of ranges holds the code points of the ranges. -/
theorem holds_ofRanges (ranges : List CharRange) (code : Nat) :
    holds (ofRanges ranges).ranges code = holds ranges code := by
  have transitive : ∀ first second third : CharRange, decide (first.low ≤ second.low) = true →
      decide (second.low ≤ third.low) = true → decide (first.low ≤ third.low) = true := by
    intro first second third le le'
    exact decide_eq_true (Nat.le_trans (of_decide_eq_true le) (of_decide_eq_true le'))
  have total : ∀ first second : CharRange,
      (decide (first.low ≤ second.low) || decide (second.low ≤ first.low)) = true := by
    intro first second
    simpa using Nat.le_total first.low second.low
  have sorted := List.pairwise_mergeSort transitive total ranges
  have joined := holds_foldr_joinFront (sorted.imp of_decide_eq_true) code
  rw [ofRanges, joined.1, Bool.eq_iff_iff, holds_iff, holds_iff]
  simp [List.mem_mergeSort]

theorem length_joinFront_le (range : CharRange) (ranges : List CharRange) :
    (joinFront range ranges).length ≤ ranges.length + 1 := by
  induction ranges generalizing range with
  | nil => exact Nat.le_refl 1
  | cons next rest ih =>
      rw [joinFront]
      split
      · exact Nat.le_succ_of_le (ih _)
      · exact Nat.le_refl _

/-- A set has at most as many ranges as it was made of. -/
theorem length_ofRanges_le (ranges : List CharRange) :
    (ofRanges ranges).ranges.length ≤ ranges.length := by
  have fewer : ∀ parts : List CharRange, (parts.foldr joinFront []).length ≤ parts.length := by
    intro parts
    induction parts with
    | nil => exact Nat.le_refl 0
    | cons part rest ih => exact Nat.le_trans (length_joinFront_le ..) (Nat.succ_le_succ ih)
  have sorted := fewer (ranges.mergeSort fun first second => first.low ≤ second.low)
  rwa [List.length_mergeSort] at sorted

end CharSet

namespace Fold

/-- Two code points are the same up to simple case folding. -/
def Alike (first second : Nat) : Prop :=
  first = second ∨ ∃ group ∈ groups, first ∈ group ∧ second ∈ group

/-- A closed set holds what is the same as a member. -/
theorem contains_close_iff (set : CharSet) (char : Char) :
    (close set).contains char = true ↔
      ∃ code, CharSet.holds set.ranges code = true ∧ Alike char.toNat code := by
  rw [CharSet.contains, close, CharSet.holds_ofRanges, CharSet.holds_append, Bool.or_eq_true,
    CharSet.holds_iff (List.map _ _)]
  constructor
  · rintro (held | ⟨range, member, low, high⟩)
    · exact ⟨_, held, .inl rfl⟩
    · obtain ⟨code, inside, rfl⟩ := List.mem_map.mp member
      obtain rfl : char.toNat = code := Nat.le_antisymm high low
      obtain ⟨group, touched, inGroup⟩ := List.mem_flatten.mp inside
      obtain ⟨found, meets⟩ := List.mem_filter.mp touched
      obtain ⟨code, inGroup', held⟩ := List.any_eq_true.mp meets
      exact ⟨code, held, .inr ⟨group, found, inGroup, inGroup'⟩⟩
  · rintro ⟨code, held, rfl | ⟨group, found, inGroup, inGroup'⟩⟩
    · exact .inl held
    · have touched : group ∈ groups.filter fun group => group.any (CharSet.holds set.ranges) :=
        List.mem_filter.mpr ⟨found, List.any_eq_true.mpr ⟨code, inGroup', held⟩⟩
      exact .inr ⟨⟨char.toNat, char.toNat⟩,
        List.mem_map.mpr ⟨_, List.mem_flatten.mpr ⟨group, touched, inGroup⟩, rfl⟩, Nat.le_refl _,
        Nat.le_refl _⟩

/-! ## The table -/

/-- The groups in a line hold no ASCII characters but letters, and are not too many. -/
def isOrdinary (line : List Char) : Bool :=
  (groupsOfLine line).flatten.all (fun code => 0x80 ≤ code || (Char.ofNat code).isAlpha) &&
    (groupsOfLine line).flatten.length ≤ 32

set_option maxRecDepth 4000 in
theorem isOrdinary_of_mem_table : ∀ line ∈ table, isOrdinary line.toList = true := by
  simp only [table, List.forall_mem_cons]
  repeat' apply And.intro
  -- Lines are computed one by one, as lists of characters.
  any_goals
    rw [String.toList_ofList]
    decide +kernel
  simp

/-- Among the ASCII characters, only letters are the same as others up to folding. -/
theorem Alike.eq_of_ascii {char : Char} {code : Nat} (alike : Alike char.toNat code)
    (ascii : char.toNat < 0x80) (plain : char.isAlpha = false) : char.toNat = code := by
  rcases alike with same | ⟨group, found, member, -⟩
  · exact same
  · obtain ⟨line, listed, inLine⟩ := List.mem_flatMap.mp found
    have ordinary := (Bool.and_eq_true_iff.mp (isOrdinary_of_mem_table line listed)).1
    have letter := List.all_eq_true.mp ordinary _ (List.mem_flatten_of_mem inLine member)
    simp [Char.ofNat_toNat, plain] at letter
    omega

theorem Alike.symm {first second : Nat} (alike : Alike first second) : Alike second first := by
  rcases alike with rfl | ⟨group, found, member, member'⟩
  · exact .inl rfl
  · exact .inr ⟨group, found, member', member⟩

theorem length_table : table.length = 168 := by decide +kernel

/-- A bound on how many code points are in groups. -/
def groupedBound : Nat := 32 * 168

theorem length_flatten_groups_le : groups.flatten.length ≤ groupedBound := by
  have few : ∀ lines : List String, (∀ line ∈ lines, isOrdinary line.toList = true) →
      (lines.flatMap fun line => groupsOfLine line.toList).flatten.length ≤ 32 * lines.length := by
    intro lines ordinary
    induction lines with
    | nil => exact Nat.le_refl 0
    | cons line rest ih =>
        rw [List.forall_mem_cons] at ordinary
        have here := of_decide_eq_true (Bool.and_eq_true_iff.mp ordinary.1).2
        have later := ih ordinary.2
        rw [List.flatMap_cons, List.flatten_append, List.length_append, List.length_cons]
        omega
  rw [groupedBound, ← length_table]
  exact few table isOrdinary_of_mem_table

/-- A closed set has at most as many ranges more as there are code points in groups. -/
theorem length_close_le (set : CharSet) :
    (close set).ranges.length ≤ set.ranges.length + groupedBound := by
  have fewer : ∀ (touched : List Nat → Bool) (lists : List (List Nat)),
      (lists.filter touched).flatten.length ≤ lists.flatten.length := by
    intro touched lists
    induction lists with
    | nil => exact Nat.le_refl 0
    | cons group rest ih =>
        rw [List.filter_cons]
        split
        · simpa using ih
        · exact Nat.le_trans ih (by simp)
  refine Nat.le_trans (CharSet.length_ofRanges_le _) ?_
  rw [List.length_append, List.length_map]
  exact Nat.add_le_add_left (Nat.le_trans (fewer _ _) length_flatten_groups_le) _

end Fold
end Text
end TunnelProxy
