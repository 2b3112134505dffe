import TunnelProxy.Regex.Match

/-!
# What matching decides

An expression matches the part of a text between two positions.  The marks which matching moves are
on exactly the positions at which such a part may end if it begins at a mark; repetitions without
a bound need not be tried more often than there are positions.
-/

namespace TunnelProxy
namespace Regex

open Text (CharSet)

/-! ## Parts of a text -/

/-- Exactly `count` steps lead from one position to another. -/
inductive Steps (step : Nat → Nat → Prop) : Nat → Nat → Nat → Prop
  /-- No step stays where it is. -/
  | refl (first : Nat) : Steps step 0 first first
  /-- One step is followed by the others. -/
  | head {count first middle last : Nat} :
      step first middle → Steps step count middle last → Steps step (count + 1) first last

namespace Steps

variable {step : Nat → Nat → Prop} {count first last : Nat}

theorem zero_iff : Steps step 0 first last ↔ first = last := by
  constructor
  · rintro ⟨⟩
    rfl
  · rintro rfl
    exact .refl first

theorem succ_iff :
    Steps step (count + 1) first last ↔ ∃ middle, step first middle ∧ Steps step count middle last := by
  constructor
  · rintro (- | ⟨one, more⟩)
    exact ⟨_, one, more⟩
  · rintro ⟨middle, one, more⟩
    exact .head one more

theorem add_iff (more : Nat) :
    Steps step (count + more) first last ↔
      ∃ middle, Steps step count first middle ∧ Steps step more middle last := by
  induction count generalizing first with
  | zero => simp [zero_iff]
  | succ count ih =>
      rw [Nat.succ_add_eq_add_succ, Nat.add_succ, succ_iff]
      simp only [succ_iff, ih]
      constructor
      · rintro ⟨next, one, middle, front, back⟩
        exact ⟨middle, ⟨next, one, front⟩, back⟩
      · rintro ⟨middle, ⟨next, one, front⟩, back⟩
        exact ⟨next, one, middle, front, back⟩

/-- What every step keeps is kept by all of them. -/
theorem keeps {holds : Nat → Prop} (closed : ∀ {source target}, holds source → step source target → holds target)
    (start : holds first) (steps : Steps step count first last) : holds last := by
  induction steps with
  | refl => exact start
  | head one _ ih => exact ih (closed start one)

end Steps

/-- The character before a position. -/
def before? (text : List Char) : Nat → Option Char
  | 0 => none
  | position + 1 => text[position]?

/-- An expression matches the part of a text between two positions. -/
def Matches (text : List Char) : Regex → Nat → Nat → Prop
  | empty => fun first last => last = first
  | oneOf members => fun first last =>
      ∃ char, text[first]? = some char ∧ members.contains char = true ∧ last = first + 1
  | look test => fun first last =>
      last = first ∧ test.holds (before? text first) text[first]? = true
  | seq front back => fun first last =>
      ∃ middle, Matches text front first middle ∧ Matches text back middle last
  | alt left right => fun first last => Matches text left first last ∨ Matches text right first last
  | run body least extra => fun first last =>
      ∃ count, least ≤ count ∧ (∀ more ∈ extra, count ≤ least + more) ∧
        Steps (Matches text body) count first last

/-! ## Marks -/

/-- A position has a mark. -/
def Marked (marks : List Bool) (position : Nat) : Prop := marks[position]? = some true

theorem Marked.lt {marks : List Bool} {position : Nat} (marked : Marked marks position) :
    position < marks.length :=
  (List.getElem?_eq_some_iff.mp marked).1

theorem any_marks_iff (marks : List Bool) : marks.any id = true ↔ ∃ position, Marked marks position := by
  simp [Marked, List.mem_iff_getElem?]

theorem marked_both_iff {first second : List Bool} (same : first.length = second.length)
    (position : Nat) :
    Marked (both first second) position ↔ Marked first position ∨ Marked second position := by
  rw [Marked, Marked, Marked, both, List.getElem?_zipWith]
  by_cases inside : position < first.length
  · have inside' : position < second.length := by omega
    simp [inside, inside']
  · have outside : second.length ≤ position := by omega
    simp [List.getElem?_eq_none (Nat.le_of_not_lt inside), List.getElem?_eq_none outside]

/-- Other marks which change anything make the marks more. -/
theorem count_lt_of_both_ne {first second : List Bool} (same : first.length = second.length)
    (more : both first second ≠ first) : first.count true < (both first second).count true := by
  induction first generalizing second with
  | nil => exact absurd rfl more
  | cons mark first ih =>
      cases second with
      | nil => cases same
      | cons mark' second =>
          have same' : first.length = second.length := Nat.succ.inj same
          change (mark || mark') :: both first second ≠ mark :: first at more
          change (mark :: first).count true < ((mark || mark') :: both first second).count true
          by_cases still : both first second = first
          · have added : mark = false ∧ mark' = true := by
              cases mark <;> cases mark' <;> simp_all
            rw [still, added.1, added.2]
            simp
          · have rest := ih same' still
            have here : (if mark == true then 1 else 0) ≤ if (mark || mark') == true then 1 else 0 := by
              cases mark <;> cases mark' <;> decide
            rw [List.count_cons, List.count_cons]
            omega

theorem length_placesAfter (before : Option Char) (text : List Char) :
    (placesAfter before text).length = text.length + 1 := by
  induction text generalizing before with
  | nil => rfl
  | cons char rest ih => simp [placesAfter, ih]

theorem length_places (text : List Char) : (places text).length = text.length + 1 :=
  length_placesAfter none text

theorem getElem?_placesAfter (before : Option Char) (text : List Char) {position : Nat}
    (inside : position ≤ text.length) :
    (placesAfter before text)[position]? =
      some ⟨if position = 0 then before else before? text position, text[position]?⟩ := by
  induction text generalizing before position with
  | nil =>
      obtain rfl := Nat.le_zero.mp inside
      rfl
  | cons char rest ih =>
      cases position with
      | zero => rfl
      | succ position =>
          rw [placesAfter, List.getElem?_cons_succ, ih _ (Nat.le_of_succ_le_succ inside)]
          cases position <;> simp [before?]

theorem getElem?_places (text : List Char) {position : Nat} (inside : position ≤ text.length) :
    (places text)[position]? = some ⟨before? text position, text[position]?⟩ := by
  rw [places, getElem?_placesAfter none text inside]
  cases position <;> rfl

/-- A move of the marks of `size` positions makes a step from each of them in every possible way. -/
structure Moves (size : Nat) (move : List Bool → List Bool) (step : Nat → Nat → Prop) : Prop where
  /-- No positions are lost. -/
  length : ∀ marks : List Bool, marks.length = size → (move marks).length = size
  /-- The positions which a step reaches are marked. -/
  marked : ∀ marks : List Bool, marks.length = size → ∀ last,
    Marked (move marks) last ↔ ∃ first, Marked marks first ∧ step first last

namespace Moves

variable {size : Nat} {move : List Bool → List Bool} {step : Nat → Nat → Prop}

theorem iterate (moves : Moves size move step) (count : Nat) :
    Moves size (Regex.iterate move count) (Steps step count) := by
  induction count with
  | zero =>
      refine ⟨fun marks sized => sized, fun marks sized last => ?_⟩
      simp [Regex.iterate, Steps.zero_iff]
  | succ count ih =>
      constructor
      · intro marks sized
        rw [Regex.iterate]
        split
        · exact ih.length _ (moves.length marks sized)
        · exact sized
      · intro marks sized last
        rw [Regex.iterate]
        split
        · rw [ih.marked _ (moves.length marks sized)]
          simp only [moves.marked marks sized, Steps.succ_iff]
          constructor
          · rintro ⟨middle, ⟨first, marked, one⟩, more⟩
            exact ⟨first, marked, middle, one, more⟩
          · rintro ⟨first, marked, middle, one, more⟩
            exact ⟨middle, ⟨first, marked, one⟩, more⟩
        · rename_i unmarked
          rw [any_marks_iff] at unmarked
          exact ⟨fun marked => absurd ⟨last, marked⟩ unmarked,
            fun ⟨first, marked, _⟩ => absurd ⟨first, marked⟩ unmarked⟩

theorem both (moves : Moves size move step) {marks : List Bool} (sized : marks.length = size) :
    (Regex.both marks (move marks)).length = size ∧ ∀ last,
      Marked (Regex.both marks (move marks)) last ↔
        Marked marks last ∨ ∃ first, Marked marks first ∧ step first last := by
  have sized' := moves.length marks sized
  refine ⟨by simp [Regex.both, sized, sized'], fun last => ?_⟩
  rw [marked_both_iff (sized.trans sized'.symm), moves.marked marks sized]

/-- A bounded number of moves is made, and all positions on the way are marked. -/
theorem closure (moves : Moves size move step) (fuel : Nat) :
    Moves size (Regex.closure move fuel) fun first last =>
      ∃ count ≤ fuel, Steps step count first last := by
  induction fuel with
  | zero =>
      refine ⟨fun marks sized => sized, fun marks sized last => ?_⟩
      simp [Regex.closure, Steps.zero_iff]
  | succ fuel ih =>
      constructor
      · intro marks sized
        rw [Regex.closure]
        split
        · exact sized
        · exact ih.length _ (moves.both sized).1
      · intro marks sized last
        obtain ⟨sized', marked_iff⟩ := moves.both sized
        rw [Regex.closure]
        split
        · rename_i stable
          constructor
          · exact fun marked => ⟨last, marked, 0, Nat.zero_le _, .refl last⟩
          · rintro ⟨first, marked, count, -, steps⟩
            refine steps.keeps (fun {source target} marked one => ?_) marked
            rw [← stable, marked_iff]
            exact .inr ⟨source, marked, one⟩
        · rw [ih.marked _ sized']
          simp only [marked_iff]
          constructor
          · rintro ⟨middle, marked | ⟨first, marked, one⟩, count, few, steps⟩
            · exact ⟨middle, marked, count, by omega, steps⟩
            · exact ⟨first, marked, count + 1, by omega, .head one steps⟩
          · rintro ⟨first, marked, count, few, steps⟩
            cases steps with
            | refl => exact ⟨_, .inl marked, 0, Nat.zero_le _, .refl _⟩
            | @head count _ middle _ one more =>
                exact ⟨middle, .inr ⟨first, marked, one⟩, count, by omega, more⟩

/-- As many moves as there are positions reach everything which any number of moves reaches. -/
theorem closed_closure (moves : Moves size move step) (fuel : Nat) {marks : List Bool}
    (sized : marks.length = size) (enough : size ≤ fuel + marks.count true) {source target : Nat}
    (marked : Marked (Regex.closure move fuel marks) source) (one : step source target) :
    Marked (Regex.closure move fuel marks) target := by
  induction fuel generalizing marks with
  | zero =>
      have full : ∀ mark ∈ marks, true = mark := by
        rw [← List.count_eq_length]
        have most : marks.count true ≤ marks.length := List.count_le_length
        omega
      have reached := (moves.marked marks sized target).mpr ⟨source, marked, one⟩
      have inside : target < marks.length := by
        have bound := reached.lt
        rwa [moves.length marks sized, ← sized] at bound
      rw [Regex.closure, Marked, List.getElem?_eq_getElem inside, ← full _ (List.getElem_mem inside)]
  | succ fuel ih =>
      obtain ⟨sized', marked_iff⟩ := moves.both sized
      rw [Regex.closure] at marked ⊢
      split at marked
      · rename_i stable
        rw [if_pos stable, ← stable, marked_iff]
        exact .inr ⟨source, marked, one⟩
      · rename_i more
        rw [if_neg more]
        have further := count_lt_of_both_ne (sized.trans (moves.length marks sized).symm) more
        exact ih sized' (by omega) marked

theorem closure_all (moves : Moves size move step) :
    Moves size (Regex.closure move size) fun first last => ∃ count, Steps step count first last := by
  refine ⟨(moves.closure size).length, fun marks sized last => ?_⟩
  constructor
  · intro marked
    obtain ⟨first, start, count, -, steps⟩ := ((moves.closure size).marked marks sized last).mp marked
    exact ⟨first, start, count, steps⟩
  · rintro ⟨first, start, count, steps⟩
    have here : Marked (Regex.closure move size marks) first :=
      ((moves.closure size).marked marks sized first).mpr ⟨first, start, 0, Nat.zero_le _, .refl first⟩
    exact steps.keeps (moves.closed_closure size sized (Nat.le_add_right ..)) here

theorem trans {other : List Bool → List Bool} {step' : Nat → Nat → Prop}
    (moves : Moves size move step) (moves' : Moves size other step') :
    Moves size (fun marks => other (move marks)) fun first last =>
      ∃ middle, step first middle ∧ step' middle last := by
  refine ⟨fun marks sized => moves'.length _ (moves.length marks sized), fun marks sized last => ?_⟩
  rw [moves'.marked _ (moves.length marks sized)]
  simp only [moves.marked marks sized]
  constructor
  · rintro ⟨middle, ⟨first, marked, one⟩, two⟩
    exact ⟨first, marked, middle, one, two⟩
  · rintro ⟨first, marked, middle, one, two⟩
    exact ⟨middle, ⟨first, marked, one⟩, two⟩

theorem congr {step' : Nat → Nat → Prop} (moves : Moves size move step)
    (same : ∀ first last, step first last ↔ step' first last) : Moves size move step' := by
  refine ⟨moves.length, fun marks sized last => ?_⟩
  simp only [moves.marked marks sized, same]

end Moves

/-! ## Expressions -/

/-- Marks which are kept where a place has a property. -/
theorem marked_zipWith_places_iff (text : List Char) (property : Place → Bool) {marks : List Bool}
    (sized : marks.length = text.length + 1) (position : Nat) :
    Marked (List.zipWith (fun place mark => mark && property place) (places text) marks) position ↔
      Marked marks position ∧ property ⟨before? text position, text[position]?⟩ = true := by
  rw [Marked, Marked, List.getElem?_zipWith]
  by_cases inside : position ≤ text.length
  · have inside' : position < marks.length := by omega
    rw [getElem?_places text inside, List.getElem?_eq_getElem inside']
    simp
  · have outside : marks.length ≤ position := by omega
    rw [List.getElem?_eq_none outside]
    simp

theorem moves_keep (text : List Char) (test : Look) :
    Moves (text.length + 1) (keep test (places text)) (Matches text (.look test)) := by
  constructor
  · intro marks sized
    simp [keep, length_places, sized]
  · intro marks sized last
    rw [keep, marked_zipWith_places_iff text (fun place => test.holds place.before place.after) sized]
    constructor
    · exact fun ⟨marked, passes⟩ => ⟨last, marked, rfl, passes⟩
    · rintro ⟨first, marked, rfl, passes⟩
      exact ⟨marked, passes⟩

theorem marked_stepOver_iff (text : List Char) (members : CharSet) {marks : List Bool}
    (sized : marks.length = text.length + 1) (last : Nat) :
    Marked (stepOver members (places text) marks) last ↔
      ∃ first, Marked marks first ∧ Matches text (.oneOf members) first last := by
  have inner := marked_zipWith_places_iff text (fun place => Look.isIn members place.after) sized
  cases last with
  | zero => simp [stepOver, Marked, Matches]
  | succ position =>
      have length : (List.zipWith (fun place mark => mark && Look.isIn members place.after)
          (places text) marks).length = text.length + 1 := by
        simp [length_places, sized]
      simp only [Marked] at inner
      rw [stepOver, Marked, List.getElem?_cons_succ, List.getElem?_dropLast, length]
      constructor
      · intro marked
        split at marked
        · obtain ⟨marked, isIn⟩ := (inner position).mp marked
          obtain ⟨char, here, member⟩ := (Option.any_eq_true ..).mp isIn
          exact ⟨position, marked, char, here, member, rfl⟩
        · cases marked
      · rintro ⟨first, marked, char, here, member, last⟩
        obtain rfl : position = first := Nat.succ.inj last
        have inside := (List.getElem?_eq_some_iff.mp here).1
        rw [if_pos (by omega), inner]
        exact ⟨marked, by simp [Look.isIn, here, member]⟩

theorem moves_stepOver (text : List Char) (members : CharSet) :
    Moves (text.length + 1)
      (fun marks => if marks.any id then stepOver members (places text) marks else marks)
      (Matches text (.oneOf members)) := by
  constructor
  · intro marks sized
    split
    · simp [stepOver, length_places, sized]
    · exact sized
  · intro marks sized last
    split
    · exact marked_stepOver_iff text members sized last
    · rename_i unmarked
      rw [any_marks_iff] at unmarked
      exact ⟨fun marked => absurd ⟨last, marked⟩ unmarked,
        fun ⟨first, marked, _⟩ => absurd ⟨first, marked⟩ unmarked⟩

theorem matches_run_iff (text : List Char) (body : Regex) (least : Nat) (extra : Option Nat)
    (first last : Nat) :
    Matches text (.run body least extra) first last ↔
      ∃ middle, Steps (Matches text body) least first middle ∧
        ∃ count, (∀ more ∈ extra, count ≤ more) ∧ Steps (Matches text body) count middle last := by
  constructor
  · rintro ⟨count, many, few, steps⟩
    obtain ⟨more, rfl⟩ := Nat.exists_eq_add_of_le many
    obtain ⟨middle, front, back⟩ := (Steps.add_iff more).mp steps
    exact ⟨middle, front, more, fun bound given => by have := few bound given; omega, back⟩
  · rintro ⟨middle, front, count, few, back⟩
    refine ⟨least + count, Nat.le_add_right .., fun bound given => ?_, ?_⟩
    · have := few bound given
      omega
    · exact (Steps.add_iff count).mpr ⟨middle, front, back⟩

/-- From the marked positions, an expression reaches exactly those at which a part which it matches
may end. -/
theorem moves_reach (text : List Char) (regex : Regex) :
    Moves (text.length + 1) (reach (places text) regex) (Matches text regex) := by
  induction regex with
  | empty =>
      refine ⟨fun marks sized => sized, fun marks sized last => ?_⟩
      simp [reach, Matches]
  | oneOf members => exact moves_stepOver text members
  | look test => exact moves_keep text test
  | seq front back ihFront ihBack => exact ihFront.trans ihBack
  | alt left right ihLeft ihRight =>
      refine ⟨fun marks sized => ?_, fun marks sized last => ?_⟩
      · simp [reach, both, ihLeft.length marks sized, ihRight.length marks sized]
      · have same := (ihLeft.length marks sized).trans (ihRight.length marks sized).symm
        rw [reach, marked_both_iff same, ihLeft.marked marks sized, ihRight.marked marks sized]
        simp only [Matches, and_or_left, exists_or]
  | run body least extra ih =>
      have repeats : Moves (text.length + 1)
          (closure (reach (places text) body) (extra.getD (places text).length))
          fun first last =>
            ∃ count, (∀ more ∈ extra, count ≤ more) ∧ Steps (Matches text body) count first last := by
        cases extra with
        | none =>
            rw [Option.getD_none, length_places]
            exact ih.closure_all.congr fun first last => by simp
        | some bound => exact (ih.closure bound).congr fun first last => by simp
      exact ((ih.iterate least).trans repeats).congr fun first last =>
        (matches_run_iff text body least extra first last).symm

/-- A text is matched exactly if some part of it is. -/
theorem isMatch_iff (regex : Regex) (text : String) :
    regex.isMatch text = true ↔
      ∃ first last, first ≤ text.toList.length ∧ Matches text.toList regex first last := by
  have start : ((places text.toList).map fun _ => true).length = text.toList.length + 1 := by
    rw [List.length_map, length_places]
  rw [isMatch, any_marks_iff]
  simp only [(moves_reach text.toList regex).marked _ start]
  constructor
  · rintro ⟨last, first, marked, found⟩
    have inside := marked.lt
    exact ⟨first, last, by omega, found⟩
  · rintro ⟨first, last, inside, found⟩
    refine ⟨last, first, ?_, found⟩
    rw [Marked, List.getElem?_map, getElem?_places _ inside]
    rfl

/-! ## Words -/

/-- A word stands in a text between two positions. -/
def Spans (text word : List Char) (first last : Nat) : Prop :=
  text.drop first = word ++ text.drop last ∧ last = first + word.length

variable {text : List Char} {first last : Nat}

theorem spans_nil_iff : Spans text [] first last ↔ last = first := by
  constructor
  · rintro ⟨-, rfl⟩
    rfl
  · rintro rfl
    exact ⟨rfl, rfl⟩

theorem spans_singleton_iff {char : Char} :
    Spans text [char] first last ↔ text[first]? = some char ∧ last = first + 1 := by
  constructor
  · rintro ⟨here, rfl⟩
    have head := congrArg List.head? here
    rw [List.head?_drop] at head
    exact ⟨head, rfl⟩
  · rintro ⟨here, rfl⟩
    obtain ⟨inside, rfl⟩ := List.getElem?_eq_some_iff.mp here
    exact ⟨List.drop_eq_getElem_cons inside, rfl⟩

/-- A word stands where its front does and the rest of it follows. -/
theorem spans_append_iff {front back : List Char} :
    Spans text (front ++ back) first last ↔
      ∃ middle, Spans text front first middle ∧ Spans text back middle last := by
  constructor
  · rintro ⟨here, rfl⟩
    have later : text.drop (first + front.length) =
        back ++ text.drop (first + (front ++ back).length) := by
      rw [← List.drop_drop, here, List.append_assoc, List.drop_left]
    refine ⟨first + front.length, ⟨?_, rfl⟩, later, ?_⟩
    · rw [later, here, List.append_assoc]
    · rw [List.length_append, Nat.add_assoc]
  · rintro ⟨middle, ⟨here, rfl⟩, there, rfl⟩
    refine ⟨?_, ?_⟩
    · rw [here, there, List.append_assoc]
    · rw [List.length_append, Nat.add_assoc]

/-- A word which stands from the start of a text beyond its end is the text. -/
theorem spans_whole_iff {word : List Char} :
    (∃ last, Spans text word 0 last ∧ text.length ≤ last) ↔ text = word := by
  constructor
  · rintro ⟨last, ⟨here, -⟩, beyond⟩
    rwa [List.drop_eq_nil_of_le beyond, List.append_nil] at here
  · rintro rfl
    exact ⟨text.length, ⟨by simp, (Nat.zero_add _).symm⟩, Nat.le_refl _⟩

theorem matches_textEnd_iff :
    Matches text (.look .textEnd) first last ↔ last = first ∧ text.length ≤ first := by
  simp [Matches, Look.holds]

theorem matches_textStart_iff (inside : first ≤ text.length) :
    Matches text (.look .textStart) first last ↔ last = first ∧ first = 0 := by
  cases first with
  | zero => simp [Matches, Look.holds, before?]
  | succ before => simp [Matches, Look.holds, before?, List.getElem?_eq_getElem inside]

theorem matches_oneOf_iff (members : CharSet) :
    Matches text (.oneOf members) first last ↔
      ∃ char, members.contains char = true ∧ Spans text [char] first last := by
  constructor
  · rintro ⟨char, here, member, next⟩
    exact ⟨char, member, spans_singleton_iff.mpr ⟨here, next⟩⟩
  · rintro ⟨char, member, spans⟩
    obtain ⟨here, next⟩ := spans_singleton_iff.mp spans
    exact ⟨char, here, member, next⟩

/-- Steps over characters of a set go over the words of such characters. -/
theorem steps_oneOf_iff (members : CharSet) (count : Nat) :
    Steps (Matches text (.oneOf members)) count first last ↔
      ∃ word, word.length = count ∧ (∀ char ∈ word, members.contains char = true) ∧
        Spans text word first last := by
  -- Each step takes the first character off the word.
  induction count generalizing first with
  | zero =>
      rw [Steps.zero_iff]
      constructor
      · rintro rfl
        exact ⟨[], rfl, nofun, spans_nil_iff.mpr rfl⟩
      · rintro ⟨word, empty, -, spans⟩
        obtain rfl := List.length_eq_zero_iff.mp empty
        exact (spans_nil_iff.mp spans).symm
  | succ count ih =>
      simp only [Steps.succ_iff, ih, matches_oneOf_iff]
      constructor
      · rintro ⟨middle, ⟨char, member, front⟩, word, rfl, members, back⟩
        exact ⟨char :: word, rfl, List.forall_mem_cons.mpr ⟨member, members⟩,
          spans_append_iff.mpr ⟨middle, front, back⟩⟩
      · rintro ⟨word, length, members, spans⟩
        cases word with
        | nil => cases length
        | cons char rest =>
            rw [List.forall_mem_cons] at members
            change Spans text ([char] ++ rest) first last at spans
            obtain ⟨middle, front, back⟩ := spans_append_iff.mp spans
            exact ⟨middle, ⟨char, members.1, front⟩, rest, Nat.succ.inj length, members.2, back⟩

/-- A repeated set matches the words of its characters which have the right length. -/
theorem matches_run_oneOf_iff (members : CharSet) (least : Nat) (extra : Option Nat) :
    Matches text (.run (.oneOf members) least extra) first last ↔
      ∃ word, least ≤ word.length ∧ (∀ more ∈ extra, word.length ≤ least + more) ∧
        (∀ char ∈ word, members.contains char = true) ∧ Spans text word first last := by
  rw [Matches]
  simp only [steps_oneOf_iff]
  constructor
  · rintro ⟨count, many, few, word, rfl, members, spans⟩
    exact ⟨word, many, few, members, spans⟩
  · rintro ⟨word, many, few, members, spans⟩
    exact ⟨word.length, many, few, word, rfl, members, spans⟩

end Regex
end TunnelProxy
