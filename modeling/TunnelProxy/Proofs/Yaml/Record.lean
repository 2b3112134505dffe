import Mathlib.Data.List.Forall2
import TunnelProxy.Yaml.Record

/-!
# Shapes of values

Which values are written as texts, numbers, alternatives and records.  Reading such a value succeeds
exactly if it has the right shape, and gives what is written.
-/

namespace TunnelProxy
namespace Yaml

/-! ## Lists -/

/-- Reading all members of a list reads each of them. -/
theorem mapM_eq_some_iff {α β : Type} (read : α → Option β) (items : List α) (values : List β) :
    items.mapM read = some values ↔
      List.Forall₂ (fun item value => read item = some value) items values := by
  induction items generalizing values with
  | nil => simp [eq_comm]
  | cons item rest ih =>
      simp only [List.mapM_cons, Option.bind_eq_bind, Option.pure_def, Option.bind_eq_some_iff,
        Option.some.injEq, List.forall₂_cons_left_iff, ih]
      constructor
      · rintro ⟨value, here, others, later, rfl⟩
        exact ⟨value, others, here, later, rfl⟩
      · rintro ⟨value, others, here, later, rfl⟩
        exact ⟨value, here, others, later, rfl⟩

/-- At most one member of a list passes a test if no two of them do. -/
theorem length_filter_le_one_iff {α : Type} (test : α → Bool) (items : List α) :
    (items.filter test).length ≤ 1 ↔
      items.Pairwise fun first second => ¬ (test first = true ∧ test second = true) := by
  induction items with
  | nil => simp
  | cons item rest ih =>
      rw [List.pairwise_cons, List.filter_cons]
      split
      · rename_i passes
        rw [List.length_cons, Nat.succ_le_succ_iff, Nat.le_zero, List.length_eq_zero_iff,
          List.filter_eq_nil_iff]
        constructor
        · intro alone
          refine ⟨fun other member both => alone other member both.2, ?_⟩
          rw [← ih, List.filter_eq_nil_iff.mpr alone]
          exact Nat.zero_le 1
        · exact fun apart other member passes' => apart.1 other member ⟨passes, passes'⟩
      · rename_i fails
        rw [ih]
        exact ⟨fun apart => ⟨fun _ _ both => fails both.1, apart⟩, And.right⟩

/-- Lists whose members are related pairwise agree in what holds of all their members. -/
theorem forall_mem_iff_of_forall₂ {α β : Type} {related : α → β → Prop} {first : α → Prop}
    {second : β → Prop} {items : List α} {values : List β} (all : List.Forall₂ related items values)
    (same : ∀ item value, related item value → (first item ↔ second value)) :
    (∀ item ∈ items, first item) ↔ ∀ value ∈ values, second value := by
  induction all with
  | nil => simp
  | cons here _ ih => rw [List.forall_mem_cons, List.forall_mem_cons, same _ _ here, ih]

/-! ## Scalars -/

/-- A value is a scalar with a text. -/
def IsText (node : Node) (text : String) : Prop :=
  ∃ plain tag, node = .scalar plain tag text

/-- The scalars which stand for nothing. -/
inductive IsNull : Node → Prop
  /-- A plain scalar of a certain form. -/
  | plain {text : String} (null : Meaning.isNullText text = true) : IsNull (.scalar true none text)
  /-- A plain scalar of such a form which is marked as nothing. -/
  | marked {text : String} (null : Meaning.isNullText text = true) :
      IsNull (.scalar true (some ⟨"!!", "null"⟩) text)

/-- A value stands for a number of eight bits. -/
def IsByte (node : Node) (value : UInt8) : Prop :=
  node.meaning? = some (.integer value.toNat)

/-- A value stands for a number of 64 bits. -/
def IsWord64 (node : Node) (value : UInt64) : Prop :=
  node.meaning? = some (.integer value.toNat)

namespace Node

theorem text?_eq_some_iff (node : Node) (text : String) : node.text? = some text ↔ IsText node text := by
  cases node with
  | scalar plain tag content =>
      constructor
      · intro same
        exact ⟨plain, tag, by rw [Option.some.inj same]⟩
      · rintro ⟨_, _, same⟩
        cases same
        rfl
  | _ => exact ⟨nofun, nofun⟩

theorem natural?_eq_some_iff (limit : Nat) (node : Node) (value : Nat) :
    node.natural? limit = some value ↔ node.meaning? = some (.integer value) ∧ value ≤ limit := by
  rw [natural?]
  constructor
  · intro read
    split at read
    · rename_i number means
      split at read
      · rename_i fits
        obtain rfl := Option.some.inj read
        refine ⟨by rw [means, Int.toNat_of_nonneg fits.1], ?_⟩
        have := fits.2
        omega
      · cases read
    · cases read
  · rintro ⟨means, bound⟩
    rw [means]
    exact if_pos ⟨Int.natCast_nonneg _, Int.ofNat_le.mpr bound⟩

theorem byte?_eq_some_iff (node : Node) (value : UInt8) :
    node.byte? = some value ↔ IsByte node value := by
  rw [byte?, Option.map_eq_some_iff]
  simp only [natural?_eq_some_iff]
  constructor
  · rintro ⟨number, ⟨means, bound⟩, rfl⟩
    rw [IsByte, UInt8.toNat_ofNat_of_lt' (Nat.lt_succ_of_le bound)]
    exact means
  · intro means
    exact ⟨value.toNat, ⟨means, Nat.le_of_lt_succ value.toNat_lt⟩, UInt8.ofNat_toNat⟩

theorem word64?_eq_some_iff (node : Node) (value : UInt64) :
    node.word64? = some value ↔ IsWord64 node value := by
  rw [word64?, Option.map_eq_some_iff]
  simp only [natural?_eq_some_iff]
  constructor
  · rintro ⟨number, ⟨means, bound⟩, rfl⟩
    rw [IsWord64, UInt64.toNat_ofNat_of_lt' (Nat.lt_of_le_sub_one (by decide) bound)]
    exact means
  · intro means
    exact ⟨value.toNat, ⟨means, Nat.le_sub_one_of_lt value.toNat_lt⟩, UInt64.ofNat_toNat⟩

end Node

/-! ## Alternatives -/

/-- A value is written as the name of an alternative, or as this name with a value. -/
inductive IsVariant (names : List String) : Node → String → Option Node → Prop
  /-- The name stands alone, and there is no alternative as a type in front of it. -/
  | alone {plain : Bool} {tag : Option Tag} {name : String}
      (untyped : ∀ type, tag = some ⟨"!", type⟩ → type ∉ names) :
      IsVariant names (.scalar plain tag name) name none
  /-- The name is the key of the value. -/
  | keyed {key value : Node} {name : String} (named : IsText key name) :
      IsVariant names (.mapping [(key, value)]) name (some value)

/-- An alternative is written without a value, or with one which stands for nothing. -/
def IsUnit (value : Option Node) : Prop :=
  ∀ node ∈ value, IsNull node

/-- A value is written as nothing, or as something of a shape. -/
inductive IsOptional {α : Type} (shape : Node → α → Prop) : Node → Option α → Prop
  /-- The value stands for nothing. -/
  | nothing {node : Node} (null : IsNull node) : IsOptional shape node none
  /-- The value stands for something, and is not marked as nothing. -/
  | something {node : Node} {value : α} (other : ¬ IsNull node)
      (unmarked : ∀ text, node ≠ .scalar true (some ⟨"!!", "null"⟩) text)
      (written : shape node value) : IsOptional shape node (some value)

/-- A value is written as a sequence of values of a shape. -/
inductive IsList {α : Type} (shape : Node → α → Prop) : Node → List α → Prop
  /-- All members have the shape. -/
  | sequence {items : List Node} {values : List α} (members : List.Forall₂ shape items values) :
      IsList shape (.sequence items) values

namespace Node

theorem alternative?_eq_some_iff (names : List String) (node : Node) (name : String)
    (value : Option Node) :
    node.alternative? names = some (name, value) ↔ IsVariant names node name value := by
  constructor
  · intro read
    rw [alternative?.eq_def] at read
    split at read
    · split at read
      · rename_i type
        split at read
        · cases read
        · rename_i untyped
          cases read
          refine .alone fun other same => ?_
          cases same
          simpa using untyped
      · rename_i untyped
        cases read
        exact .alone fun type same => absurd same (untyped type)
    · obtain ⟨key, named, same⟩ := Option.map_eq_some_iff.mp read
      cases same
      exact .keyed ((text?_eq_some_iff ..).mp named)
    · cases read
  · rintro (⟨untyped⟩ | ⟨named⟩)
    · rw [alternative?.eq_def]
      dsimp only
      split
      · rename_i type
        rw [if_neg (by simpa using untyped type rfl)]
      · rfl
    · rw [alternative?.eq_def]
      dsimp only
      rw [(text?_eq_some_iff ..).mpr named]
      rfl

theorem ofPlain_eq_null {text : String} (null : Meaning.ofPlain text = .null) :
    Meaning.isNullText text = true := by
  rw [Meaning.ofPlain] at null
  split at null
  · assumption
  · -- All other forms stand for something.
    repeat' split at null
    all_goals cases null

theorem ofTyped?_eq_null {type text : String} (null : Meaning.ofTyped? type text = some .null) :
    type = "null" ∧ Meaning.isNullText text = true := by
  rw [Meaning.ofTyped?.eq_def] at null
  split at null
  · repeat' split at null
    all_goals cases null
  · obtain ⟨_, -, same⟩ := Option.map_eq_some_iff.mp null
    cases same
  · dsimp only at null
    split at null <;> cases null
  · split at null
    · exact ⟨rfl, ‹_›⟩
    · cases null
  · cases null

theorem meaning?_eq_null_iff (node : Node) : node.meaning? = some .null ↔ IsNull node := by
  constructor
  · intro means
    rw [meaning?.eq_def] at means
    split at means
    · rename_i text
      exact .plain (ofPlain_eq_null (Option.some.inj means))
    · rename_i type text
      obtain ⟨rfl, null⟩ := ofTyped?_eq_null means
      exact .marked null
    · cases means
    · cases means
  · rintro (null | null)
    · simp [meaning?, Meaning.ofPlain, null]
    · simp [meaning?, Meaning.ofTyped?, null]

theorem isUnit_iff (value : Option Node) : isUnit value = true ↔ IsUnit value := by
  cases value with
  | none => simp [isUnit, IsUnit]
  | some node => simp [isUnit, IsUnit, meaning?_eq_null_iff]

theorem optional?_eq_some_iff {α : Type} {read : Node → Option α} {shape : Node → α → Prop}
    (reads : ∀ node value, read node = some value ↔ shape node value) (node : Node)
    (value : Option α) : node.optional? read = some value ↔ IsOptional shape node value := by
  have given (other : ¬ IsNull node)
      (unmarked : ∀ text, node ≠ .scalar true (some ⟨"!!", "null"⟩) text) :
      (read node).map some = some value ↔ IsOptional shape node value := by
    rw [Option.map_eq_some_iff]
    constructor
    · rintro ⟨value, got, rfl⟩
      exact .something other unmarked ((reads node value).mp got)
    · rintro (null | ⟨-, -, written⟩)
      · exact absurd null other
      · exact ⟨_, (reads ..).mpr written, rfl⟩
  have absent (null : IsNull node) : some none = some value ↔ IsOptional shape node value := by
    constructor
    · rintro ⟨⟩
      exact .nothing null
    · rintro (- | ⟨other, -, -⟩)
      · rfl
      · exact absurd null other
  rw [optional?.eq_def]
  split
  · rename_i text
    split
    · exact absent (.plain ‹_›)
    · rename_i other
      refine given ?_ nofun
      rintro (null | -)
      exact other null
  · rename_i text
    split
    · exact absent (.marked ‹_›)
    · rename_i other
      refine ⟨nofun, ?_⟩
      rintro (null | ⟨-, unmarked, -⟩)
      · cases null with
        | marked null => exact absurd null other
      · exact absurd rfl (unmarked text)
  · rename_i plain marked
    refine given ?_ marked
    rintro (null | null)
    · exact plain _ rfl
    · exact marked _ rfl

theorem list?_eq_some_iff {α : Type} {read : Node → Option α} {shape : Node → α → Prop}
    (reads : ∀ node value, read node = some value ↔ shape node value) (node : Node)
    (values : List α) : node.list? read = some values ↔ IsList shape node values := by
  cases node with
  | sequence items =>
      rw [list?, mapM_eq_some_iff]
      simp only [reads]
      exact ⟨.sequence, fun ⟨members⟩ => members⟩
  | _ => exact ⟨nofun, nofun⟩

end Node

/-! ## Records -/

/-- A value is given for a field: in a mapping under its name, in a sequence at its place. -/
inductive Given (names : List String) : Node → String → Node → Prop
  /-- The name of the field is a key. -/
  | mapping {pairs : List (Node × Node)} {key value : Node} {name : String}
      (among : (key, value) ∈ pairs) (named : IsText key name) :
      Given names (.mapping pairs) name value
  /-- The value has the place of the field. -/
  | sequence {items : List Node} {index : Nat} {name : String} {value : Node}
      (place : names[index]? = some name) (there : items[index]? = some value) :
      Given names (.sequence items) name value

/-- A value is written as a record with certain fields.  Unless the record is closed, it may be a
mapping which has other fields, too. -/
inductive IsRecord (closed : Bool) (names : List String) : Node → Prop
  /-- All keys are scalars, and no two of them name the same field. -/
  | mapping {pairs : List (Node × Node)} (keyed : ∀ pair ∈ pairs, ∃ name, IsText pair.1 name)
      (once : ∀ name ∈ names,
        pairs.Pairwise fun first second => ¬ (IsText first.1 name ∧ IsText second.1 name))
      (known : closed = true → ∀ pair ∈ pairs, ∃ name ∈ names, IsText pair.1 name) :
      IsRecord closed names (.mapping pairs)
  /-- There are not more values than fields. -/
  | sequence {items : List Node} (short : items.length ≤ names.length) :
      IsRecord closed names (.sequence items)

/-- A field which has to be given has a value of a shape. -/
def Required {α : Type} (names : List String) (node : Node) (name : String)
    (shape : Node → α → Prop) (value : α) : Prop :=
  ∃ written, Given names node name written ∧ shape written value

/-- A field has a value of a shape, or it is not given and has its default. -/
def Defaulted {α : Type} (names : List String) (node : Node) (name : String)
    (shape : Node → α → Prop) (default value : α) : Prop :=
  Required names node name shape value ∨ (∀ written, ¬ Given names node name written) ∧ value = default

/-! ## Entries -/

section Entries

variable {κ : Type} {entries : List (κ × Node)}

/-- If no two entries have a key, there is just the one which has it. -/
theorem filter_eq_singleton_iff [DecidableEq κ] {key : κ}
    (once : entries.Pairwise fun first second => ¬ (first.1 = key ∧ second.1 = key)) (value : Node) :
    entries.filter (fun entry => entry.1 = key) = [(key, value)] ↔ (key, value) ∈ entries := by
  have few : (entries.filter fun entry => entry.1 = key).length ≤ 1 := by
    rw [length_filter_le_one_iff]
    simpa using once
  have among : (key, value) ∈ entries ↔ (key, value) ∈ entries.filter fun entry => entry.1 = key := by
    simp
  rw [among]
  generalize entries.filter (fun entry => decide (entry.1 = key)) = found at few
  cases found with
  | nil => simp
  | cons first rest =>
      obtain rfl : rest = [] := List.length_eq_zero_iff.mp (Nat.le_zero.mp (Nat.le_of_succ_le_succ few))
      simp [eq_comm]

variable (read : Node → Option κ) {pairs : List (Node × Node)}

/-- A pair of a mapping gives an entry once its key has been read. -/
def Gives (pair : Node × Node) (entry : κ × Node) : Prop :=
  read pair.1 = some entry.1 ∧ pair.2 = entry.2

/-- Reading the keys of a mapping gives an entry for each pair. -/
theorem entries_eq_some_iff :
    (pairs.mapM fun (key, value) => (read key).map fun name => (name, value)) = some entries ↔
      List.Forall₂ (Gives read) pairs entries := by
  have each : ∀ (pair : Node × Node) (entry : κ × Node),
      ((read pair.1).map fun name => (name, pair.2)) = some entry ↔ Gives read pair entry := by
    intro pair entry
    simp [Gives, Prod.ext_iff, and_comm]
  simp only [mapM_eq_some_iff, each]

variable {read}

theorem exists_entries_iff :
    (∃ entries, List.Forall₂ (Gives read) pairs entries) ↔
      ∀ pair ∈ pairs, ∃ key, read pair.1 = some key := by
  induction pairs with
  | nil => simp
  | cons pair rest ih =>
      rw [List.forall_mem_cons, ← ih]
      constructor
      · rintro ⟨entries, gives⟩
        cases gives with
        | cons here later => exact ⟨⟨_, here.1⟩, _, later⟩
      · rintro ⟨⟨key, named⟩, entries, later⟩
        exact ⟨(key, pair.2) :: entries, .cons ⟨named, rfl⟩ later⟩

theorem once_iff (gives : List.Forall₂ (Gives read) pairs entries) (key : κ) :
    (entries.Pairwise fun first second => ¬ (first.1 = key ∧ second.1 = key)) ↔
      pairs.Pairwise fun first second => ¬ (read first.1 = some key ∧ read second.1 = some key) := by
  induction gives with
  | nil => simp
  | cons here later ih =>
      have apart := forall_mem_iff_of_forall₂ later fun other entry gives =>
        show ¬ (read _ = some key ∧ read other.1 = some key) ↔ ¬ (_ = key ∧ entry.1 = key) by
          rw [here.1, gives.1, Option.some_inj, Option.some_inj]
      rw [List.pairwise_cons, List.pairwise_cons, ih, apart]

theorem known_iff (gives : List.Forall₂ (Gives read) pairs entries) (keys : List κ) :
    (∀ pair ∈ pairs, ∃ key ∈ keys, read pair.1 = some key) ↔ ∀ entry ∈ entries, entry.1 ∈ keys := by
  refine forall_mem_iff_of_forall₂ gives fun pair entry gives => ?_
  simp [gives.1]

theorem mem_entries_iff (gives : List.Forall₂ (Gives read) pairs entries) (key : κ) (value : Node) :
    (key, value) ∈ entries ↔ ∃ pair ∈ pairs, read pair.1 = some key ∧ pair.2 = value := by
  induction gives with
  | nil => simp
  | cons here later ih =>
      rw [List.mem_cons, ih, List.exists_mem_cons_iff, here.1, here.2, Option.some_inj, Prod.ext_iff]
      exact or_congr (and_congr eq_comm eq_comm) Iff.rfl

end Entries

/-! ## Reading records -/

theorem Record.get?_eq_some_iff {entries : List (String × Node)} {name : String}
    (once : entries.Pairwise fun first second => ¬ (first.1 = name ∧ second.1 = name))
    (value : Node) : Record.get? ⟨entries⟩ name = some value ↔ (name, value) ∈ entries := by
  rw [Record.get?, ← List.head?_filter]
  constructor
  · intro found
    obtain ⟨entry, first, rfl⟩ := Option.map_eq_some_iff.mp found
    obtain ⟨among, named⟩ := List.mem_filter.mp (List.mem_of_head? first)
    rwa [← of_decide_eq_true named]
  · intro among
    rw [(filter_eq_singleton_iff once value).mpr among]
    rfl

namespace Node

/-- How a mapping is read as a record. -/
theorem record?_mapping_iff (closed : Bool) (names : List String) (pairs : List (Node × Node))
    (record : Record) :
    (mapping pairs).record? closed names = some record ↔
      ∃ entries, List.Forall₂ (Gives text?) pairs entries ∧
        (∀ name ∈ names,
          entries.Pairwise fun first second => ¬ (first.1 = name ∧ second.1 = name)) ∧
        (closed = true → ∀ entry ∈ entries, entry.1 ∈ names) ∧
        ⟨entries.filter fun entry => names.contains entry.1⟩ = record := by
  rw [record?, Option.bind_eq_bind, Option.bind_eq_some_iff]
  simp only [entries_eq_some_iff]
  refine exists_congr fun entries => and_congr_right fun _ => ?_
  have unique : (names.all fun name =>
      ((entries.filter fun entry => names.contains entry.1).filter fun entry =>
        entry.1 = name).length ≤ 1) = true ↔
      ∀ name ∈ names,
        entries.Pairwise fun first second => ¬ (first.1 = name ∧ second.1 = name) := by
    rw [List.all_eq_true]
    refine forall_congr' fun name => imp_congr_right fun field => ?_
    have same : ((entries.filter fun entry => names.contains entry.1).filter fun entry =>
        entry.1 = name) = entries.filter fun entry => entry.1 = name := by
      rw [List.filter_filter]
      refine List.filter_congr fun entry _ => ?_
      by_cases here : entry.1 = name <;> simp [here, field]
    rw [decide_eq_true_eq, same, length_filter_le_one_iff]
    simp only [decide_eq_true_eq]
  have known : (closed && decide ((entries.filter fun entry => names.contains entry.1).length <
      entries.length)) = false ↔ (closed = true → ∀ entry ∈ entries, entry.1 ∈ names) := by
    rw [Bool.and_eq_false_imp, decide_eq_false_iff_not, List.length_filter_lt_length_iff_exists]
    simp
  rw [← unique, ← known]
  -- What is left is that both tests are passed.
  constructor
  · intro read
    split at read
    · rename_i proper
      rw [Bool.and_eq_true, Bool.not_eq_true'] at proper
      exact ⟨proper.1, proper.2, Option.some.inj read⟩
    · cases read
  · rintro ⟨unique, known, rfl⟩
    exact if_pos (by rw [unique, known]; rfl)

/-- Records of the right shape can be read, and no others. -/
theorem exists_record?_iff (closed : Bool) (names : List String) (node : Node) :
    (∃ record, node.record? closed names = some record) ↔ IsRecord closed names node := by
  cases node with
  | scalar => exact ⟨nofun, nofun⟩
  | sequence items =>
      rw [record?]
      constructor
      · rintro ⟨record, read⟩
        split at read
        · exact .sequence ‹_›
        · cases read
      · rintro (- | ⟨short⟩)
        exact ⟨_, if_pos short⟩
  | mapping pairs =>
      simp only [record?_mapping_iff]
      constructor
      · rintro ⟨record, entries, gives, once, known, -⟩
        have keyed := exists_entries_iff.mp ⟨entries, gives⟩
        have once := fun name field => (once_iff gives name).mp (once name field)
        have known := fun closed => (known_iff gives names).mpr (known closed)
        simp only [text?_eq_some_iff] at keyed once known
        exact .mapping keyed once known
      · rintro (⟨keyed, once, known⟩)
        simp only [← text?_eq_some_iff] at keyed once known
        obtain ⟨entries, gives⟩ := exists_entries_iff.mpr keyed
        exact ⟨_, entries, gives, fun name field => (once_iff gives name).mpr (once name field),
          fun closed => (known_iff gives names).mp (known closed), rfl⟩

/-- The value of a field in a record is the one which is given for it. -/
theorem get?_iff {closed : Bool} {names : List String} (distinct : names.Nodup) {node : Node}
    {record : Record} (read : node.record? closed names = some record) {name : String}
    (field : name ∈ names) (value : Node) :
    record.get? name = some value ↔ Given names node name value := by
  cases node with
  | scalar => cases read
  | sequence items =>
      rw [record?] at read
      split at read
      · obtain rfl := Option.some.inj read
        rw [Record.get?_eq_some_iff]
        · rw [List.mem_iff_getElem?]
          simp only [List.getElem?_zip_eq_some]
          constructor
          · rintro ⟨index, place, there⟩
            exact .sequence place there
          · rintro (- | ⟨place, there⟩)
            exact ⟨_, place, there⟩
        · rw [List.pairwise_iff_getElem]
          intro first second inside inside' before both
          simp only [List.getElem_zip] at both
          exact List.pairwise_iff_getElem.mp distinct _ _ _ _ before (both.1.trans both.2.symm)
      · cases read
  | mapping pairs =>
      obtain ⟨entries, gives, once, -, rfl⟩ := (record?_mapping_iff ..).mp read
      rw [Record.get?_eq_some_iff ((once name field).filter _), List.mem_filter, mem_entries_iff gives]
      constructor
      · rintro ⟨⟨pair, among, named, rfl⟩, -⟩
        exact .mapping among ((text?_eq_some_iff ..).mp named)
      · rintro ⟨among, named⟩
        exact ⟨⟨_, among, (text?_eq_some_iff ..).mpr named, rfl⟩, List.contains_iff_mem.mpr field⟩

variable {α : Type} {reader : Node → Option α} {shape : Node → α → Prop} {closed : Bool}
  {names : List String} {node : Node} {record : Record} {name : String}

theorem required?_iff (distinct : names.Nodup) (read : node.record? closed names = some record)
    (field : name ∈ names) (reads : ∀ node value, reader node = some value ↔ shape node value)
    (value : α) :
    record.required? name reader = some value ↔ Required names node name shape value := by
  rw [Record.required?, Option.bind_eq_some_iff]
  simp only [get?_iff distinct read field, reads]
  rfl

theorem value?_iff (distinct : names.Nodup) (read : node.record? closed names = some record)
    (field : name ∈ names) (reads : ∀ node value, reader node = some value ↔ shape node value)
    (default value : α) :
    record.value? name reader default = some value ↔
      Defaulted names node name shape default value := by
  have given := get?_iff distinct read field
  rw [Record.value?.eq_def]
  cases found : record.get? name with
  | none =>
      have absent : ∀ written, ¬ Given names node name written := by
        intro written there
        cases found.symm.trans ((given written).mpr there)
      dsimp only
      constructor
      · rintro ⟨⟩
        exact .inr ⟨absent, rfl⟩
      · rintro (⟨written, there, -⟩ | ⟨-, rfl⟩)
        · exact absurd there (absent written)
        · rfl
  | some written =>
      have there := (given written).mp found
      dsimp only
      rw [reads]
      constructor
      · exact fun got => .inl ⟨written, there, got⟩
      · rintro (⟨other, there', got⟩ | ⟨absent, -⟩)
        · cases found.symm.trans ((given other).mpr there')
          exact got
        · exact absurd there (absent written)

end Node

end Yaml
end TunnelProxy
