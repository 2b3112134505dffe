import Mathlib.Data.Nat.Digits.Defs
import Mathlib.Tactic.Ring
import TunnelProxy.Text.Numeral

/-!
# Reading numerals back

The digits of a number are read as the number, in every base up to sixteen, and none of them is a
separator of addresses.  Decimal digits are read as the number for which they stand by place value.
-/

namespace TunnelProxy
namespace Text
namespace Numeral

theorem digit?_digitChar {base digit : Nat} (known : base ≤ 16) (small : digit < base) :
    digit? base (Nat.digitChar digit) = some digit := by
  have read : ∀ value < 16, hexDigit? (Nat.digitChar value) = some value := by decide
  simp [digit?, read digit (by omega), small]

/-- A larger base has more digits. -/
theorem digit?_eq_none_of_le {small large : Nat} (le : small ≤ large) {char : Char}
    (other : digit? large char = none) : digit? small char = none := by
  rw [digit?, Option.filter_eq_none_iff] at other ⊢
  intro value read fits
  have large_le := other value read
  simp only [decide_eq_true_eq] at large_le fits
  omega

theorem valueFrom?_append (base value : Nat) (front back : List Char) :
    valueFrom? base value (front ++ back) =
      (valueFrom? base value front).bind fun value => valueFrom? base value back := by
  induction front generalizing value with
  | nil => rfl
  | cons char front ih =>
      rw [List.cons_append, valueFrom?, valueFrom?]
      cases digit? base char with
      | none => rfl
      | some digit => exact ih _

theorem valueFrom?_toDigits {base : Nat} (proper : 1 < base) (known : base ≤ 16) (value : Nat) :
    valueFrom? base 0 (Nat.toDigits base value) = some value := by
  induction value using Nat.strongRecOn with
  | _ value ih =>
      rw [Nat.toDigits_eq_if proper]
      split
      · rename_i small
        simp [valueFrom?, digit?_digitChar known small]
      · have smaller : value / base < value := Nat.div_lt_self (by omega) proper
        have last : value % base < base := Nat.mod_lt _ (by omega)
        rw [valueFrom?_append, ih _ smaller]
        simp [valueFrom?, digit?_digitChar known last, Nat.div_add_mod']

/-- What holds something else than digits is no numeral. -/
theorem digits?_eq_none {base limit : Nat} {char : Char} {chars : List Char} (member : char ∈ chars)
    (other : digit? base char = none) : digits? base limit chars = none := by
  have unread : ∀ value, valueFrom? base value chars = none := by
    induction chars with
    | nil => cases member
    | cons first chars ih =>
        intro value
        rw [valueFrom?]
        rcases List.mem_cons.mp member with rfl | later
        · rw [other]
        · cases digit? base first with
          | none => rfl
          | some digit => exact ih later _
  simp [digits?, unread]

/-- A number within the limit is read back from its digits. -/
theorem digits?_toDigits {base limit value : Nat} (proper : 1 < base) (known : base ≤ 16)
    (fits : value ≤ limit) : digits? base limit (Nat.toDigits base value) = some value := by
  simp [digits?, Nat.toDigits_ne_nil, valueFrom?_toDigits proper known, fits]

theorem mem_toDigits {base value : Nat} (proper : 1 < base) {char : Char}
    (member : char ∈ Nat.toDigits base value) : ∃ digit < base, char = Nat.digitChar digit := by
  induction value using Nat.strongRecOn with
  | _ value ih =>
      rw [Nat.toDigits_eq_if proper] at member
      split at member
      · rename_i small
        exact ⟨value, small, List.mem_singleton.mp member⟩
      · rcases List.mem_append.mp member with front | last
        · exact ih _ (Nat.div_lt_self (by omega) proper) front
        · exact ⟨_, Nat.mod_lt _ (by omega), List.mem_singleton.mp last⟩

/-- What is no digit does not stand among digits. -/
theorem not_mem_toDigits {base value : Nat} (proper : 1 < base) (known : base ≤ 16) {char : Char}
    (other : digit? base char = none) : char ∉ Nat.toDigits base value := by
  intro member
  obtain ⟨digit, small, rfl⟩ := mem_toDigits proper member
  rw [digit?_digitChar known small] at other
  cases other

/-- Only zero has a leading zero. -/
theorem head?_toDigits {base value : Nat} (proper : 1 < base)
    (zero : (Nat.toDigits base value).head? = some '0') : value = 0 := by
  induction value using Nat.strongRecOn with
  | _ value ih =>
      rw [Nat.toDigits_eq_if proper] at zero
      split at zero
      · simpa using zero
      · rename_i large
        have front : (Nat.toDigits base (value / base)).head? = some '0' := by
          obtain ⟨first, rest, same⟩ := List.exists_cons_of_ne_nil
            (Nat.toDigits_ne_nil : Nat.toDigits base (value / base) ≠ [])
          rw [same] at zero ⊢
          exact zero
        have quotient := ih _ (Nat.div_lt_self (by omega) proper) front
        have positive : 0 < value / base := Nat.div_pos (by omega) (by omega)
        omega

theorem decimal?_eq_none {limit : Nat} {char : Char} {chars : List Char} (member : char ∈ chars)
    (unsigned : char ≠ '+') (other : digit? 10 char = none) : decimal? limit chars = none := by
  rw [decimal?.eq_def]
  split
  · exact digits?_eq_none ((List.mem_cons.mp member).resolve_left unsigned) other
  · exact digits?_eq_none member other

/-- A number within the limit is read back from its decimal digits. -/
theorem decimal?_toDigits {limit value : Nat} (fits : value ≤ limit) :
    decimal? limit (Nat.toDigits 10 value) = some value := by
  rw [decimal?]
  · exact digits?_toDigits (by decide) (by decide) fits
  · intro digits same
    have plus : '+' ∉ Nat.toDigits 10 value := not_mem_toDigits (by decide) (by decide) rfl
    rw [same] at plus
    exact plus List.mem_cons_self

/-! ## Decimal numbers -/

/-- The number for which decimal digits stand, the most significant digit first. -/
def ofDecimal (digits : List Char) : Nat :=
  Nat.ofDigits 10 (digits.reverse.map fun char => char.toNat - '0'.toNat)

theorem ofDecimal_nil : ofDecimal [] = 0 := rfl

theorem ofDecimal_cons (char : Char) (digits : List Char) :
    ofDecimal (char :: digits) = (char.toNat - '0'.toNat) * 10 ^ digits.length + ofDecimal digits := by
  rw [ofDecimal, ofDecimal, List.reverse_cons, List.map_append, Nat.ofDigits_append]
  simp only [List.map_cons, List.map_nil, Nat.ofDigits_singleton, List.length_map,
    List.length_reverse]
  ring

theorem le_iff_toNat_le (first second : Char) : first ≤ second ↔ first.toNat ≤ second.toNat := by
  rw [Char.le_def, UInt32.le_iff_toNat_le]
  rfl

theorem isDigit_iff (char : Char) : char.isDigit ↔ '0' ≤ char ∧ char ≤ '9' := by
  simp [Char.isDigit, Char.le_def]

theorem digit?_ten_iff (char : Char) (value : Nat) :
    digit? 10 char = some value ↔ char.isDigit ∧ value = char.toNat - '0'.toNat := by
  have zero : '0'.toNat = 48 := rfl
  have nine : '9'.toNat = 57 := rfl
  have a : 'a'.toNat = 97 := rfl
  have A : 'A'.toNat = 65 := rfl
  rw [digit?, hexDigit?, isDigit_iff]
  simp only [le_iff_toNat_le, zero, nine, a, A, Option.filter_eq_some_iff]
  split
  · simp only [Option.some.injEq, decide_eq_true_eq]
    omega
  · -- The letters stand for ten and more.
    split
    · simp only [Option.some.injEq, decide_eq_true_eq]
      omega
    · split
      · simp only [Option.some.injEq, decide_eq_true_eq]
        omega
      · simp only [reduceCtorEq, false_and, false_iff]
        omega

theorem valueFrom?_ten_iff (start : Nat) (chars : List Char) (value : Nat) :
    valueFrom? 10 start chars = some value ↔
      (∀ char ∈ chars, char.isDigit) ∧ value = start * 10 ^ chars.length + ofDecimal chars := by
  induction chars generalizing start with
  | nil => simpa [valueFrom?, ofDecimal_nil] using eq_comm
  | cons char chars ih =>
      rw [valueFrom?, ofDecimal_cons, List.length_cons, List.forall_mem_cons]
      cases read : digit? 10 char with
      | none =>
          have other : ¬ char.isDigit := fun digit => by
            simp [(digit?_ten_iff char _).mpr ⟨digit, rfl⟩] at read
          simp [other]
      | some digit =>
          obtain ⟨decimal, rfl⟩ := (digit?_ten_iff char digit).mp read
          have shift : start * 10 ^ (chars.length + 1) = start * 10 * 10 ^ chars.length := by ring
          simp only [ih, decimal, true_and]
          rw [Nat.add_mul, shift, Nat.add_assoc]

/-- Decimal digits are read as the number for which they stand, if that is within the limit. -/
theorem digits?_ten_iff (limit : Nat) (chars : List Char) (value : Nat) :
    digits? 10 limit chars = some value ↔
      chars ≠ [] ∧ (∀ char ∈ chars, char.isDigit) ∧ value = ofDecimal chars ∧ value ≤ limit := by
  rw [digits?]
  split
  · simp_all
  · simp_all [Option.filter_eq_some_iff, valueFrom?_ten_iff, and_assoc]

end Numeral
end Text
end TunnelProxy
