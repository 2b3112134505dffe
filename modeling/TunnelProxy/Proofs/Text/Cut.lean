import Mathlib.Data.String.Basic
import TunnelProxy.Proofs.Text.Utf8

/-!
# Reading a text which was cut off

The bytes of a text may be cut off at any byte.  What is read of them is the text up to the cut, with a
replacement character behind it if the cut falls inside a character.
-/

namespace TunnelProxy
namespace Text
namespace Utf8

open String (utf8Len)

theorem length_flatMap_encodeChar (chars : List Char) :
    (chars.flatMap String.utf8EncodeChar).length = utf8Len chars := by
  induction chars with
  | nil => rfl
  | cons char chars ih =>
      rw [List.flatMap_cons, List.length_append, ih, String.length_utf8EncodeChar,
        String.utf8Len_cons, Nat.add_comm]

theorem length_encode (text : String) : (encode text).length = text.utf8ByteSize := by
  rw [encode, length_flatMap_encodeChar, String.utf8Len_toList]

theorem utf8Len_replicate (count : Nat) (char : Char) :
    utf8Len (List.replicate count char) = count * char.utf8Size := by
  induction count with
  | zero => rw [Nat.zero_mul]; rfl
  | succ count ih => rw [List.replicate_succ, String.utf8Len_cons, ih, Nat.succ_mul]

/-! ## A part of a character -/

/-- Where the end of a character is missing, all that is there of it is replaced at once. -/
theorem Forms.first_take {char : Char} {lead : UInt8} {tail : Bytes} (forms : Forms char lead tail)
    {count : Nat} (missing : count < tail.length) :
    Utf8.first lead (tail.take count) = (replacement, count) := by
  cases forms with
  | one range value => cases missing
  | two range second value =>
      obtain rfl : count = 0 := Nat.lt_one_iff.mp missing
      have high : ¬ lead.toNat < 0x80 := by omega
      simp [Utf8.first, UInt8.lt_iff_toNat_lt, UInt8.le_iff_toNat_le, high, range]
  | three range second third value =>
      have high : ¬ lead.toNat < 0x80 := by omega
      have above : ¬ lead.toNat ≤ 0xDF := by omega
      have cases : count = 0 ∨ count = 1 := by
        simp only [List.length_cons, List.length_nil] at missing
        omega
      rcases cases with rfl | rfl <;>
        simp [Utf8.first, UInt8.lt_iff_toNat_lt, UInt8.le_iff_toNat_le, high, above, range, second]
  | four range second third fourth value =>
      have high : ¬ lead.toNat < 0x80 := by omega
      have above : ¬ lead.toNat ≤ 0xDF := by omega
      have further : ¬ lead.toNat ≤ 0xEF := by omega
      have cases : count = 0 ∨ count = 1 ∨ count = 2 := by
        simp only [List.length_cons, List.length_nil] at missing
        omega
      rcases cases with rfl | rfl | rfl <;>
        simp [Utf8.first, UInt8.lt_iff_toNat_lt, UInt8.le_iff_toNat_le, high, above, further, range,
          second, third]

/-- Some but not all bytes of a character are read as one replacement character. -/
theorem decode_take_char (char : Char) {count : Nat} (begun : 0 < count)
    (cut : count < char.utf8Size) :
    (decode ((String.utf8EncodeChar char).take count)).toList = [replacement] := by
  obtain ⟨lead, tail, forms⟩ := exists_forms char
  rw [← String.length_utf8EncodeChar, forms.encodeChar, List.length_cons] at cut
  obtain ⟨count, rfl⟩ := Nat.exists_eq_add_one.mpr begun
  have missing : count < tail.length := Nat.lt_of_add_lt_add_right cut
  rw [forms.encodeChar, List.take_succ_cons, decode_cons, forms.first_take missing,
    List.drop_of_length_le (by simp), decode_nil]

/-! ## Where the cut falls -/

/-- The character behind the front of a text begins before so many bytes and ends after them. -/
def Splits (limit : Nat) (text : String) (front : List Char) (char : Char) : Prop :=
  front ++ [char] <+: text.toList ∧ utf8Len front < limit ∧ limit < utf8Len front + char.utf8Size

/-- What is read of a text of which at most so many bytes are kept. -/
inductive Cut (limit : Nat) (text : String) : String → Prop
  /-- All bytes of the text are kept. -/
  | whole (fits : text.utf8ByteSize ≤ limit) : Cut limit text text
  /-- The cut falls between two characters. -/
  | between (front : List Char) (char : Char) (inside : front ++ [char] <+: text.toList)
      (full : utf8Len front = limit) : Cut limit text (String.ofList front)
  /-- The cut falls inside a character, of which a replacement is left. -/
  | within (front : List Char) (char : Char) (splits : Splits limit text front char) :
      Cut limit text (String.ofList (front ++ [replacement]))

/-- A limit is behind all characters, or it is before the end of one of them and not before its
beginning. -/
theorem exists_cut (limit : Nat) (chars : List Char) :
    utf8Len chars ≤ limit ∨ ∃ front char back, chars = front ++ char :: back ∧
      utf8Len front ≤ limit ∧ limit < utf8Len front + char.utf8Size := by
  induction chars generalizing limit with
  | nil => exact .inl (Nat.zero_le _)
  | cons char chars ih =>
      by_cases here : limit < char.utf8Size
      · exact .inr ⟨[], char, chars, rfl, Nat.zero_le _, by simpa using here⟩
      · rcases ih (limit - char.utf8Size) with fits | ⟨front, next, back, rfl, before, behind⟩
        · refine .inl ?_
          rw [String.utf8Len_cons]
          omega
        · refine .inr ⟨char :: front, next, back, rfl, ?_, ?_⟩ <;> rw [String.utf8Len_cons] <;> omega

/-- What is read of the first bytes of a text. -/
theorem cut_decode_take (limit : Nat) (text : String) :
    Cut limit text (decode ((encode text).take limit)) := by
  rcases exists_cut limit text.toList with fits | ⟨front, char, back, split, before, behind⟩
  · rw [String.utf8Len_toList] at fits
    rw [List.take_of_length_le (by rwa [length_encode]), decode_encode]
    exact .whole fits
  · have inside : front ++ [char] <+: text.toList := ⟨back, by rw [split, List.append_assoc]; rfl⟩
    -- All of the front is kept, and of the character only what is left of the limit.
    obtain ⟨count, rfl⟩ := Nat.exists_eq_add_of_le before
    have part : count ≤ (String.utf8EncodeChar char).length := by
      rw [String.length_utf8EncodeChar]
      omega
    have kept : (encode text).take (utf8Len front + count) =
        encode (String.ofList front) ++ (String.utf8EncodeChar char).take count := by
      rw [encode, split, List.flatMap_append, List.flatMap_cons, ← length_flatMap_encodeChar,
        List.take_length_add_append, List.take_append_of_le_length part, encode_ofList]
    rw [kept]
    rcases Nat.eq_zero_or_pos count with rfl | begun
    · rw [List.take_zero, List.append_nil, decode_encode]
      exact .between front char inside rfl
    · have replaced : decode (encode (String.ofList front) ++
          (String.utf8EncodeChar char).take count) = String.ofList (front ++ [replacement]) := by
        rw [← String.toList_inj, decode_encode_append, decode_take_char char begun (by omega),
          String.toList_ofList, String.toList_ofList]
      rw [replaced]
      exact .within front char ⟨inside, by omega, behind⟩

/-- What begins a text and does not reach the end of a character of it ends before the character. -/
theorem isPrefix_of_utf8Len_lt {text front other : List Char} {char : Char}
    (here : front ++ [char] <+: text) (there : other <+: text)
    (shorter : utf8Len other < utf8Len front + char.utf8Size) : other <+: front := by
  rcases List.prefix_or_prefix_of_prefix there here with early | late
  · rcases List.prefix_concat_iff.mp early with rfl | early
    · simp at shorter
    · exact early
  · have longer := String.utf8Len_le_of_prefix late
    simp at longer
    omega

theorem eq_of_concat_isPrefix {text front : List Char} {char other : Char}
    (here : front ++ [char] <+: text) (there : front ++ [other] <+: text) : char = other := by
  have same := (List.prefix_of_prefix_length_le here there (by simp)).eq_of_length (by simp)
  simpa using same

/-- A cut falls inside one character only. -/
theorem Splits.unique {limit : Nat} {text : String} {front other : List Char} {char next : Char}
    (here : Splits limit text front char) (there : Splits limit text other next) :
    front = other ∧ char = next := by
  have begins {front : List Char} {char : Char} (inside : front ++ [char] <+: text.toList) :
      front <+: text.toList := (List.prefix_append front [char]).trans inside
  have early := isPrefix_of_utf8Len_lt here.1 (begins there.1) (there.2.1.trans here.2.2)
  have late := isPrefix_of_utf8Len_lt there.1 (begins here.1) (here.2.1.trans there.2.2)
  obtain rfl : front = other :=
    late.eq_of_length (Nat.le_antisymm late.length_le early.length_le)
  exact ⟨rfl, eq_of_concat_isPrefix here.1 there.1⟩

/-- What is read of the first bytes of a text begins the text, unless a character was cut in two which
is not the replacement itself. -/
theorem Cut.isPrefix_iff {limit : Nat} {text read : String} (cut : Cut limit text read) :
    read.toList <+: text.toList ↔
      ∀ front char, Splits limit text front char → char = replacement := by
  cases cut with
  | whole fits =>
      refine ⟨fun _ front char splits => ?_, fun _ => List.prefix_rfl⟩
      have size := String.utf8Len_le_of_prefix splits.1
      rw [String.utf8Len_toList, String.utf8Len_append, String.utf8Len_cons, String.utf8Len_nil,
        Nat.zero_add] at size
      have long := splits.2.2
      omega
  | between whole next inside full =>
      have start : whole <+: text.toList := (List.prefix_append whole [next]).trans inside
      rw [String.toList_ofList]
      refine ⟨fun _ front char splits => ?_, fun _ => start⟩
      -- The text up to the cut would be longer than itself.
      have shorter := String.utf8Len_le_of_prefix
        (isPrefix_of_utf8Len_lt splits.1 start (full ▸ splits.2.2))
      have begun := splits.2.1
      omega
  | within whole next splits =>
      rw [String.toList_ofList]
      constructor
      · intro start front char other
        obtain ⟨rfl, rfl⟩ := splits.unique other
        exact eq_of_concat_isPrefix splits.1 start
      · intro only
        rw [← only whole next splits]
        exact splits.1

end Utf8
end Text
end TunnelProxy
