import TunnelProxy.Text.Utf8

/-!
# Decoding what was encoded

A text is read back from its bytes.  A byte sequence which is read as a text is the encoding of the
text unless an ill-formed piece was replaced in it, so a text with a replacement character is read
from several byte sequences, and every other text only from its encoding.
-/

namespace TunnelProxy
namespace Text
namespace Utf8

/-! ## Characters -/

theorem isContinuation_iff (byte : UInt8) :
    isContinuation byte = true ↔ 0x80 ≤ byte.toNat ∧ byte.toNat ≤ 0xBF := by
  simp [isContinuation, UInt8.le_iff_toNat_le]

/-- The second byte of three is a continuation byte which excludes overlong forms and surrogates. -/
theorem secondOfThree_iff (lead byte : UInt8) :
    secondOfThree lead byte = true ↔
      0x80 ≤ byte.toNat ∧ byte.toNat ≤ 0xBF ∧ (lead.toNat = 0xE0 → 0xA0 ≤ byte.toNat) ∧
        (lead.toNat = 0xED → byte.toNat ≤ 0x9F) := by
  simp only [secondOfThree, ← UInt8.toNat_inj]
  split
  · simp_all [UInt8.le_iff_toNat_le]
    omega
  · split
    · simp_all [UInt8.le_iff_toNat_le]
      omega
    · simp_all [isContinuation_iff]

/-- The second byte of four is a continuation byte which excludes overlong forms and numbers above
those of characters. -/
theorem secondOfFour_iff (lead byte : UInt8) :
    secondOfFour lead byte = true ↔
      0x80 ≤ byte.toNat ∧ byte.toNat ≤ 0xBF ∧ (lead.toNat = 0xF0 → 0x90 ≤ byte.toNat) ∧
        (lead.toNat = 0xF4 → byte.toNat ≤ 0x8F) := by
  simp only [secondOfFour, ← UInt8.toNat_inj]
  split
  · simp_all [UInt8.le_iff_toNat_le]
    omega
  · split
    · simp_all [UInt8.le_iff_toNat_le]
      omega
    · simp_all [isContinuation_iff]

theorem toNat_ofNat_of_valid {value : Nat} (valid : value.isValidChar) :
    (Char.ofNat value).toNat = value := by
  rw [Char.ofNat, dif_pos valid]
  rfl

theorem utf8EncodeChar_eq (char : Char) :
    String.utf8EncodeChar char =
      if char.toNat ≤ 0x7F then [UInt8.ofNat char.toNat]
      else if char.toNat ≤ 0x7FF then
        [UInt8.ofNat (char.toNat / 64 % 32 + 192), UInt8.ofNat (char.toNat % 64 + 128)]
      else if char.toNat ≤ 0xFFFF then
        [UInt8.ofNat (char.toNat / 4096 % 16 + 224), UInt8.ofNat (char.toNat / 64 % 64 + 128),
          UInt8.ofNat (char.toNat % 64 + 128)]
      else
        [UInt8.ofNat (char.toNat / 262144 % 8 + 240), UInt8.ofNat (char.toNat / 4096 % 64 + 128),
          UInt8.ofNat (char.toNat / 64 % 64 + 128), UInt8.ofNat (char.toNat % 64 + 128)] := rfl

/-- A leading byte and the bytes behind it are a character. -/
inductive Forms (char : Char) (lead : UInt8) : Bytes → Prop
  /-- A character of one byte. -/
  | one (range : lead.toNat < 0x80) (value : char.toNat = lead.toNat) : Forms char lead []
  /-- A character of two bytes. -/
  | two {b : UInt8} (range : 0xC2 ≤ lead.toNat ∧ lead.toNat ≤ 0xDF)
      (second : isContinuation b = true)
      (value : char.toNat = lead.toNat % 32 * 64 + payload b) : Forms char lead [b]
  /-- A character of three bytes. -/
  | three {b c : UInt8} (range : 0xE0 ≤ lead.toNat ∧ lead.toNat ≤ 0xEF)
      (second : secondOfThree lead b = true) (third : isContinuation c = true)
      (value : char.toNat = (lead.toNat % 16 * 64 + payload b) * 64 + payload c) :
      Forms char lead [b, c]
  /-- A character of four bytes. -/
  | four {b c d : UInt8} (range : 0xF0 ≤ lead.toNat ∧ lead.toNat ≤ 0xF4)
      (second : secondOfFour lead b = true) (third : isContinuation c = true)
      (fourth : isContinuation d = true)
      (value : char.toNat =
        ((lead.toNat % 8 * 64 + payload b) * 64 + payload c) * 64 + payload d) :
      Forms char lead [b, c, d]

theorem Forms.first {char : Char} {lead : UInt8} {tail : Bytes} (forms : Forms char lead tail)
    (rest : Bytes) : first lead (tail ++ rest) = (char, tail.length) := by
  have back : Char.ofNat char.toNat = char := char.ofNat_toNat
  cases forms with
  | one range value =>
      rw [value] at back
      simp [Utf8.first, UInt8.lt_iff_toNat_lt, range, back]
  | two range second value =>
      rw [value] at back
      have high : ¬ lead.toNat < 0x80 := by omega
      simp [Utf8.first, UInt8.lt_iff_toNat_lt, UInt8.le_iff_toNat_le, high, range, second, back]
  | three range second third value =>
      rw [value] at back
      have high : ¬ lead.toNat < 0x80 := by omega
      have above : ¬ lead.toNat ≤ 0xDF := by omega
      simp [Utf8.first, UInt8.lt_iff_toNat_lt, UInt8.le_iff_toNat_le, high, above, range, second,
        third, back]
  | four range second third fourth value =>
      rw [value] at back
      have high : ¬ lead.toNat < 0x80 := by omega
      have above : ¬ lead.toNat ≤ 0xDF := by omega
      have further : ¬ lead.toNat ≤ 0xEF := by omega
      simp [Utf8.first, UInt8.lt_iff_toNat_lt, UInt8.le_iff_toNat_le, high, above, further, range,
        second, third, fourth, back]

theorem Forms.encodeChar {char : Char} {lead : UInt8} {tail : Bytes}
    (forms : Forms char lead tail) : String.utf8EncodeChar char = lead :: tail := by
  have same : ∀ (byte : UInt8) {value : Nat}, value = byte.toNat → UInt8.ofNat value = byte := by
    rintro byte _ rfl
    exact UInt8.ofNat_toNat
  rw [utf8EncodeChar_eq]
  cases forms with
  | one range value => rw [if_pos (by omega), same lead value]
  | @two b range second value =>
      rw [isContinuation_iff] at second
      simp only [payload] at value
      rw [if_neg (by omega), if_pos (by omega), same lead (by omega), same b (by omega)]
  | @three b c range second third value =>
      rw [secondOfThree_iff] at second
      rw [isContinuation_iff] at third
      simp only [payload] at value
      rw [if_neg (by omega), if_neg (by omega), if_pos (by omega), same lead (by omega),
        same b (by omega), same c (by omega)]
  | @four b c d range second third fourth value =>
      rw [secondOfFour_iff] at second
      rw [isContinuation_iff] at third fourth
      simp only [payload] at value
      rw [if_neg (by omega), if_neg (by omega), if_neg (by omega), same lead (by omega),
        same b (by omega), same c (by omega), same d (by omega)]

theorem exists_forms (char : Char) : ∃ lead tail, Forms char lead tail := by
  have valid : char.toNat < 0xD800 ∨ 0xDFFF < char.toNat ∧ char.toNat < 0x110000 := char.valid
  rcases Nat.lt_or_ge char.toNat 0x80 with one | some
  · refine ⟨UInt8.ofNat char.toNat, [], .one ?_ ?_⟩ <;> rw [UInt8.toNat_ofNat'] <;> omega
  rcases Nat.lt_or_ge char.toNat 0x800 with two | more
  · refine ⟨UInt8.ofNat (char.toNat / 64 + 192), [UInt8.ofNat (char.toNat % 64 + 128)],
      .two ?_ ?_ ?_⟩
    · rw [UInt8.toNat_ofNat']
      omega
    · rw [isContinuation_iff, UInt8.toNat_ofNat']
      omega
    · simp only [payload, UInt8.toNat_ofNat']
      omega
  rcases Nat.lt_or_ge char.toNat 0x10000 with three | four
  · refine ⟨UInt8.ofNat (char.toNat / 4096 + 224), [UInt8.ofNat (char.toNat / 64 % 64 + 128),
      UInt8.ofNat (char.toNat % 64 + 128)], .three ?_ ?_ ?_ ?_⟩
    · rw [UInt8.toNat_ofNat']
      omega
    · simp only [secondOfThree_iff, UInt8.toNat_ofNat']
      omega
    · rw [isContinuation_iff, UInt8.toNat_ofNat']
      omega
    · simp only [payload, UInt8.toNat_ofNat']
      omega
  · refine ⟨UInt8.ofNat (char.toNat / 262144 + 240), [UInt8.ofNat (char.toNat / 4096 % 64 + 128),
      UInt8.ofNat (char.toNat / 64 % 64 + 128), UInt8.ofNat (char.toNat % 64 + 128)],
      .four ?_ ?_ ?_ ?_ ?_⟩
    · rw [UInt8.toNat_ofNat']
      omega
    · simp only [secondOfFour_iff, UInt8.toNat_ofNat']
      omega
    · rw [isContinuation_iff, UInt8.toNat_ofNat']
      omega
    · rw [isContinuation_iff, UInt8.toNat_ofNat']
      omega
    · simp only [payload, UInt8.toNat_ofNat']
      omega

/-- Bytes of the right ranges form a character. -/
theorem exists_forms_two {lead b : UInt8} (range : 0xC2 ≤ lead.toNat ∧ lead.toNat ≤ 0xDF)
    (second : isContinuation b = true) : ∃ char, Forms char lead [b] := by
  refine ⟨_, .two range second (toNat_ofNat_of_valid (.inl ?_))⟩
  simp only [payload]
  omega

theorem exists_forms_three {lead b c : UInt8} (range : 0xE0 ≤ lead.toNat ∧ lead.toNat ≤ 0xEF)
    (second : secondOfThree lead b = true) (third : isContinuation c = true) :
    ∃ char, Forms char lead [b, c] := by
  refine ⟨_, .three range second third (toNat_ofNat_of_valid ?_)⟩
  rw [secondOfThree_iff] at second
  simp only [payload, Nat.isValidChar]
  omega

theorem exists_forms_four {lead b c d : UInt8} (range : 0xF0 ≤ lead.toNat ∧ lead.toNat ≤ 0xF4)
    (second : secondOfFour lead b = true) (third : isContinuation c = true)
    (fourth : isContinuation d = true) : ∃ char, Forms char lead [b, c, d] := by
  refine ⟨_, .four range second third fourth (toNat_ofNat_of_valid ?_)⟩
  rw [secondOfFour_iff] at second
  simp only [payload, Nat.isValidChar]
  omega

/-- The front of a byte sequence is a whole character, or it is replaced. -/
theorem first_cases (lead : UInt8) (rest : Bytes) :
    (first lead rest).1 = replacement ∨
      ∃ char tail back, rest = tail ++ back ∧ Forms char lead tail := by
  rw [first.eq_def]
  simp only [UInt8.lt_iff_toNat_lt, UInt8.le_iff_toNat_le, Bool.and_eq_true, decide_eq_true_eq]
  split
  · rename_i small
    refine .inr ⟨Char.ofNat lead.toNat, [], rest, rfl, .one small ?_⟩
    exact toNat_ofNat_of_valid (.inl (Nat.lt_trans small (by decide)))
  split
  · rename_i range
    split
    · split
      · rename_i b back second
        obtain ⟨char, forms⟩ := exists_forms_two range second
        exact .inr ⟨char, [b], back, rfl, forms⟩
      · exact .inl rfl
    · exact .inl rfl
  split
  · rename_i range
    split
    · split
      · split
        · rename_i b c back second third
          obtain ⟨char, forms⟩ := exists_forms_three range second third
          exact .inr ⟨char, [b, c], back, rfl, forms⟩
        · exact .inl rfl
      · exact .inl rfl
    · exact .inl rfl
    · exact .inl rfl
  split
  · rename_i range
    split
    · split
      · split
        · split
          · rename_i b c d back second third fourth
            obtain ⟨char, forms⟩ := exists_forms_four range second third fourth
            exact .inr ⟨char, [b, c, d], back, rfl, forms⟩
          · exact .inl rfl
        · exact .inl rfl
      · exact .inl rfl
    · exact .inl rfl
    · exact .inl rfl
    · exact .inl rfl
  · exact .inl rfl

/-! ## Texts -/

theorem encode_ofList (chars : List Char) :
    encode (String.ofList chars) = chars.flatMap String.utf8EncodeChar := by
  rw [encode, String.toList_ofList]

theorem encode_append (front back : String) : encode (front ++ back) = encode front ++ encode back := by
  simp [encode]

theorem encode_length_le (text : String) : (encode text).length ≤ 4 * text.toList.length := by
  rw [encode]
  induction text.toList with
  | nil => simp
  | cons char chars ih =>
      have four : (String.utf8EncodeChar char).length ≤ 4 := by
        rw [String.length_utf8EncodeChar]
        exact char.utf8Size_le_four
      rw [List.flatMap_cons, List.length_append, List.length_cons]
      omega

theorem decodeOnto_eq (decoded : List Char) (bytes : Bytes) :
    decodeOnto decoded bytes = decodeOnto [] bytes ++ decoded := by
  suffices split : ∀ front back, decodeOnto (front ++ back) bytes = decodeOnto front bytes ++ back from
    split [] decoded
  intro front back
  fun_induction decodeOnto front bytes with
  | case1 front => rw [decodeOnto]
  | case2 front lead rest char used begun ih =>
      rw [decodeOnto, begun]
      exact ih

theorem decode_nil : (decode []).toList = [] := by
  rw [decode, decodeOnto, String.toList_ofList, List.reverse_nil]

theorem decode_cons (lead : UInt8) (rest : Bytes) :
    (decode (lead :: rest)).toList =
      (first lead rest).1 :: (decode (rest.drop (first lead rest).2)).toList := by
  rw [decode, String.toList_ofList, decodeOnto]
  change (decodeOnto [(first lead rest).1] (rest.drop (first lead rest).2)).reverse = _
  rw [decodeOnto_eq, List.reverse_append, decode, String.toList_ofList]
  rfl

theorem decode_forms {char : Char} {lead : UInt8} {tail : Bytes} (forms : Forms char lead tail)
    (rest : Bytes) : (decode (lead :: tail ++ rest)).toList = char :: (decode rest).toList := by
  rw [List.cons_append, decode_cons, forms.first, List.drop_left]

/-- What was encoded is decoded, whatever comes behind it. -/
theorem decode_encode_append (text : String) (rest : Bytes) :
    (decode (encode text ++ rest)).toList = text.toList ++ (decode rest).toList := by
  rw [encode]
  induction text.toList with
  | nil => rfl
  | cons char chars ih =>
      obtain ⟨lead, tail, forms⟩ := exists_forms char
      rw [List.flatMap_cons, List.append_assoc, forms.encodeChar, decode_forms forms, ih,
        List.cons_append]

/-- A text is read back from its bytes. -/
theorem decode_encode (text : String) : decode (encode text) = text := by
  have whole := decode_encode_append text []
  rw [List.append_nil, decode_nil, List.append_nil] at whole
  exact String.toList_inj.mp whole

/-- Where nothing is replaced, the bytes are those of the text. -/
theorem encode_decode {bytes : Bytes} (whole : replacement ∉ (decode bytes).toList) :
    encode (decode bytes) = bytes := by
  rw [encode]
  induction length : bytes.length using Nat.strongRecOn generalizing bytes with
  | _ size ih =>
      cases bytes with
      | nil => rw [decode_nil, List.flatMap_nil]
      | cons lead rest =>
          rcases first_cases lead rest with replaced | ⟨char, tail, back, rfl, forms⟩
          · rw [decode_cons, replaced] at whole
            exact absurd List.mem_cons_self whole
          · rw [← List.cons_append, decode_forms forms] at whole ⊢
            rw [List.flatMap_cons, forms.encodeChar,
              ih back.length ?_ (fun later => whole (List.mem_cons_of_mem _ later)) rfl]
            rw [← length, List.length_cons, List.length_append]
            omega

/-- Some byte which begins no character is replaced. -/
theorem decode_stray (rest : Bytes) : (decode (0xFF :: rest)).toList = replacement :: (decode rest).toList := by
  rw [decode_cons]
  rfl

/-- A text with a replacement character is also read from fewer bytes than its own. -/
theorem exists_decode_eq {text : String} (replaced : replacement ∈ text.toList) :
    ∃ bytes, decode bytes = text ∧ bytes.length < (encode text).length := by
  obtain ⟨front, back, split⟩ := List.append_of_mem replaced
  refine ⟨encode (String.ofList front) ++ 0xFF :: encode (String.ofList back), ?_, ?_⟩
  · rw [← String.toList_inj, decode_encode_append, decode_stray, decode_encode, split,
      String.toList_ofList, String.toList_ofList]
  · have three : (String.utf8EncodeChar replacement).length = 3 := by decide
    rw [encode_ofList, encode_ofList, encode, split, List.flatMap_append, List.flatMap_cons]
    simp only [List.length_append, List.length_cons, three]
    omega

/-- A text is read from its own bytes only, exactly if it has no replacement character. -/
theorem decode_injective_iff (text : String) :
    (∀ bytes, decode bytes = text → bytes = encode text) ↔ replacement ∉ text.toList := by
  constructor
  · intro only replaced
    obtain ⟨bytes, read, shorter⟩ := exists_decode_eq replaced
    rw [only bytes read] at shorter
    exact Nat.lt_irrefl _ shorter
  · rintro whole bytes rfl
    exact (encode_decode whole).symm

/-- Reading bytes as a text makes them at most three times as many. -/
theorem encode_decode_length (bytes : Bytes) :
    (encode (decode bytes)).length ≤ 3 * bytes.length := by
  rw [encode]
  induction length : bytes.length using Nat.strongRecOn generalizing bytes with
  | _ size ih =>
      cases bytes with
      | nil => simp [decode_nil]
      | cons lead rest =>
          rw [List.length_cons] at length
          rcases first_cases lead rest with replaced | ⟨char, tail, back, rfl, forms⟩
          · have three : (String.utf8EncodeChar replacement).length = 3 := by decide
            have fewer : (rest.drop (first lead rest).2).length ≤ rest.length := by simp
            have later := ih _ (by omega) (rest.drop (first lead rest).2) rfl
            rw [decode_cons, replaced, List.flatMap_cons, List.length_append, three]
            omega
          · rw [List.length_append] at length
            have later := ih back.length (by omega) back rfl
            rw [← List.cons_append, decode_forms forms, List.flatMap_cons, forms.encodeChar,
              List.length_append, List.length_cons]
            omega

end Utf8
end Text
end TunnelProxy
