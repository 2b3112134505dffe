import Mathlib.Algebra.Group.Nat.Defs
import Mathlib.Data.List.Induction
import TunnelProxy.Proofs.Text.Utf8
import TunnelProxy.Tunnel.Record

/-!
# Readers and layouts

A reader succeeds on a byte sequence exactly when the sequence begins with the layout of the value,
and it leaves exactly what follows.  Fields compose: the layout of a message is that of its fields
one after another.
-/

namespace TunnelProxy
namespace Wire

/-! ## Numbers in big endian order -/

@[simp] theorem bigEndian_length (width value : Nat) : (bigEndian width value).length = width := by
  induction width generalizing value with
  | zero => rfl
  | succ width ih => simp [bigEndian, ih]

theorem ofBigEndian_concat (bytes : Bytes) (byte : UInt8) :
    ofBigEndian (bytes ++ [byte]) = ofBigEndian bytes * 256 + byte.toNat := by
  simp [ofBigEndian, List.foldl_append]

theorem ofBigEndian_lt (bytes : Bytes) : ofBigEndian bytes < 256 ^ bytes.length := by
  induction bytes using List.reverseRecOn with
  | nil => simp [ofBigEndian]
  | append_singleton bytes byte ih =>
      have byte_lt := byte.toNat_lt
      rw [ofBigEndian_concat, List.length_append, List.length_singleton, Nat.pow_succ]
      omega

theorem ofBigEndian_bigEndian (width value : Nat) (fits : value < 256 ^ width) :
    ofBigEndian (bigEndian width value) = value := by
  induction width generalizing value with
  | zero =>
      have : value = 0 := by simpa using fits
      simp [bigEndian, ofBigEndian, this]
  | succ width ih =>
      have quotient_fits : value / 256 < 256 ^ width := by
        rw [Nat.pow_succ] at fits
        omega
      rw [bigEndian, ofBigEndian_concat, ih _ quotient_fits, UInt8.toNat_ofNat']
      omega

theorem bigEndian_ofBigEndian (bytes : Bytes) :
    bigEndian bytes.length (ofBigEndian bytes) = bytes := by
  induction bytes using List.reverseRecOn with
  | nil => rfl
  | append_singleton bytes byte ih =>
      have byte_lt := byte.toNat_lt
      have quotient : (ofBigEndian bytes * 256 + byte.toNat) / 256 = ofBigEndian bytes := by omega
      have last : UInt8.ofNat (ofBigEndian bytes * 256 + byte.toNat) = byte := by
        apply UInt8.toNat_inj.mp
        rw [UInt8.toNat_ofNat']
        omega
      rw [ofBigEndian_concat, List.length_append, List.length_singleton, bigEndian, quotient, last,
        ih]

@[simp] theorem word16_length (value : UInt16) : (word16 value).length = 2 := bigEndian_length ..

@[simp] theorem word64_length (value : UInt64) : (word64 value).length = 8 := bigEndian_length ..

theorem ofBigEndian_word16 (value : UInt16) : ofBigEndian (word16 value) = value.toNat :=
  ofBigEndian_bigEndian _ _ value.toNat_lt

theorem ofBigEndian_word64 (value : UInt64) : ofBigEndian (word64 value) = value.toNat :=
  ofBigEndian_bigEndian _ _ value.toNat_lt

theorem word16_ofBigEndian {bytes : Bytes} (two : bytes.length = 2) :
    word16 (UInt16.ofNat (ofBigEndian bytes)) = bytes := by
  have fits : ofBigEndian bytes < 2 ^ 16 := by
    have := ofBigEndian_lt bytes
    rw [two] at this
    exact this
  rw [word16, UInt16.toNat_ofNat', Nat.mod_eq_of_lt fits, ← two, bigEndian_ofBigEndian]

theorem word64_ofBigEndian {bytes : Bytes} (eight : bytes.length = 8) :
    word64 (UInt64.ofNat (ofBigEndian bytes)) = bytes := by
  have fits : ofBigEndian bytes < 2 ^ 64 := by
    have := ofBigEndian_lt bytes
    rw [eight] at this
    exact this
  rw [word64, UInt64.toNat_ofNat', Nat.mod_eq_of_lt fits, ← eight, bigEndian_ofBigEndian]

/-! ## Fields with a length -/

theorem length_le_of_short {bytes layout : Bytes} (written : short bytes = .ok layout) :
    bytes.length ≤ 0xFF := by
  rw [short] at written
  split at written
  · assumption
  · cases written

theorem long_eq_ok_iff (bytes : Bytes) :
    (∃ layout, long bytes = .ok layout) ↔ bytes.length ≤ 0xFFFF := by
  rw [long]
  split <;> simp_all

/-! ## Running readers -/

namespace Reader

variable {α β : Type}

@[simp] theorem run_pure (value : α) (input : Bytes) :
    (pure value : Reader α).run input = (.ok value, input) := rfl

@[simp] theorem run_fail (error : Error) (input : Bytes) :
    (fail error : Reader α).run input = (.error error, input) := rfl

/-- Reading one thing after another goes on where the first one ended. -/
theorem run_bind (reader : Reader α) (next : α → Reader β) (input : Bytes) :
    (reader >>= next).run input =
      match reader.run input with
      | (.ok value, rest) => (next value).run rest
      | (.error error, rest) => (.error error, rest) := by
  change (reader.bind next).run input = _
  induction reader generalizing input with
  | done value => rfl
  | fail error => rfl
  | take count following ih =>
      simp only [bind, run]
      split
      · exact ih _ _
      · rfl

theorem run_bind_ok_iff (reader : Reader α) (next : α → Reader β) (input rest : Bytes) (result : β) :
    (reader >>= next).run input = (.ok result, rest) ↔
      ∃ value middle, reader.run input = (.ok value, middle) ∧
        (next value).run middle = (.ok result, rest) := by
  rw [run_bind]
  constructor
  · intro read
    cases taken : reader.run input with
    | mk outcome middle =>
        rw [taken] at read
        cases outcome with
        | error error => simp at read
        | ok value => exact ⟨value, middle, rfl, read⟩
  · rintro ⟨value, middle, read, next_read⟩
    simpa only [read] using next_read

/-- What a reader reads does not depend on what comes after that. -/
theorem run_append {reader : Reader α} {input rest : Bytes} {value : α}
    (read : reader.run input = (.ok value, rest)) (more : Bytes) :
    reader.run (input ++ more) = (.ok value, rest ++ more) := by
  induction reader generalizing input with
  | done value =>
      cases read
      rfl
  | fail error => cases read
  | take count next ih =>
      rw [run] at read ⊢
      split at read
      · rename_i enough
        rw [if_pos (by rw [List.length_append]; omega), List.take_append_of_le_length enough,
          List.drop_append_of_le_length enough]
        exact ih _ read
      · cases read

theorem run_ofExcept_iff (outcome : Except Error α) (input rest : Bytes) (value : α) :
    (ofExcept outcome).run input = (.ok value, rest) ↔ outcome = .ok value ∧ input = rest := by
  cases outcome <;> simp [ofExcept, run]

/-- Taking bytes succeeds exactly on sequences which begin with so many. -/
theorem run_bytes_iff (count : Nat) (input bytes rest : Bytes) :
    (Reader.bytes count).run input = (.ok bytes, rest) ↔
      bytes.length = count ∧ input = bytes ++ rest := by
  simp only [Reader.bytes, run]
  constructor
  · intro taken
    split at taken
    · rename_i enough
      simp only [Prod.mk.injEq, Except.ok.injEq] at taken
      obtain ⟨rfl, rfl⟩ := taken
      exact ⟨List.length_take_of_le enough, (List.take_append_drop ..).symm⟩
    · simp at taken
  · rintro ⟨rfl, rfl⟩
    simp

theorem run_byte_iff (input rest : Bytes) (byte : UInt8) :
    Reader.byte.run input = (.ok byte, rest) ↔ input = byte :: rest := by
  cases input with
  | nil => simp [Reader.byte, run]
  | cons first tail => simp [Reader.byte, run]

theorem run_word16_iff (input rest : Bytes) (value : UInt16) :
    Reader.word16.run input = (.ok value, rest) ↔ input = Wire.word16 value ++ rest := by
  simp only [Reader.word16, run]
  constructor
  · intro taken
    split at taken
    · rename_i enough
      simp only [Prod.mk.injEq, Except.ok.injEq] at taken
      obtain ⟨rfl, rfl⟩ := taken
      rw [word16_ofBigEndian (List.length_take_of_le enough), List.take_append_drop]
    · simp at taken
  · rintro rfl
    have front : (Wire.word16 value ++ rest).take 2 = Wire.word16 value := List.take_left' (by simp)
    have back : (Wire.word16 value ++ rest).drop 2 = rest := List.drop_left' (by simp)
    rw [if_pos (by simp), front, back, ofBigEndian_word16]
    simp

theorem run_word64_iff (input rest : Bytes) (value : UInt64) :
    Reader.word64.run input = (.ok value, rest) ↔ input = Wire.word64 value ++ rest := by
  simp only [Reader.word64, run]
  constructor
  · intro taken
    split at taken
    · rename_i enough
      simp only [Prod.mk.injEq, Except.ok.injEq] at taken
      obtain ⟨rfl, rfl⟩ := taken
      rw [word64_ofBigEndian (List.length_take_of_le enough), List.take_append_drop]
    · simp at taken
  · rintro rfl
    have front : (Wire.word64 value ++ rest).take 8 = Wire.word64 value := List.take_left' (by simp)
    have back : (Wire.word64 value ++ rest).drop 8 = rest := List.drop_left' (by simp)
    rw [if_pos (by simp), front, back, ofBigEndian_word64]
    simp

/-- A field with a length of two bytes is read exactly from its layout. -/
theorem run_long_iff (input rest bytes : Bytes) :
    Reader.long.run input = (.ok bytes, rest) ↔
      ∃ layout, Wire.long bytes = .ok layout ∧ input = layout ++ rest := by
  simp only [Reader.long, run_bind_ok_iff, run_word16_iff, run_bytes_iff, Wire.long]
  constructor
  · rintro ⟨count, middle, rfl, length, rfl⟩
    have short : bytes.length ≤ 0xFFFF := by
      have := count.toNat_lt
      omega
    refine ⟨Wire.word16 count ++ bytes, ?_, by simp⟩
    rw [if_pos short, length, UInt16.ofNat_toNat]
  · rintro ⟨layout, written, rfl⟩
    split at written
    · rename_i short
      simp only [Except.ok.injEq] at written
      subst layout
      refine ⟨UInt16.ofNat bytes.length, bytes ++ rest, by simp, ?_, rfl⟩
      rw [UInt16.toNat_ofNat', Nat.mod_eq_of_lt (by omega)]
    · simp at written

/-- A field with a length of one byte is read exactly from its layout. -/
theorem run_short_iff (input rest bytes : Bytes) :
    Reader.short.run input = (.ok bytes, rest) ↔
      ∃ layout, Wire.short bytes = .ok layout ∧ input = layout ++ rest := by
  simp only [Reader.short, run_bind_ok_iff, run_byte_iff, run_bytes_iff, Wire.short]
  constructor
  · rintro ⟨count, middle, rfl, length, rfl⟩
    have short : bytes.length ≤ 0xFF := by
      have := count.toNat_lt
      omega
    refine ⟨count :: bytes, ?_, by simp⟩
    rw [if_pos short, length, UInt8.ofNat_toNat]
  · rintro ⟨layout, written, rfl⟩
    split at written
    · rename_i short
      simp only [Except.ok.injEq] at written
      subst layout
      refine ⟨UInt8.ofNat bytes.length, bytes ++ rest, by simp, ?_, rfl⟩
      rw [UInt8.toNat_ofNat', Nat.mod_eq_of_lt (by omega)]
    · simp at written

theorem run_bool_iff (input rest : Bytes) (value : Bool) :
    Reader.bool.run input = (.ok value, rest) ↔ input = Wire.bool value ++ rest := by
  simp only [Reader.bool, run_bind_ok_iff, run_byte_iff]
  constructor
  · rintro ⟨code, middle, rfl, read⟩
    split at read
    · rename_i zero
      cases read
      simp [Wire.bool, zero]
    · split at read
      · rename_i one
        cases read
        simp [Wire.bool, one]
      · cases read
  · rintro rfl
    refine ⟨if value then 1 else 0, rest, rfl, ?_⟩
    cases value <;> rfl

/-- A text is read back from its layout. -/
theorem run_longText {text : String} {layout : Bytes}
    (written : Wire.long (Text.Utf8.encode text) = .ok layout) (rest : Bytes) :
    Reader.longText.run (layout ++ rest) = (.ok text, rest) := by
  have read := (run_long_iff (layout ++ rest) rest _).mpr ⟨layout, written, rfl⟩
  rw [longText, run_bind, read]
  simp [Text.Utf8.decode_encode]

end Reader
end Wire

namespace Tunnel

open Wire (Reader)

theorem run_rate_iff (input rest : Bytes) (value : Rate) :
    rate.run input = (.ok value, rest) ↔ input = rateLayout value ++ rest := by
  simp only [rate, Reader.run_bind_ok_iff, Reader.run_word64_iff, Reader.run_pure, rateLayout]
  constructor
  · rintro ⟨send, middle, rfl, recv, final, rfl, read⟩
    simp only [Prod.mk.injEq, Except.ok.injEq] at read
    obtain ⟨rfl, rfl⟩ := read
    simp
  · rintro rfl
    exact ⟨value.send, _, by rw [List.append_assoc], value.recv, rest, rfl, rfl⟩

/-- A client's greeting is read exactly from its layout. -/
theorem ClientHello.run_reader_iff (input rest : Bytes) (hello : ClientHello) :
    ClientHello.reader.run input = (.ok hello, rest) ↔
      ∃ layout, hello.layout = .ok layout ∧ input = layout ++ rest := by
  simp only [ClientHello.reader, Reader.run_bind_ok_iff, Reader.run_byte_iff]
  constructor
  · rintro ⟨code, middle, rfl, read⟩
    split at read
    · rename_i known
      subst known
      simp only [Reader.run_bind_ok_iff, run_rate_iff, Reader.run_long_iff, Reader.run_pure] at read
      obtain ⟨rate, afterRate, rfl, token, final, ⟨field, written, rfl⟩, equal⟩ := read
      simp only [Prod.mk.injEq, Except.ok.injEq] at equal
      obtain ⟨rfl, rfl⟩ := equal
      refine ⟨version :: rateLayout rate ++ field, ?_, by simp⟩
      simp [ClientHello.layout, written]
    · simp at read
  · rintro ⟨layout, written, rfl⟩
    cases token : Wire.long hello.token with
    | error error => simp [ClientHello.layout, token, bind, Except.bind] at written
    | ok field =>
        simp only [ClientHello.layout, token, bind, Except.bind, pure, Except.pure,
          Except.ok.injEq] at written
        subst layout
        refine ⟨version, rateLayout hello.rate ++ field ++ rest, by simp, ?_⟩
        simp only [if_true, Reader.run_bind_ok_iff, run_rate_iff, Reader.run_long_iff]
        exact ⟨hello.rate, field ++ rest, by simp, hello.token, rest, ⟨field, token, rfl⟩, rfl⟩

theorem StreamRequest.layout_eq_ok_iff (request : StreamRequest) (layout : Bytes) :
    request.layout = .ok layout ↔
      ∃ field, Wire.long (Text.Utf8.encode request.address) = .ok field ∧
        layout = Wire.bool request.datagrams ++ field := by
  rw [StreamRequest.layout]
  cases Wire.long (Text.Utf8.encode request.address) <;>
    simp [bind, Except.bind, pure, Except.pure, eq_comm]

/-- A stream request is read back from its layout. -/
theorem StreamRequest.run_layout {request : StreamRequest} {layout : Bytes}
    (written : request.layout = .ok layout) (rest : Bytes) :
    StreamRequest.reader.run (layout ++ rest) = (.ok request, rest) := by
  obtain ⟨field, address, rfl⟩ := (layout_eq_ok_iff ..).mp written
  have flag := (Reader.run_bool_iff (Wire.bool request.datagrams ++ (field ++ rest)) _ _).mpr rfl
  rw [reader, Reader.run_bind, List.append_assoc, flag]
  simp [Reader.run_bind, Reader.run_longText address]

theorem ServerHello.layout_eq_ok_iff (hello : ServerHello) (layout : Bytes) :
    hello.layout = .ok layout ↔
      ∃ field, Wire.long (Text.Utf8.encode hello.message) = .ok field ∧
        layout = Wire.bool hello.accepted ++ rateLayout hello.rate ++ field := by
  rw [ServerHello.layout]
  cases Wire.long (Text.Utf8.encode hello.message) <;>
    simp [bind, Except.bind, pure, Except.pure, eq_comm]

/-- A server's greeting is read back from its layout. -/
theorem ServerHello.run_layout {hello : ServerHello} {layout : Bytes}
    (written : hello.layout = .ok layout) (rest : Bytes) :
    ServerHello.reader.run (layout ++ rest) = (.ok hello, rest) := by
  obtain ⟨field, message, rfl⟩ := (layout_eq_ok_iff ..).mp written
  have flag := (Reader.run_bool_iff (Wire.bool hello.accepted ++ (rateLayout hello.rate ++
    (field ++ rest))) _ _).mpr rfl
  have rates := (run_rate_iff (rateLayout hello.rate ++ (field ++ rest)) _ _).mpr rfl
  rw [reader, Reader.run_bind, List.append_assoc, List.append_assoc, flag]
  simp [Reader.run_bind, rates, Reader.run_longText message]

end Tunnel
end TunnelProxy
