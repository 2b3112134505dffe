import TunnelProxy.Proofs.Stream.Endpoint
import TunnelProxy.Stream.Message

/-!
# Messages in pieces

A message is received alike from all endpoints at which its bytes arrive, whatever the pieces are, and
what follows it stays there.  An endpoint which keeps taking bytes takes all bytes of a message.
-/

namespace TunnelProxy
namespace Endpoint

open Wire (Reader)

/-! ## Receiving -/

/-- Bytes which arrive in pieces, with interrupted reads among them. -/
inductive Pieces : List Arrival → Bytes → Prop
  /-- Nothing arrives. -/
  | nil : Pieces [] []
  /-- A piece arrives before the others. -/
  | data {arrivals : List Arrival} {more : Bytes} (bytes : Bytes) (pieces : Pieces arrivals more) :
      Pieces (.data bytes :: arrivals) (bytes ++ more)
  /-- A read is interrupted before anything else arrives. -/
  | interrupted {arrivals : List Arrival} {bytes : Bytes} (pieces : Pieces arrivals bytes) :
      Pieces (.fail .interrupted :: arrivals) bytes

theorem Pieces.receiveFrom {arrivals : List Arrival} {bytes : Bytes} (pieces : Pieces arrivals bytes)
    (written : Nat) (earlier : List Bytes) {count : Nat} (enough : count ≤ bytes.length)
    (later : List Arrival) :
    ∃ rest, Endpoint.receiveFrom written earlier count (arrivals ++ later) =
        some (.ok (earlier.reverse.flatten ++ bytes.take count), rest ++ later) ∧
      Pieces rest (bytes.drop count) := by
  induction pieces generalizing earlier count with
  | nil =>
      obtain rfl : count = 0 := Nat.le_zero.mp enough
      exact ⟨[], by simp [Endpoint.receiveFrom], .nil⟩
  | @data arrivals more bytes pieces ih =>
      cases count with
      | zero => exact ⟨_, by simp [Endpoint.receiveFrom], .data bytes pieces⟩
      | succ missing =>
          by_cases within : missing + 1 < bytes.length
          · refine ⟨.data (bytes.drop (missing + 1)) :: arrivals, ?_, ?_⟩
            · rw [List.cons_append, Endpoint.receiveFrom, if_pos within,
                List.take_append_of_le_length (Nat.le_of_lt within)]
              simp
            · rw [List.drop_append_of_le_length (Nat.le_of_lt within)]
              exact .data _ pieces
          · have long : bytes.length ≤ missing + 1 := Nat.le_of_not_lt within
            have left : missing + 1 - bytes.length ≤ more.length := by
              rw [List.length_append] at enough
              omega
            obtain ⟨rest, received, remaining⟩ := ih (bytes :: earlier) left
            refine ⟨rest, ?_, ?_⟩
            · rw [List.cons_append, Endpoint.receiveFrom, if_neg within, received,
                List.take_append, List.take_of_length_le long]
              simp
            · rw [List.drop_append, List.drop_of_length_le long]
              exact remaining
  | interrupted pieces ih =>
      cases count with
      | zero => exact ⟨_, by simp [Endpoint.receiveFrom], .interrupted pieces⟩
      | succ missing =>
          rw [List.cons_append, Endpoint.receiveFrom, if_pos rfl]
          exact ih earlier enough

/-- An attempt to gather more bytes than arrive uses up all of them. -/
theorem Pieces.receiveFrom_short {arrivals : List Arrival} {bytes : Bytes}
    (pieces : Pieces arrivals bytes) (written : Nat) (earlier : List Bytes) {count : Nat}
    (short : bytes.length < count) :
    Endpoint.receiveFrom written earlier count arrivals = some (.error .truncated, []) := by
  cases count with
  | zero => exact absurd short (Nat.not_lt_zero _)
  | succ missing =>
      induction pieces generalizing earlier missing with
      | nil => rw [Endpoint.receiveFrom]
      | @data arrivals more bytes pieces ih =>
          rw [List.length_append] at short
          have missing_more : missing + 1 - bytes.length = missing - bytes.length + 1 := by omega
          rw [Endpoint.receiveFrom, if_neg (by omega), missing_more]
          exact ih _ _ (by omega)
      | interrupted pieces ih =>
          rw [Endpoint.receiveFrom, if_pos rfl]
          exact ih earlier missing short

/-- The bytes arrive at an open endpoint, in some pieces, and other things behind them. -/
structure Offers (endpoint : Endpoint) (bytes : Bytes) (later : List Arrival) : Prop where
  /-- The endpoint has not been closed. -/
  isOpen : endpoint.isClosed = false
  /-- The bytes come first. -/
  arrives : ∃ pieces, Pieces pieces bytes ∧ endpoint.arrivals = pieces ++ later

section Receive

variable {endpoint : Endpoint} {bytes : Bytes} {later : List Arrival}

theorem Offers.receive (offers : endpoint.Offers bytes later) {count : Nat}
    (enough : count ≤ bytes.length) :
    ∃ after, endpoint.receive count = some (.ok (bytes.take count), after) ∧
      after.Offers (bytes.drop count) later := by
  obtain ⟨arrivals, pieces, arrives⟩ := offers.arrives
  obtain ⟨rest, received, remaining⟩ :=
    pieces.receiveFrom endpoint.writtenCount [] enough later
  refine ⟨{ endpoint with arrivals := rest ++ later }, ?_, offers.isOpen, rest, remaining, rfl⟩
  rw [Endpoint.receive, if_neg (by simp [offers.isOpen]), arrives, received]
  rfl

theorem Offers.receive_short (offers : endpoint.Offers bytes []) {count : Nat}
    (short : bytes.length < count) :
    ∃ after, endpoint.receive count = some (.error .truncated, after) ∧ after.Offers [] [] := by
  obtain ⟨arrivals, pieces, arrives⟩ := offers.arrives
  refine ⟨{ endpoint with arrivals := [] }, ?_, offers.isOpen, [], .nil, rfl⟩
  rw [Endpoint.receive, if_neg (by simp [offers.isOpen]), arrives, List.append_nil,
    pieces.receiveFrom_short _ [] short]
  rfl

/-- What is read from bytes is received where these bytes arrive, whatever comes behind them, unless it is
told that bytes are missing. -/
theorem Offers.receiveMessage_decided {α : Type} {reader : Reader α} {outcome : Except Error α}
    {rest : Bytes} (offers : endpoint.Offers bytes later) (read : reader.run bytes = (outcome, rest))
    (decided : outcome ≠ .error (.io .truncated)) :
    ∃ after, endpoint.receiveMessage reader = some (outcome, after) ∧ after.Offers rest later := by
  induction reader generalizing endpoint bytes with
  | done result =>
      cases read
      exact ⟨endpoint, rfl, offers⟩
  | fail error =>
      cases read
      exact ⟨endpoint, rfl, offers⟩
  | take count next ih =>
      rw [Reader.run] at read
      split at read
      · rename_i enough
        obtain ⟨middle, received, remaining⟩ := offers.receive enough
        rw [Endpoint.receiveMessage, received]
        exact ih _ remaining read
      · cases read
        exact absurd rfl decided

/-- A message which is read from bytes is received where these bytes arrive, whatever comes behind
them. -/
theorem Offers.receiveMessage {α : Type} {reader : Reader α} {value : α} {rest : Bytes}
    (offers : endpoint.Offers bytes later) (read : reader.run bytes = (.ok value, rest)) :
    ∃ after, endpoint.receiveMessage reader = some (.ok value, after) ∧
      after.Offers rest later :=
  offers.receiveMessage_decided read nofun

/-- Receiving a message at an endpoint where nothing but the bytes arrives is reading it from the
bytes. -/
theorem Offers.receiveMessage_eq {α : Type} (offers : endpoint.Offers bytes [])
    (reader : Reader α) :
    ∃ after, endpoint.receiveMessage reader = some ((reader.run bytes).1, after) ∧
      after.Offers (reader.run bytes).2 [] := by
  induction reader generalizing endpoint bytes with
  | done result => exact ⟨endpoint, rfl, offers⟩
  | fail error => exact ⟨endpoint, rfl, offers⟩
  | take count next ih =>
      rw [Reader.run, Endpoint.receiveMessage]
      by_cases enough : count ≤ bytes.length
      · obtain ⟨middle, received, remaining⟩ := offers.receive enough
        rw [received, if_pos enough]
        exact ih _ remaining
      · obtain ⟨after, failed, nothing⟩ := offers.receive_short (Nat.lt_of_not_le enough)
        rw [failed, if_neg enough]
        exact ⟨after, rfl, nothing⟩

end Receive

/-! ## Sending -/

/-- The endpoint takes at least a byte with each write. -/
structure Willing (endpoint : Endpoint) : Prop where
  /-- The endpoint has not been closed. -/
  isOpen : endpoint.isClosed = false
  /-- Its writes do not begin to fail. -/
  unfailing : endpoint.writeFailure = none
  /-- A write takes something. -/
  room : endpoint.cap ≠ some 0

theorem Willing.write {endpoint : Endpoint} (willing : endpoint.Willing) {bytes : Bytes}
    (nonempty : bytes ≠ []) :
    (endpoint.write bytes).2.Willing ∧
      ∃ count, 0 < count ∧ (endpoint.write bytes).1 = .ok count := by
  have bytes_pos := List.length_pos_iff.mpr nonempty
  have free : endpoint.room = .ok endpoint.cap := by
    simp [Endpoint.room, willing.isOpen, willing.unfailing]
  rw [Endpoint.write, free]
  refine ⟨⟨willing.isOpen, willing.unfailing, willing.room⟩, _, ?_, rfl⟩
  cases cap : endpoint.cap with
  | none => exact bytes_pos
  | some count =>
      have some_room : count ≠ 0 := by
        rintro rfl
        exact willing.room cap
      rw [List.length_take]
      omega

/-- All bytes are written, in one piece or in several. -/
theorem Willing.send {endpoint : Endpoint} (willing : endpoint.Willing) (bytes : Bytes) :
    ∃ after, endpoint.send bytes = some (.ok (), after) ∧
      after.written = endpoint.written ++ bytes := by
  -- Each write leaves fewer bytes.
  induction size : bytes.length using Nat.strongRecOn generalizing endpoint bytes with
  | _ length ih =>
      rw [Endpoint.send, sendAll]
      split
      · rename_i empty
        exact ⟨endpoint, rfl, by rw [empty, List.append_nil]⟩
      · rename_i nonempty
        obtain ⟨willing_still, count, positive, wrote⟩ := willing.write nonempty
        have written := endpoint.written_write bytes
        rw [wrote, countOf] at written
        have shorter : (bytes.drop count).length < length := by
          have bytes_pos := List.length_pos_iff.mpr nonempty
          rw [List.length_drop]
          omega
        obtain ⟨after, sent, rest⟩ := ih _ shorter willing_still (bytes.drop count) rfl
        refine ⟨after, ?_, ?_⟩
        · have one : endpoint.write bytes = (.ok count, (endpoint.write bytes).2) :=
            Prod.ext wrote rfl
          rw [one]
          exact (dif_pos positive).trans sent
        · rw [rest, written, List.append_assoc, List.take_append_drop]

end Endpoint
end TunnelProxy
