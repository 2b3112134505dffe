import TunnelProxy.Proofs.Mux.Transmission

/-!
# Reads and writes of endpoints

A read takes its bytes from the front of those which have arrived, and no more than it asks for.  A
write appends the front of the bytes which it is offered, as many as it tells.
-/

namespace TunnelProxy

namespace Endpoint

/-! ## Bounds -/

theorem length_readFrom_le {written count : Nat} {arrivals rest : List Arrival}
    {bytes : Bytes} (read : readFrom written count arrivals = some (.ok bytes, rest)) :
    bytes.length ≤ count := by
  induction arrivals with
  | nil =>
      cases read
      exact Nat.zero_le _
  | cons arrival arrivals ih =>
      cases arrival with
      | data bytes =>
          cases bytes with
          | nil => exact ih read
          | cons byte bytes =>
              cases read
              exact List.length_take_le ..
      | await needed =>
          rw [readFrom] at read
          split at read
          · exact ih read
          · cases read
      | fail kind => cases read
      | endOfStream =>
          cases read
          exact Nat.zero_le _
      | silence => cases read

theorem length_read_le {endpoint after : Endpoint} {count : Nat} {bytes : Bytes}
    (read : endpoint.read count = some (.ok bytes, after)) : bytes.length ≤ count := by
  rw [Endpoint.read] at read
  split at read
  · cases read
    exact Nat.zero_le _
  · obtain ⟨⟨result, rest⟩, found, same⟩ := Option.map_eq_some_iff.mp read
    cases same
    exact length_readFrom_le found

theorem write_le {endpoint : Endpoint} {bytes : Bytes} {count : Nat}
    (wrote : (endpoint.write bytes).1 = .ok count) : count ≤ bytes.length := by
  rw [Endpoint.write] at wrote
  split at wrote
  · cases wrote
  · rename_i bound _
    cases wrote
    cases bound with
    | none => exact Nat.le_refl _
    | some most => exact List.length_take_le' ..

/-! ## Bytes which have arrived and have not been read -/

/-- The bytes among arrivals. -/
def unread : List Arrival → Bytes
  | [] => []
  | .data bytes :: rest => bytes ++ unread rest
  | _ :: rest => unread rest

@[simp] theorem unread_nil : unread [] = [] := rfl

@[simp] theorem unread_data (bytes : Bytes) (rest : List Arrival) :
    unread (.data bytes :: rest) = bytes ++ unread rest := rfl

/-- A read meets the bytes in front as far as it asks for them. -/
theorem readFrom_data {bytes : Bytes} (nonempty : bytes ≠ []) (written count : Nat)
    (rest : List Arrival) :
    readFrom written count (.data bytes :: rest) =
      some (.ok (bytes.take count), .data (bytes.drop count) :: rest) := by
  cases bytes with
  | nil => contradiction
  | cons byte bytes => rfl

theorem unread_append (first second : List Arrival) :
    unread (first ++ second) = unread first ++ unread second := by
  induction first with
  | nil => rfl
  | cons arrival rest ih => cases arrival <;> simp [unread, ih]

/-- The bytes which a read gives. -/
def bytesOf : Except IoError Bytes → Bytes
  | .ok bytes => bytes
  | .error _ => []

/-- A read takes its bytes from the front of those which have arrived. -/
theorem unread_of_readFrom {written count : Nat} {arrivals rest : List Arrival}
    {result : Except IoError Bytes}
    (reads : readFrom written count arrivals = some (result, rest)) :
    unread arrivals = bytesOf result ++ unread rest := by
  fun_induction readFrom written count arrivals with
  | case1 =>
      cases reads
      rfl
  | case2 _ ih => exact ih reads
  | case3 byte bytes rest =>
      cases reads
      simp only [bytesOf, unread_data]
      rw [← List.append_assoc, List.take_append_drop]
  | case4 _ _ _ ih => exact ih reads
  | case5 => cases reads
  | case6 =>
      cases reads
      rfl
  | case7 =>
      cases reads
      rfl
  | case8 => cases reads

theorem unread_of_read {endpoint after : Endpoint} {count : Nat} {result : Except IoError Bytes}
    (reads : endpoint.read count = some (result, after)) :
    unread endpoint.arrivals = bytesOf result ++ unread after.arrivals := by
  rw [read] at reads
  split at reads
  · cases reads
    rfl
  · obtain ⟨⟨answer, rest⟩, found, outcome⟩ := Option.map_eq_some_iff.mp reads
    cases outcome
    exact unread_of_readFrom found

/-- Reading writes nothing. -/
theorem written_of_read {endpoint after : Endpoint} {count : Nat} {result : Except IoError Bytes}
    (reads : endpoint.read count = some (result, after)) : after.written = endpoint.written := by
  rw [read] at reads
  split at reads
  · cases reads
    rfl
  · obtain ⟨_, _, outcome⟩ := Option.map_eq_some_iff.mp reads
    cases outcome
    rfl

/-- The number of bytes which a write takes. -/
def countOf : Except IoError Nat → Nat
  | .ok count => count
  | .error _ => 0

/-- A write adds the front of what it is offered, as much as it tells; a failed one adds nothing. -/
theorem written_write (endpoint : Endpoint) (bytes : Bytes) :
    (endpoint.write bytes).2.written =
      endpoint.written ++ bytes.take (countOf (endpoint.write bytes).1) := by
  cases space : endpoint.room with
  | error error => simp [write, space, countOf]
  | ok bound =>
      cases bound with
      | none => simp [write, space, countOf, written_remember]
      | some count =>
          simp [write, space, countOf, written_remember, List.take_eq_take_min.symm]

theorem arrivals_write (endpoint : Endpoint) (bytes : Bytes) :
    (endpoint.write bytes).2.arrivals = endpoint.arrivals := by
  cases space : endpoint.room <;> simp [write, space, remember]

end Endpoint

end TunnelProxy
