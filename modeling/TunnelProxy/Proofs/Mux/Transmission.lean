import TunnelProxy.Mux.Session
import TunnelProxy.Proofs.Wire.Layout

/-!
# Writing to the connection of a session

A connection takes the bytes of a frame in order, perhaps only some of them.  If it does not take all
of them after having taken some, it never takes any again, so that no frame follows a part of another
one.
-/

namespace TunnelProxy

/-! ## Keystreams -/

namespace Keystream

variable (stream : Keystream) (position : Nat) (bytes : Bytes)

@[simp] theorem apply_length : (stream.apply position bytes).length = bytes.length := by
  simp [apply]

theorem apply_append (first second : Bytes) :
    stream.apply position (first ++ second) =
      stream.apply position first ++ stream.apply (position + first.length) second := by
  simp [apply, List.zipIdx_append]

theorem apply_take (count : Nat) :
    stream.apply position (bytes.take count) = (stream.apply position bytes).take count := by
  by_cases enough : count ≤ bytes.length
  · conv_rhs => rw [← List.take_append_drop count bytes, apply_append]
    exact (List.take_left' (by simp [enough])).symm
  · have long : bytes.length ≤ count := by omega
    rw [List.take_of_length_le long, List.take_of_length_le (by rwa [apply_length])]

/-- A second application at the same position undoes the first. -/
theorem apply_apply : stream.apply position (stream.apply position bytes) = bytes := by
  induction bytes generalizing position with
  | nil => rfl
  | cons byte bytes ih =>
      have head_tail (byte : UInt8) (bytes : Bytes) : stream.apply position (byte :: bytes) =
          (byte ^^^ stream.byte position) :: stream.apply (position + 1) bytes := by
        simp [apply, List.zipIdx_cons]
      rw [head_tail, head_tail, ih, UInt8.xor_assoc, UInt8.xor_self, UInt8.xor_zero]

end Keystream

/-- Bytes as they are on a connection which may be obfuscated. -/
def veil (keystream : Option Keystream) (position : Nat) (bytes : Bytes) : Bytes :=
  match keystream with
  | none => bytes
  | some stream => stream.apply position bytes

section Veil

variable (keystream : Option Keystream) (position : Nat) (bytes : Bytes)

@[simp] theorem veil_length : (veil keystream position bytes).length = bytes.length := by
  cases keystream <;> simp [veil]

theorem veil_append (first second : Bytes) :
    veil keystream position (first ++ second) =
      veil keystream position first ++ veil keystream (position + first.length) second := by
  cases keystream with
  | none => rfl
  | some stream => exact stream.apply_append position first second

theorem veil_take (count : Nat) :
    veil keystream position (bytes.take count) = (veil keystream position bytes).take count := by
  cases keystream with
  | none => rfl
  | some stream => exact stream.apply_take position bytes count

end Veil

/-! ## Endpoints without room -/

namespace Endpoint

variable {endpoint : Endpoint}

/-- No write takes any byte any more. -/
def Jammed (endpoint : Endpoint) : Prop :=
  ∀ bound, endpoint.room = .ok bound → bound = some 0

theorem written_remember (bytes : Bytes) :
    (endpoint.remember bytes).written = endpoint.written ++ bytes := by
  simp [written, remember]

theorem jammed_of_closed (closed : endpoint.isClosed = true) : endpoint.Jammed := by
  intro bound free
  simp [room, closed] at free

/-- The connection breaks and takes only so many bytes more, unless that has happened before. -/
def sever (endpoint : Endpoint) (count : Nat) (kind : IoKind) : Endpoint :=
  { endpoint with
    writeFailure := endpoint.writeFailure.or (some (endpoint.writtenCount + count, kind)) }

theorem Jammed.sever (jammed : endpoint.Jammed) (count : Nat) (kind : IoKind) :
    (endpoint.sever count kind).Jammed := by
  cases failure : endpoint.writeFailure with
  | some failing =>
      have same : endpoint.sever count kind = endpoint := by
        rw [Endpoint.sever, failure, Option.some_or, ← failure]
      rwa [same]
  | none =>
      intro bound free
      simp only [room, Endpoint.sever, failure, Option.none_or] at free
      split at free
      · cases free
      · rename_i open_still
        have open_before : ¬endpoint.isClosed = true := open_still
        have no_room : endpoint.cap = some 0 := by
          refine jammed _ ?_
          rw [room, if_neg open_before, failure]
        split at free
        · cases free
        · rw [no_room] at free
          simpa using (Except.ok.inj free).symm

end Endpoint

/-! ## Writing bytes completely -/

section Sending

variable {State : Type} (link : State → Endpoint) (keystream : Option Keystream)
  (keep : State → Prop)

/-- What a single write does: it takes some bytes from the front, or there is no room. -/
inductive Takes (before : State) (bytes : Bytes) : Except IoError Nat × State → Prop
  /-- Some bytes are taken. -/
  | some (count : Nat) (after : State) (free : ¬(link before).Jammed) (positive : 0 < count)
      (bound : count ≤ bytes.length) (keeps : keep after)
      (written : veil keystream 0 (link after).written =
        veil keystream 0 (link before).written ++ bytes.take count) :
      Takes before bytes (.ok count, after)
  /-- No byte is taken, and none will ever be. -/
  | nothing (result : Except IoError Nat) (after : State)
      (none_taken : ∀ count, result = .ok count → count = 0) (jammed : (link after).Jammed)
      (keeps : keep after) (written : (link after).written = (link before).written) :
      Takes before bytes (result, after)

/-- What writing bytes as far as possible does. -/
inductive Sends (before : State) (bytes : Bytes) : Except IoError Unit → State → Prop
  /-- All bytes are taken. -/
  | all (after : State) (keeps : keep after) (free : bytes ≠ [] → ¬(link before).Jammed)
      (written : veil keystream 0 (link after).written =
        veil keystream 0 (link before).written ++ bytes) :
      Sends before bytes (.ok ()) after
  /-- Only the front of the bytes is taken, and no byte will ever be taken after it. -/
  | part (error : IoError) (after : State) (front back : Bytes) (keeps : keep after)
      (cut : bytes = front ++ back) (missing : back ≠ [])
      (jammed : (link after).Jammed) (nothing : (link before).Jammed → front = [])
      (written : veil keystream 0 (link after).written =
        veil keystream 0 (link before).written ++ front) :
      Sends before bytes (.error error) after

variable {link keystream keep}

theorem Sends.keeps {before after : State} {bytes : Bytes} {result : Except IoError Unit}
    (sends : Sends link keystream keep before bytes result after) : keep after := by
  cases sends <;> assumption

theorem Sends.after_nothing {before after : State} {bytes : Bytes} (error : IoError)
    (nonempty : bytes ≠ []) (jammed : (link after).Jammed) (keeps : keep after)
    (written : (link after).written = (link before).written) :
    Sends link keystream keep before bytes (.error error) after :=
  .part _ _ [] bytes keeps rfl nonempty jammed (fun _ => rfl) (by rw [written, List.append_nil])

/-- Bytes which are written after others follow them. -/
theorem Sends.after_some {before middle after : State} {bytes : Bytes} {count : Nat}
    {result : Except IoError Unit} (free : ¬(link before).Jammed)
    (written : veil keystream 0 (link middle).written =
      veil keystream 0 (link before).written ++ bytes.take count)
    (sends : Sends link keystream keep middle (bytes.drop count) result after) :
    Sends link keystream keep before bytes result after := by
  cases sends with
  | all _ keeps _ rest =>
      refine .all _ keeps (fun _ => free) ?_
      rw [rest, written, List.append_assoc, List.take_append_drop]
  | part error _ front back keeps cut missing jammed nothing rest =>
      refine .part _ _ (bytes.take count ++ front) back keeps ?_ missing jammed (absurd · free) ?_
      · rw [List.append_assoc, ← cut, List.take_append_drop]
      · rw [rest, written, List.append_assoc]

/-- Writing completely is made of single writes. -/
theorem sends_of_takes {write : State → Bytes → Except IoError Nat × State}
    (takes : ∀ state bytes, bytes ≠ [] → keep state →
      Takes link keystream keep state bytes (write state bytes))
    {before after : State} {bytes : Bytes} {result : Except IoError Unit} (kept : keep before)
    (sent : sendAll write before bytes = some (result, after)) :
    Sends link keystream keep before bytes result after := by
  -- Every write which takes something leaves fewer bytes.
  induction size : bytes.length using Nat.strongRecOn generalizing before bytes with
  | _ length ih =>
      rw [sendAll] at sent
      split at sent
      · rename_i empty
        cases sent
        subst empty
        exact .all _ kept (absurd rfl) (List.append_nil _).symm
      · rename_i nonempty
        have one := takes before bytes nonempty kept
        split at sent
        · rename_i error middle wrote
          rw [wrote] at one
          split at sent
          · cases sent
          · cases sent
            cases one with
            | nothing _ _ _ jammed keeps written =>
                exact .after_nothing error nonempty jammed keeps written
        · rename_i count middle wrote
          rw [wrote] at one
          split at sent
          · rename_i positive
            cases one with
            | nothing _ _ none_taken => exact absurd (none_taken count rfl) (by omega)
            | some _ _ free _ bound keeps written =>
                have shorter : (bytes.drop count).length < length := by
                  rw [List.length_drop]
                  omega
                exact .after_some free written (ih _ shorter keeps sent rfl)
          · cases sent
            cases one with
            | some _ _ _ positive => contradiction
            | nothing _ _ _ jammed keeps written =>
                exact .after_nothing .stuck nonempty jammed keeps written

end Sending

theorem Endpoint.takes (endpoint : Endpoint) {bytes : Bytes} (nonempty : bytes ≠ []) :
    Takes (fun endpoint => endpoint) none (fun _ => True) endpoint bytes (endpoint.write bytes) := by
  have bytes_pos := List.length_pos_iff.mpr nonempty
  cases space : endpoint.room with
  | error error =>
      simp only [write, space]
      exact .nothing _ _ (by simp) (by simp [Jammed, space]) trivial rfl
  | ok bound =>
      have free (more : bound ≠ some 0) : ¬endpoint.Jammed := fun jammed => more (jammed bound space)
      cases bound with
      | none =>
          simp only [write, space]
          refine .some _ _ (free (by simp)) bytes_pos (Nat.le_refl _) trivial ?_
          rw [List.take_length]
          exact written_remember bytes
      | some count =>
          simp only [write, space]
          by_cases zero : count = 0
          · subst zero
            have jammed : endpoint.Jammed := by
              intro bound room
              rw [space] at room
              exact (Except.ok.inj room).symm
            refine .nothing _ _ (by simp) jammed trivial ?_
            exact (written_remember []).trans (List.append_nil _)
          · have size : (bytes.take count).length = min count bytes.length := List.length_take
            refine .some _ _ (free (by simpa using zero)) (by omega) (by omega) trivial ?_
            rw [size, ← List.take_eq_take_min]
            exact written_remember _

namespace ObfuscatedStream

/-- An obfuscated stream which is where its endpoint is. -/
def Aligned (keystream : Keystream) (readPosition : Nat) (state : ObfuscatedStream × Endpoint) :
    Prop :=
  state.1 = { keystream, readPosition, writePosition := state.2.written.length }

theorem takes {keystream : Keystream} {readPosition : Nat} {state : ObfuscatedStream × Endpoint}
    {bytes : Bytes} (nonempty : bytes ≠ []) (aligned : Aligned keystream readPosition state) :
    Takes Prod.snd (some keystream) (Aligned keystream readPosition) state bytes
      (write state bytes) := by
  obtain ⟨stream, endpoint⟩ := state
  have stream_eq : stream = ⟨keystream, readPosition, endpoint.written.length⟩ := aligned
  subst stream_eq
  have hidden_nonempty : keystream.apply endpoint.written.length bytes ≠ [] := by
    rw [← List.length_pos_iff, Keystream.apply_length]
    exact List.length_pos_iff.mpr nonempty
  have one := endpoint.takes hidden_nonempty
  simp only [write]
  cases wrote : endpoint.write (keystream.apply endpoint.written.length bytes) with
  | mk result after =>
      rw [wrote] at one
      cases one with
      | nothing _ _ none_taken jammed _ written =>
          have same : after.written = endpoint.written := written
          cases result with
          | error error =>
              refine .nothing _ _ (by simp) jammed ?_ same
              simp only [Aligned, same]
          | ok count =>
              obtain rfl : count = 0 := none_taken count rfl
              refine .nothing _ _ none_taken jammed ?_ same
              simp only [Aligned, same, Nat.add_zero]
      | some count _ free positive bound _ written =>
          rw [Keystream.apply_length] at bound
          have more : after.written = endpoint.written ++
              keystream.apply endpoint.written.length (bytes.take count) := by
            rw [Keystream.apply_take]
            exact written
          refine .some _ _ free positive bound ?_ ?_
          · simp only [Aligned, more, List.length_append, Keystream.apply_length,
              List.length_take_of_le bound]
          · simp only [more, veil, Keystream.apply_append, Nat.zero_add, Keystream.apply_apply]

end ObfuscatedStream

/-! ## Frames of a session -/

namespace Mux
namespace Session

/-- The obfuscation of the connection is where the connection is. -/
def Aligned (keystream : Option Keystream) (taken : Nat) (session : Session) : Prop :=
  session.mask = keystream.map fun keystream =>
    { keystream, readPosition := taken, writePosition := session.link.written.length }

/-- The bytes which the other side finds in what was written to the connection. -/
def output (keystream : Option Keystream) (session : Session) : Bytes :=
  veil keystream 0 session.link.written

/-- What writing bytes to the connection of a session does. -/
inductive Transmits (keystream : Option Keystream) (before : Session) (bytes : Bytes) :
    Except IoError Unit → Session → Prop
  /-- All bytes are written. -/
  | all (after : Session) (free : ¬before.link.Jammed)
      (output : after.output keystream = before.output keystream ++ bytes) :
      Transmits keystream before bytes (.ok ()) after
  /-- Only the front of the bytes is written, and nothing will ever follow it. -/
  | part (error : IoError) (after : Session) (front back : Bytes)
      (cut : bytes = front ++ back) (missing : back ≠ [])
      (jammed : front ≠ [] ∨ before.link.Jammed → after.link.Jammed)
      (nothing : before.link.Jammed → front = [])
      (output : after.output keystream = before.output keystream ++ front) :
      Transmits keystream before bytes (.error error) after

/-- Writing changes nothing of a session but its connection. -/
theorem transmit_eq (session : Session) (bytes : Bytes) :
    ∃ link mask, (session.transmit bytes).2 = { session with link, mask } := by
  unfold transmit
  split
  · split
    · exact ⟨_, session.mask, rfl⟩
    · exact ⟨session.link, session.mask, rfl⟩
  · split
    · exact ⟨_, _, rfl⟩
    · exact ⟨session.link, session.mask, rfl⟩

theorem transmits_of_sends {State : Type} {link : State → Endpoint} {keystream : Option Keystream}
    {keep : State → Prop} {first last : State} {bytes : Bytes} {result : Except IoError Unit}
    (sends : Sends link keystream keep first bytes result last) (nonempty : bytes ≠ [])
    {before after : Session} (start : before.link = link first) (stop : after.link = link last) :
    Transmits keystream before bytes result after := by
  cases sends with
  | all _ _ free written =>
      refine .all _ ?_ ?_
      · rw [start]
        exact free nonempty
      · rw [output, output, start, stop, written]
  | part error _ front back _ cut missing jammed nothing written =>
      refine .part _ _ front back cut missing (fun _ => ?_) (fun jammed => ?_) ?_
      · rwa [stop]
      · rw [start] at jammed
        exact nothing jammed
      · rw [output, output, start, stop, written]

/-- Writing to the connection changes nothing but the connection and the position in the keystream,
and it keeps the two together. -/
theorem transmit_spec {keystream : Option Keystream} {taken : Nat} {session : Session}
    (aligned : session.Aligned keystream taken) {bytes : Bytes} (nonempty : bytes ≠ []) :
    ∃ result link mask, session.transmit bytes = (result, { session with link, mask }) ∧
      { session with link, mask }.Aligned keystream taken ∧
      Transmits keystream session bytes result { session with link, mask } := by
  have interrupted : Transmits keystream session bytes (.error (.ofKind .interrupted)) session :=
    .part _ _ [] bytes rfl nonempty (fun jams => jams.resolve_left (absurd rfl)) (fun _ => rfl)
      (List.append_nil _).symm
  cases keystream with
  | none =>
      have unmasked : session.mask = none := aligned
      simp only [transmit, unmasked]
      cases sent : session.link.send bytes with
      | none => exact ⟨_, session.link, session.mask, rfl, aligned, interrupted⟩
      | some outcome =>
          obtain ⟨result, link⟩ := outcome
          have sends := sends_of_takes (fun endpoint _ nonempty _ => endpoint.takes nonempty)
            trivial sent
          exact ⟨result, link, none, rfl, rfl, transmits_of_sends sends nonempty rfl rfl⟩
  | some stream =>
      have masked : session.mask = some ⟨stream, taken, session.link.written.length⟩ := aligned
      simp only [transmit, masked]
      cases sent : ObfuscatedStream.send ⟨stream, taken, session.link.written.length⟩ bytes
          session.link with
      | none => exact ⟨_, session.link, session.mask, rfl, aligned, interrupted⟩
      | some outcome =>
          obtain ⟨result, mask, link⟩ := outcome
          have start : ObfuscatedStream.Aligned stream taken
            (⟨stream, taken, session.link.written.length⟩, session.link) := rfl
          have sends := sends_of_takes (fun _ _ => ObfuscatedStream.takes) start sent
          refine ⟨result, link, some mask, rfl, ?_, transmits_of_sends sends nonempty rfl rfl⟩
          exact congrArg some sends.keeps

end Session
end Mux
end TunnelProxy
