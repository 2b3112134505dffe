import TunnelProxy.Proofs.Obfuscation.Mask

/-!
# Obfuscated lines

Two streams at the ends of a line are read, written, split and closed in any order, the line hands
over what one end has written in any pieces, and each operation may fall short or fail.  With
obfuscated streams of one key everything comes out as with plain streams, and only the bytes on the
line differ.
-/

namespace TunnelProxy

/-! ## Lines -/

/-- The ends of a line. -/
inductive Line.End where
  /-- The one end. -/
  | near
  /-- The other end. -/
  | far
  deriving DecidableEq

namespace Line

/-- The other end of the line. -/
def End.other : End → End
  | near => far
  | far => near

/-- How the stream at an end of a line is used. -/
structure Handle (Side : Type) where
  /-- The underlying endpoint. -/
  endpoint : Side → Endpoint
  /-- The stream after something has happened to the underlying endpoint. -/
  replace : Side → Endpoint → Side
  /-- Read at most a number of bytes. -/
  read : Side → Nat → Option (Except IoError Bytes × Side)
  /-- Write once. -/
  write : Side → Bytes → Except IoError Nat × Side
  /-- Make two halves, which are used from then on. -/
  split : Side → Except IoError Unit × Side
  /-- End both directions. -/
  close : Side → Except IoError Unit × Side

/-- Plain streams. -/
def plain : Handle Endpoint where
  endpoint endpoint := endpoint
  replace _ endpoint := endpoint
  read endpoint count := endpoint.read count
  write endpoint bytes := endpoint.write bytes
  split endpoint := (endpoint.split, endpoint)
  close endpoint := endpoint.close

/-- Obfuscated streams. -/
def obfuscated : Handle ObfuscatedEndpoint where
  endpoint side := side.endpoint
  replace side endpoint := { side with endpoint }
  read side count := side.read count
  write side bytes := side.write bytes
  split side := side.split
  close side := side.close

/-- How the operations on an endpoint are going to come out. -/
structure Conditions where
  /-- The most bytes which one write takes. -/
  cap : Option Nat := none
  /-- Writes fail once that many bytes have been written. -/
  writeFailure : Option (Nat × IoKind) := none
  /-- The failure of splitting. -/
  splitFailure : Option IoKind := none
  /-- The failure of closing. -/
  closeFailure : Option IoKind := none

/-- What can be done at the ends of a line, and what the line can do. -/
inductive Action where
  /-- An end reads at most a number of bytes. -/
  | read (place : End) (count : Nat)
  /-- An end writes once. -/
  | write (place : End) (bytes : Bytes)
  /-- An end splits its stream, unless it has done so. -/
  | split (place : End)
  /-- An end closes its stream. -/
  | close (place : End)
  /-- At most so many more of the bytes written at the other end arrive, in one piece. -/
  | deliver (place : End) (count : Nat)
  /-- The next read at an end fails behind what has arrived. -/
  | fail (place : End) (kind : IoKind)
  /-- Behind what has arrived an end meets the end of the stream. -/
  | finish (place : End)
  /-- The operations of an end come out in another way from now on. -/
  | turn (place : End) (conditions : Conditions)

/-- What is seen of an action. -/
inductive Reply where
  /-- A read came to an end. -/
  | read (place : End) (result : Except IoError Bytes)
  /-- Bytes were offered to a write, and it told how many it took. -/
  | write (place : End) (bytes : Bytes) (result : Except IoError Nat)
  /-- A stream was split. -/
  | split (place : End) (result : Except IoError Unit)
  /-- A stream was closed. -/
  | close (place : End) (result : Except IoError Unit)
  /-- Nothing was seen. -/
  | nothing
  deriving DecidableEq

/-- The bytes which an end read. -/
def Reply.taken (place : End) : Reply → Bytes
  | read source result => if source = place then Endpoint.bytesOf result else []
  | _ => []

/-- The bytes which an end wrote as far as it was told. -/
def Reply.given (place : End) : Reply → Bytes
  | write source bytes result =>
      if source = place then bytes.take (Endpoint.countOf result) else []
  | _ => []

/-- The bytes which an end has read. -/
def received (place : End) (log : List Reply) : Bytes :=
  log.flatMap (Reply.taken place)

/-- The bytes which an end has written as far as it was told. -/
def accepted (place : End) (log : List Reply) : Bytes :=
  log.flatMap (Reply.given place)

end Line

/-- Two streams and what has happened to them. -/
structure Line (Side : Type) where
  /-- The stream at each end. -/
  side : Line.End → Side
  /-- How many bytes have arrived there. -/
  arrived : Line.End → Nat := fun _ => 0
  /-- What has been seen. -/
  log : List Line.Reply := []

namespace Line

/-- Plain streams to which nothing has happened. -/
def fresh : Line Endpoint where
  side _ := {}

/-- Obfuscated streams to which nothing has happened. -/
def freshWith (keystream : Keystream) : Line ObfuscatedEndpoint where
  side _ := { whole := { keystream }, endpoint := {} }

section Steps

variable {Side : Type} (handle : Handle Side)

/-- One more action has come to an end. -/
def settle (line : Line Side) (place : End) (after : Side) (reply : Reply) : Line Side :=
  { line with side := Function.update line.side place after, log := line.log ++ [reply] }

/-- Something happens to an endpoint. -/
def adjust (line : Line Side) (place : End) (change : Endpoint → Endpoint) : Line Side :=
  let side := line.side place
  line.settle place (handle.replace side (change (handle.endpoint side))) .nothing

/-- Something comes up behind what has arrived. -/
def meet (arrival : Arrival) (endpoint : Endpoint) : Endpoint :=
  { endpoint with arrivals := endpoint.arrivals ++ [arrival] }

/-- The operations of an endpoint come out in another way. -/
def under (conditions : Conditions) (endpoint : Endpoint) : Endpoint :=
  { endpoint with
    cap := conditions.cap
    writeFailure := conditions.writeFailure
    splitFailure := conditions.splitFailure
    closeFailure := conditions.closeFailure }

/-- The next bytes, at most a number of them, which are going to arrive at an end. -/
def next (line : Line Side) (place : End) (count : Nat) : Bytes :=
  ((handle.endpoint (line.side place.other)).written.drop (line.arrived place)).take count

/-- The line after an action. -/
def step (line : Line Side) : Action → Line Side
  | .read place count =>
      match handle.read (line.side place) count with
      | some (result, after) => line.settle place after (.read place result)
      | none => line.settle place (line.side place) .nothing
  | .write place bytes =>
      let (result, after) := handle.write (line.side place) bytes
      line.settle place after (.write place bytes result)
  | .split place =>
      if .split place (.ok ()) ∈ line.log then line.settle place (line.side place) .nothing
      else
        let (result, after) := handle.split (line.side place)
        line.settle place after (.split place result)
  | .close place =>
      let (result, after) := handle.close (line.side place)
      line.settle place after (.close place result)
  | .deliver place count =>
      let piece := line.next handle place count
      { line with
        arrived := Function.update line.arrived place (line.arrived place + piece.length)
      }.adjust handle place (meet (.data piece))
  | .fail place kind => line.adjust handle place (meet (.fail kind))
  | .finish place => line.adjust handle place (meet .endOfStream)
  | .turn place conditions => line.adjust handle place (under conditions)

/-- The number of bytes which one end has written and the other one has not read yet. -/
def underway (line : Line Side) (place : End) : Nat :=
  (Endpoint.unread (handle.endpoint (line.side place)).arrivals).length +
    ((handle.endpoint (line.side place.other)).written.length - line.arrived place)

/-- The line after a number of actions, each of which is chosen by what has been seen so far. -/
def run (line : Line Side) (protocol : List Reply → Action) : Nat → Line Side
  | 0 => line
  | steps + 1 =>
      let before := run line protocol steps
      before.step handle (protocol before.log)

end Steps

/-! ## What has been seen at the ends -/

@[simp] theorem End.other_other (place : End) : place.other.other = place := by
  cases place <;> rfl

theorem End.eq_or_eq_other (place target : End) : target = place ∨ target = place.other := by
  cases place <;> cases target <;> simp [other]

@[simp] theorem End.other_ne (place : End) : place.other ≠ place := by
  cases place <;> simp [other]

@[simp] theorem End.ne_other (place : End) : place ≠ place.other :=
  place.other_ne.symm

@[simp] theorem received_concat (place : End) (log : List Reply) (reply : Reply) :
    received place (log ++ [reply]) = received place log ++ reply.taken place := by
  simp [received]

@[simp] theorem accepted_concat (place : End) (log : List Reply) (reply : Reply) :
    accepted place (log ++ [reply]) = accepted place log ++ reply.given place := by
  simp [accepted]

theorem Reply.taken_read (place : End) (result : Except IoError Bytes) :
    (Reply.read place result).taken place = Endpoint.bytesOf result :=
  if_pos rfl

theorem Reply.given_write (place : End) (bytes : Bytes) (result : Except IoError Nat) :
    (Reply.write place bytes result).given place = bytes.take (Endpoint.countOf result) :=
  if_pos rfl

section Settle

variable {Side : Type} (line : Line Side) (place : End) (after : Side) (reply : Reply)

@[simp] theorem log_settle : (line.settle place after reply).log = line.log ++ [reply] := rfl

@[simp] theorem arrived_settle : (line.settle place after reply).arrived = line.arrived := rfl

@[simp] theorem side_settle_self : (line.settle place after reply).side place = after :=
  Function.update_self ..

@[simp] theorem side_settle_other :
    (line.settle place after reply).side place.other = line.side place.other :=
  Function.update_of_ne place.other_ne ..

end Settle

@[simp] theorem written_meet (arrival : Arrival) (endpoint : Endpoint) :
    (meet arrival endpoint).written = endpoint.written := rfl

/-- What a reply tells about an end at which it was not seen. -/
structure Reply.Foreign (reply : Reply) (place : End) : Prop where
  /-- Nothing was read there. -/
  taken : reply.taken place = []
  /-- Nothing was written there. -/
  given : reply.given place = []

theorem Reply.foreign_read (place : End) (result : Except IoError Bytes) :
    (Reply.read place result).Foreign place.other :=
  ⟨if_neg place.ne_other, rfl⟩

theorem Reply.foreign_write (place : End) (bytes : Bytes) (result : Except IoError Nat) :
    (Reply.write place bytes result).Foreign place.other :=
  ⟨rfl, if_neg place.ne_other⟩

theorem Reply.foreign_split (place target : End) (result : Except IoError Unit) :
    (Reply.split place result).Foreign target :=
  ⟨rfl, rfl⟩

theorem Reply.foreign_close (place target : End) (result : Except IoError Unit) :
    (Reply.close place result).Foreign target :=
  ⟨rfl, rfl⟩

theorem Reply.foreign_nothing (place : End) : Reply.nothing.Foreign place :=
  ⟨rfl, rfl⟩

/-! ## Plain lines -/

/-- Of the bytes which were sent to an end so many have arrived, and it has taken those which are not
waiting. -/
structure Account (sent taken : Bytes) (arrived : Nat) (arrivals : List Arrival) : Prop where
  /-- What has arrived has been taken or is waiting. -/
  passed : taken ++ Endpoint.unread arrivals = sent.take arrived
  /-- Only what was sent has arrived. -/
  within : arrived ≤ sent.length

namespace Account

variable {sent taken : Bytes} {arrived : Nat} {arrivals : List Arrival}

/-- The bytes which have arrived are those which have been taken and those which are waiting. -/
theorem total (account : Account sent taken arrived arrivals) :
    taken.length + (Endpoint.unread arrivals).length = arrived := by
  rw [← List.length_append, account.passed, List.length_take_of_le account.within]

theorem send (account : Account sent taken arrived arrivals) (more : Bytes) :
    Account (sent ++ more) taken arrived arrivals where
  passed := by rw [account.passed, List.take_append_of_le_length account.within]
  within := by
    rw [List.length_append]
    exact Nat.le_add_right_of_le account.within

theorem take (account : Account sent taken arrived arrivals) {more : Bytes}
    {rest : List Arrival} (took : Endpoint.unread arrivals = more ++ Endpoint.unread rest) :
    Account sent (taken ++ more) arrived rest where
  passed := by rw [List.append_assoc, ← took, account.passed]
  within := account.within

/-- The next bytes arrive behind those which have arrived. -/
theorem deliver (account : Account sent taken arrived arrivals) (count : Nat) :
    Account sent taken (arrived + ((sent.drop arrived).take count).length)
      (arrivals ++ [.data ((sent.drop arrived).take count)]) where
  passed := by
    have front := List.prefix_iff_eq_take.mp (List.take_prefix count (sent.drop arrived))
    rw [Endpoint.unread_append, ← List.append_assoc, account.passed, List.take_add, ← front]
    simp
  within := by
    have short := (List.take_prefix count (sent.drop arrived)).length_le
    have within := account.within
    rw [List.length_drop] at short
    omega

end Account

/-- What is read at one end of a plain line is what has been written at the other one. -/
structure Ledger (line : Line Endpoint) : Prop where
  /-- An end has written what it was told. -/
  written : ∀ place, (line.side place).written = accepted place line.log
  /-- What was accepted at the other end has been received, is waiting or is still to come. -/
  account : ∀ place, Account (accepted place.other line.log) (received place line.log)
    (line.arrived place) (line.side place).arrivals

namespace Ledger

variable {line : Line Endpoint}

theorem fresh : Ledger fresh where
  written _ := rfl
  account _ := ⟨rfl, Nat.le_refl _⟩

/-- An end reads from the front of what has arrived, and writes as it is told. -/
theorem settle (ledger : Ledger line) {place : End} {after : Endpoint} {reply : Reply}
    (wrote : after.written = (line.side place).written ++ reply.given place)
    (took : Endpoint.unread (line.side place).arrivals =
      reply.taken place ++ Endpoint.unread after.arrivals)
    (foreign : reply.Foreign place.other) : Ledger (line.settle place after reply) := by
  constructor <;> intro target <;> obtain rfl | rfl := place.eq_or_eq_other target
  · simp [wrote, ledger.written]
  · simp [ledger.written, foreign.given]
  · have account := (ledger.account target).take took
    simpa [foreign.given] using account
  · have account := (ledger.account place.other).send (reply.given place)
    simpa [foreign.taken] using account

/-- Nothing is read or written. -/
theorem idle (ledger : Ledger line) {place : End} {after : Endpoint} {reply : Reply}
    (written : after.written = (line.side place).written)
    (unread : Endpoint.unread after.arrivals = Endpoint.unread (line.side place).arrivals)
    (foreign : ∀ target, reply.Foreign target) : Ledger (line.settle place after reply) := by
  refine ledger.settle ?_ ?_ (foreign _)
  · rw [(foreign place).given, written, List.append_nil]
  · rw [(foreign place).taken, unread, List.nil_append]

theorem meet (ledger : Ledger line) (place : End) {arrival : Arrival}
    (empty : Endpoint.unread [arrival] = []) :
    Ledger (line.adjust plain place (meet arrival)) := by
  refine ledger.idle rfl ?_ Reply.foreign_nothing
  exact (Endpoint.unread_append ..).trans (by rw [empty, List.append_nil]; rfl)

theorem deliver (ledger : Ledger line) (place : End) (count : Nat) :
    Ledger (line.step plain (.deliver place count)) := by
  have piece : line.next plain place count =
      ((accepted place.other line.log).drop (line.arrived place)).take count := by
    rw [← ledger.written]
    rfl
  simp only [Line.step, piece]
  constructor <;> intro target <;> obtain rfl | rfl := place.eq_or_eq_other target
  · simpa [adjust, plain, Reply.given] using ledger.written target
  · simpa [adjust, Reply.given] using ledger.written place.other
  · simpa [adjust, plain, Line.meet, Reply.given, Reply.taken]
      using (ledger.account target).deliver count
  · simpa [adjust, Reply.given, Reply.taken] using ledger.account place.other

/-- Every action keeps the account. -/
theorem step (ledger : Ledger line) (action : Action) : Ledger (line.step plain action) := by
  cases action with
  | read place count =>
      simp only [Line.step]
      cases reads : plain.read (line.side place) count with
      | none => exact ledger.idle rfl rfl Reply.foreign_nothing
      | some outcome =>
          obtain ⟨result, after⟩ := outcome
          refine ledger.settle ?_ ?_ (Reply.foreign_read place result)
          · exact (Endpoint.written_of_read reads).trans (List.append_nil _).symm
          · rw [Reply.taken_read]
            exact Endpoint.unread_of_read reads
  | write place bytes =>
      refine ledger.settle ?_ ?_ (Reply.foreign_write place bytes _)
      · rw [Reply.given_write]
        exact Endpoint.written_write _ bytes
      · exact congrArg _ (Endpoint.arrivals_write _ bytes).symm
  | split place =>
      simp only [Line.step]
      split
      · exact ledger.idle rfl rfl Reply.foreign_nothing
      · exact ledger.idle rfl rfl (Reply.foreign_split place · _)
  | close place => exact ledger.idle rfl rfl (Reply.foreign_close place · _)
  | deliver place count => exact ledger.deliver place count
  | fail place kind => exact ledger.meet place rfl
  | finish place => exact ledger.meet place rfl
  | turn place conditions => exact ledger.idle rfl rfl Reply.foreign_nothing

theorem run (protocol : List Reply → Action) (steps : Nat) :
    Ledger (Line.fresh.run plain protocol steps) := by
  induction steps with
  | zero => exact fresh
  | succ steps ih => exact ih.step _

end Ledger

/-! ## Obfuscated streams beside plain ones -/

/-- What comes up behind a keystream is combined with it where the bytes before it end. -/
theorem meet_mask {keystream : Keystream} {position : Nat} {endpoint : Endpoint}
    {arrival masked : Arrival}
    (combined : keystream.arrivals (position + (Endpoint.unread endpoint.arrivals).length)
      [arrival] = [masked]) :
    meet masked (keystream.mask position endpoint) =
      keystream.mask position (meet arrival endpoint) := by
  simp only [Keystream.mask, meet, Keystream.arrivals_append, combined]

/-- An obfuscated stream which has read that much, on the masked endpoint of a plain stream. -/
structure Veiled (keystream : Keystream) (position : Nat) (endpoint : Endpoint)
    (hidden : ObfuscatedEndpoint) : Prop where
  /-- Its endpoint is the plain one behind the keystream. -/
  behind : hidden.endpoint = keystream.mask position endpoint
  /-- The stream or its halves are where the endpoint is. -/
  current : hidden.current = .unmasking keystream position endpoint

namespace Veiled

variable {keystream : Keystream} {position : Nat} {endpoint : Endpoint}
  {hidden : ObfuscatedEndpoint}

/-- The obfuscated stream is brought to where a plain endpoint is. -/
theorem update (keystream : Keystream) (position : Nat) (after : Endpoint)
    (hidden : ObfuscatedEndpoint) :
    Veiled keystream position after
      (hidden.update (.unmasking keystream position after) (keystream.mask position after)) := by
  constructor <;> unfold ObfuscatedEndpoint.update
  · split <;> rfl
  · split
    · rfl
    · rename_i unsplit
      simp [ObfuscatedEndpoint.current, unsplit]

theorem halves_update (unsplit : hidden.halves = none) (stream : ObfuscatedStream)
    (after : Endpoint) : (hidden.update stream after).halves = none := by
  rw [ObfuscatedEndpoint.update, unsplit]

theorem read (veiled : Veiled keystream position endpoint hidden) (count : Nat) :
    hidden.read count = (endpoint.read count).map fun (result, after) =>
      (result, hidden.update
        (.unmasking keystream (position + (Endpoint.bytesOf result).length) after)
        (keystream.mask (position + (Endpoint.bytesOf result).length) after)) := by
  rw [ObfuscatedEndpoint.read, veiled.current, veiled.behind, ObfuscatedStream.read_unmasking,
    Option.map_map]
  rfl

theorem write (veiled : Veiled keystream position endpoint hidden) (bytes : Bytes) :
    hidden.write bytes = ((endpoint.write bytes).1, hidden.update
      (.unmasking keystream position (endpoint.write bytes).2)
      (keystream.mask position (endpoint.write bytes).2)) := by
  rw [ObfuscatedEndpoint.write, veiled.current, veiled.behind, ObfuscatedStream.write_unmasking]

/-- Splitting hands the positions over to the halves. -/
theorem split (veiled : Veiled keystream position endpoint hidden)
    (unsplit : hidden.halves = none) :
    ∃ after, hidden.split = (endpoint.split, after) ∧
      Veiled keystream position endpoint after ∧
      (endpoint.split ≠ .ok () → after.halves = none) := by
  have whole : hidden.whole = .unmasking keystream position endpoint := by
    rw [← veiled.current, ObfuscatedEndpoint.current, unsplit, Option.getD_none]
  have same : hidden.endpoint.split = endpoint.split := by
    rw [veiled.behind]
    rfl
  rw [ObfuscatedEndpoint.split, same]
  cases endpoint.split with
  | ok _ => exact ⟨_, rfl, ⟨veiled.behind, whole⟩, absurd rfl⟩
  | error cause => exact ⟨hidden, rfl, veiled, fun _ => unsplit⟩

theorem close (veiled : Veiled keystream position endpoint hidden) :
    hidden.close = (endpoint.close.1, { hidden with endpoint := hidden.endpoint.close.2 }) ∧
      Veiled keystream position endpoint.close.2
        { hidden with endpoint := hidden.endpoint.close.2 } := by
  refine ⟨?_, ?_, veiled.current⟩
  · rw [ObfuscatedEndpoint.close, veiled.behind]
    rfl
  · rw [veiled.behind]
    rfl

/-- Something happens to both endpoints. -/
theorem replace (veiled : Veiled keystream position endpoint hidden)
    {change maskedChange : Endpoint → Endpoint}
    (masked : maskedChange (keystream.mask position endpoint) =
      keystream.mask position (change endpoint))
    (written : (change endpoint).written = endpoint.written) :
    Veiled keystream position (change endpoint)
      { hidden with endpoint := maskedChange hidden.endpoint } where
  behind := by rw [veiled.behind, masked]
  current := by
    rw [ObfuscatedStream.unmasking, written]
    exact veiled.current

end Veiled

/-- An obfuscated line on which everything has come out as on a plain one. -/
structure Mirrors (keystream : Keystream) (line : Line Endpoint)
    (hidden : Line ObfuscatedEndpoint) : Prop where
  /-- The same has been seen. -/
  log : hidden.log = line.log
  /-- As many bytes have arrived. -/
  arrived : hidden.arrived = line.arrived
  /-- Each stream is where the plain one is. -/
  veiled : ∀ place, Veiled keystream (received place line.log).length (line.side place)
    (hidden.side place)
  /-- A stream which has not been split has no halves. -/
  whole : ∀ place, .split place (.ok ()) ∉ line.log → (hidden.side place).halves = none

namespace Mirrors

variable {keystream : Keystream} {line : Line Endpoint} {hidden : Line ObfuscatedEndpoint}

theorem fresh (keystream : Keystream) : Mirrors keystream fresh (freshWith keystream) where
  log := rfl
  arrived := rfl
  veiled _ := ⟨rfl, rfl⟩
  whole _ _ := rfl

theorem unsplit (mirrors : Mirrors keystream line hidden) {place : End} {reply : Reply}
    (unsplit : .split place (.ok ()) ∉ line.log ++ [reply]) :
    (hidden.side place).halves = none :=
  mirrors.whole place fun split => unsplit (List.mem_append_left _ split)

theorem settle (mirrors : Mirrors keystream line hidden) {place : End} {after : Endpoint}
    {hiddenAfter : ObfuscatedEndpoint} {reply : Reply}
    (veiled : Veiled keystream
      ((received place line.log).length + (reply.taken place).length) after hiddenAfter)
    (whole : .split place (.ok ()) ∉ line.log ++ [reply] → hiddenAfter.halves = none)
    (foreign : reply.Foreign place.other) :
    Mirrors keystream (line.settle place after reply) (hidden.settle place hiddenAfter reply) where
  log := by simp [mirrors.log]
  arrived := mirrors.arrived
  veiled target := by
    obtain rfl | rfl := place.eq_or_eq_other target
    · simpa using veiled
    · simpa [foreign.taken] using mirrors.veiled place.other
  whole target unsplit := by
    obtain rfl | rfl := place.eq_or_eq_other target
    · rw [side_settle_self]
      exact whole unsplit
    · rw [side_settle_other]
      exact mirrors.unsplit unsplit

/-- Nothing is read, and no halves are made. -/
theorem idle (mirrors : Mirrors keystream line hidden) (place : End) {after : Endpoint}
    {hiddenAfter : ObfuscatedEndpoint} {reply : Reply} (foreign : ∀ target, reply.Foreign target)
    (veiled : Veiled keystream (received place line.log).length after hiddenAfter)
    (halves : hiddenAfter.halves = (hidden.side place).halves) :
    Mirrors keystream (line.settle place after reply) (hidden.settle place hiddenAfter reply) := by
  refine mirrors.settle ?_ ?_ (foreign _)
  · rw [(foreign place).taken]
    exact veiled
  · rw [halves]
    exact mirrors.unsplit

theorem adjust (mirrors : Mirrors keystream line hidden) (place : End)
    {change maskedChange : Endpoint → Endpoint}
    (masked : maskedChange
      (keystream.mask (received place line.log).length (line.side place)) =
        keystream.mask (received place line.log).length (change (line.side place)))
    (written : (change (line.side place)).written = (line.side place).written) :
    Mirrors keystream (line.adjust plain place change)
      (hidden.adjust obfuscated place maskedChange) :=
  mirrors.idle place Reply.foreign_nothing ((mirrors.veiled place).replace masked written) rfl

theorem arrive (mirrors : Mirrors keystream line hidden) (arrived : End → Nat) :
    Mirrors keystream { line with arrived } { hidden with arrived } :=
  ⟨mirrors.log, rfl, mirrors.veiled, mirrors.whole⟩

/-- The next bytes on the obfuscated line are combined with the keystream where the bytes which
have arrived end. -/
theorem next (mirrors : Mirrors keystream line hidden) (ledger : Ledger line) (place : End)
    (count : Nat) :
    hidden.next obfuscated place count = keystream.apply
      ((received place line.log).length +
        (Endpoint.unread (line.side place).arrivals).length) (line.next plain place count) := by
  have account := ledger.account place
  have written : (hidden.side place.other).endpoint.written =
      keystream.apply 0 (line.side place.other).written := by
    rw [(mirrors.veiled place.other).behind, Keystream.written_mask]
  have within : line.arrived place ≤ (line.side place.other).written.length := by
    rw [ledger.written]
    exact account.within
  rw [account.total]
  simp only [Line.next, obfuscated, plain, written, mirrors.arrived]
  rw [Keystream.apply_drop, List.length_take_of_le within, Nat.zero_add, ← Keystream.apply_take]

theorem step (mirrors : Mirrors keystream line hidden) (ledger : Ledger line) (action : Action) :
    Mirrors keystream (line.step plain action) (hidden.step obfuscated action) := by
  cases action with
  | read place count =>
      have veiled := mirrors.veiled place
      simp only [Line.step, obfuscated, plain, veiled.read]
      cases reads : (line.side place).read count with
      | none => exact mirrors.idle place Reply.foreign_nothing veiled rfl
      | some outcome =>
          obtain ⟨result, after⟩ := outcome
          refine mirrors.settle ?_ ?_ (Reply.foreign_read place result)
          · rw [Reply.taken_read]
            exact .update ..
          · exact fun unsplit => Veiled.halves_update (mirrors.unsplit unsplit) ..
  | write place bytes =>
      have veiled := mirrors.veiled place
      simp only [Line.step, obfuscated, plain, veiled.write]
      exact mirrors.settle (.update ..)
        (fun unsplit => Veiled.halves_update (mirrors.unsplit unsplit) ..)
        (Reply.foreign_write place bytes _)
  | split place =>
      simp only [Line.step, mirrors.log]
      split
      · exact mirrors.idle place Reply.foreign_nothing (mirrors.veiled place) rfl
      · rename_i unsplit
        obtain ⟨after, same, veiled, whole⟩ :=
          (mirrors.veiled place).split (mirrors.whole place unsplit)
        simp only [obfuscated, plain, same]
        refine mirrors.settle veiled (fun unmade => ?_) (Reply.foreign_split place _ _)
        exact whole fun made => unmade (by simp [made])
  | close place =>
      obtain ⟨same, veiled⟩ := (mirrors.veiled place).close
      simp only [Line.step, obfuscated, plain, same]
      exact mirrors.idle place (Reply.foreign_close place · _) veiled rfl
  | deliver place count =>
      have as_many : (hidden.next obfuscated place count).length =
          (line.next plain place count).length := by
        rw [mirrors.next ledger, Keystream.apply_length]
      simp only [Line.step, as_many, mirrors.arrived]
      exact (mirrors.arrive _).adjust place (meet_mask (by rw [mirrors.next ledger]; rfl)) rfl
  | fail place kind => exact mirrors.adjust place (meet_mask rfl) rfl
  | finish place => exact mirrors.adjust place (meet_mask rfl) rfl
  | turn place conditions => exact mirrors.adjust place rfl rfl

theorem run (keystream : Keystream) (protocol : List Reply → Action) (steps : Nat) :
    Mirrors keystream (Line.fresh.run plain protocol steps)
      ((freshWith keystream).run obfuscated protocol steps) := by
  induction steps with
  | zero => exact fresh keystream
  | succ steps ih =>
      rw [Line.run, Line.run, ih.log]
      exact ih.step (.run protocol steps) _

end Mirrors

/-! ## Transparency -/

/-- Nothing tells an obfuscated line from a plain one but the bytes on it. -/
structure Transparent (keystream : Keystream) (line : Line Endpoint)
    (hidden : Line ObfuscatedEndpoint) : Prop where
  /-- Every read, write, split and closing has come out as on the plain line. -/
  replies : hidden.log = line.log
  /-- What was read at an end is the front of what the other end was told it had written. -/
  inOrder : ∀ place, received place hidden.log <+: accepted place.other hidden.log
  /-- What is missing at the end of it is still underway. -/
  complete : ∀ place, (accepted place.other hidden.log).length =
    (received place hidden.log).length + hidden.underway obfuscated place
  /-- The bytes on the line are those which were told, combined with the keystream. -/
  wire : ∀ place, (hidden.side place).endpoint.written =
    keystream.apply 0 (accepted place hidden.log)
  /-- There are as many of them. -/
  size : ∀ place, (hidden.side place).endpoint.written.length = (accepted place hidden.log).length

theorem Mirrors.transparent {keystream : Keystream} {line : Line Endpoint}
    {hidden : Line ObfuscatedEndpoint} (mirrors : Mirrors keystream line hidden)
    (ledger : Ledger line) : Transparent keystream line hidden := by
  have wire (place : End) : (hidden.side place).endpoint.written =
      keystream.apply 0 (accepted place hidden.log) := by
    rw [(mirrors.veiled place).behind, Keystream.written_mask, ledger.written, mirrors.log]
  have size (place : End) : (hidden.side place).endpoint.written.length =
      (accepted place hidden.log).length := by
    rw [wire, Keystream.apply_length]
  refine ⟨mirrors.log, fun place => ?_, fun place => ?_, wire, size⟩
  · have account := ledger.account place
    rw [mirrors.log]
    exact (account.passed ▸ List.prefix_append ..).trans (List.take_prefix ..)
  · have total := (ledger.account place).total
    have within := (ledger.account place).within
    have waiting : (Endpoint.unread (hidden.side place).endpoint.arrivals).length =
        (Endpoint.unread (line.side place).arrivals).length := by
      rw [(mirrors.veiled place).behind]
      exact (congrArg List.length (keystream.unread_arrivals ..)).trans (keystream.apply_length ..)
    simp only [underway, obfuscated, size, waiting, mirrors.arrived, mirrors.log]
    omega

/-- For every key, and however the streams at the two ends are used and the line behaves, reads,
writes, splits and closings of obfuscated streams come out as those of plain ones; what is read is
what was written, in order, and as many bytes are on the line. -/
theorem transparent_of_key {key : Bytes} (nonempty : key ≠ []) :
    ∃ keystream, Keystream.ofKey key = .ok keystream ∧
      ∀ (protocol : List Reply → Action) (steps : Nat),
        Transparent keystream (fresh.run plain protocol steps)
          ((freshWith keystream).run obfuscated protocol steps) := by
  have size_pos : 0 < key.toArray.size := List.length_pos_iff.mpr nonempty
  refine ⟨⟨key.toArray, size_pos⟩, dif_pos size_pos, fun protocol steps => ?_⟩
  exact (Mirrors.run _ protocol steps).transparent (Ledger.run protocol steps)

/-- The near end writes four bytes, some of them before splitting its stream and with a short and an
interrupted write, and they arrive in two pieces around the splitting at the far end. -/
def shortWrites : List Action :=
  [.turn .near { cap := some 2 }, .write .near [1, 2, 3], .split .near,
    .turn .near { writeFailure := some (0, .interrupted) }, .write .near [3], .turn .near {},
    .write .near [3, 4], .deliver .far 3, .read .far 1, .split .far, .deliver .far 9,
    .read .far 9, .read .far 9]

theorem transparent_of_short_writes :
    ([0x6B, 0x65, 0x79] : Bytes) ≠ [] ∧
      ∃ keystream, Keystream.ofKey [0x6B, 0x65, 0x79] = .ok keystream ∧
        Transparent keystream
          (fresh.run plain (fun log => shortWrites.getD log.length (.finish .near)) 13)
          ((freshWith keystream).run obfuscated
            (fun log => shortWrites.getD log.length (.finish .near)) 13) ∧
        received .far ((freshWith keystream).run obfuscated
          (fun log => shortWrites.getD log.length (.finish .near)) 13).log = [1, 2, 3, 4] := by
  have nonempty : ([0x6B, 0x65, 0x79] : Bytes) ≠ [] := by decide
  obtain ⟨keystream, made, transparent⟩ := transparent_of_key nonempty
  refine ⟨nonempty, keystream, made, transparent _ 13, ?_⟩
  rw [(transparent _ 13).replies]
  decide

end Line
end TunnelProxy
