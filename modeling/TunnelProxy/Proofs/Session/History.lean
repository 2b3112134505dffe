import TunnelProxy.Proofs.Relay.Scenario

/-!
# Histories of sessions

A program asks for an exact number of bytes, for all bytes of a message to be written, or for a relay.
Its session turns each of these into reads and writes which give and take as many bytes as they please.
A history tells all of them, and so it tells which bytes of a stream went where.
-/

namespace TunnelProxy

/-! ## Deeds -/

/-- What a session does. -/
inductive Deed where
  /-- A stream was read with room for some bytes. -/
  | read (stream : StreamRef) (room : Nat) (reply : Except IoError Bytes)
  /-- Bytes were offered to a stream. -/
  | write (stream : StreamRef) (bytes : Bytes) (reply : Except IoError Nat)
  /-- Something else was asked for. -/
  | asked (exchange : Exchange)
  /-- Two streams were made ready for a relay which begins at some time, or could not be. -/
  | prepared (near far : StreamRef) (reply : Except Error Nat)
  /-- Something happened in a relay between two streams. -/
  | relayed (near far : StreamRef) (event : Relay.Event)

namespace Deed

/-- The bytes which a deed took from a stream. -/
def taken (stream : StreamRef) : Deed → Bytes
  | read source _ (.ok bytes) => if source = stream then bytes else []
  | relayed near far (.read direction _ (.ok bytes)) =>
      if direction.source near far = stream then bytes else []
  | _ => []

/-- The bytes which a deed gave to a stream. -/
def given (stream : StreamRef) : Deed → Bytes
  | write target bytes (.ok count) => if target = stream then bytes.take count else []
  | relayed near far (.write direction rest (.ok count)) =>
      if direction.destination near far = stream then rest.take count else []
  | _ => []

/-- Whether a deed met the end of a stream. -/
def isEnd (stream : StreamRef) : Deed → Bool
  | read source _ (.ok []) => source = stream
  | relayed near far (.read direction _ (.ok [])) => direction.source near far = stream
  | _ => false

/-- Whether a deed closed a stream. -/
def closes (stream : StreamRef) : Deed → Bool
  | relayed near _ .closeNear => near = stream
  | relayed _ far .closeFar => far = stream
  | _ => false

/-- Whether a stream refused for good what was to be written to it, other than by a relay. -/
def isRefusal (stream : StreamRef) : Deed → Bool
  | write target _ (.ok 0) => target = stream
  | write target _ (.error cause) => target = stream && cause.kind ≠ .interrupted
  | _ => false

/-- The destination which was reached. -/
def dialed? : Deed → Option StreamRef
  | asked ⟨.dial _, (.ok destination : Except Error StreamRef)⟩ => some destination
  | _ => none

/-- What happened in a relay. -/
def relayed? : Deed → Option Relay.Event
  | relayed _ _ event => some event
  | _ => none

end Deed

section Logs

variable (stream : StreamRef) (log deeds : List Deed)

/-- The bytes which were taken from a stream. -/
def bytesFrom : Bytes := log.flatMap (Deed.taken stream)

/-- The bytes which were given to a stream. -/
def bytesTo : Bytes := log.flatMap (Deed.given stream)

/-- The destinations which were reached. -/
def destinations : List StreamRef := log.filterMap Deed.dialed?

/-- What happened in relays. -/
def relayLog : List Relay.Event := log.filterMap Deed.relayed?

@[simp] theorem bytesFrom_append :
    bytesFrom stream (log ++ deeds) = bytesFrom stream log ++ bytesFrom stream deeds :=
  List.flatMap_append

@[simp] theorem bytesTo_append :
    bytesTo stream (log ++ deeds) = bytesTo stream log ++ bytesTo stream deeds :=
  List.flatMap_append

@[simp] theorem destinations_append :
    destinations (log ++ deeds) = destinations log ++ destinations deeds :=
  List.filterMap_append

@[simp] theorem relayLog_append : relayLog (log ++ deeds) = relayLog log ++ relayLog deeds :=
  List.filterMap_append

@[simp] theorem bytesFrom_singleton (deed : Deed) : bytesFrom stream [deed] = deed.taken stream :=
  List.flatMap_singleton ..

@[simp] theorem bytesTo_singleton (deed : Deed) : bytesTo stream [deed] = deed.given stream :=
  List.flatMap_singleton ..

@[simp] theorem destinations_singleton (deed : Deed) :
    destinations [deed] = deed.dialed?.toList := by
  cases found : deed.dialed? <;> simp [destinations, found]

@[simp] theorem relayLog_singleton (deed : Deed) : relayLog [deed] = deed.relayed?.toList := by
  cases happened : deed.relayed? <;> simp [relayLog, happened]

@[simp] theorem relayLog_concat_relayed (near far : StreamRef) (event : Relay.Event) :
    relayLog (log ++ [.relayed near far event]) = relayLog log ++ [event] :=
  relayLog_append ..

end Logs

/-- What is read from a stream is what its other side sends: the bytes come in order, whatever the
pieces are, and the stream is at its end behind all of them only, as long as it is not closed here. -/
structure Delivers (stream : StreamRef) (input : Bytes) (log : List Deed) : Prop where
  /-- The bytes come in order. -/
  inOrder : bytesFrom stream log <+: input
  /-- The end comes behind all of them. -/
  whole : Throughout (fun past deed => deed.isEnd stream = true →
    past.any (Deed.closes stream) = false → bytesFrom stream past = input) [] log

instance Throughout.decidable {ε : Type} {holds : List ε → ε → Prop}
    [∀ past element, Decidable (holds past element)] (past : List ε) :
    ∀ list, Decidable (Throughout holds past list)
  | [] => .isTrue trivial
  | element :: list =>
      have : Decidable (Throughout holds (past ++ [element]) list) := Throughout.decidable ..
      inferInstanceAs (Decidable (holds past element ∧ Throughout holds (past ++ [element]) list))

instance (stream : StreamRef) (input : Bytes) (log : List Deed) :
    Decidable (Delivers stream input log) :=
  decidable_of_iff (_ ∧ _) ⟨fun ⟨inOrder, whole⟩ => ⟨inOrder, whole⟩,
    fun ⟨inOrder, whole⟩ => ⟨inOrder, whole⟩⟩

/-- Nothing which a session writes to a stream is refused before bytes are relayed. -/
def Heeds (stream : StreamRef) (log : List Deed) : Prop :=
  ∀ deed ∈ log, deed.isRefusal stream = false

instance (stream : StreamRef) (log : List Deed) : Decidable (Heeds stream log) :=
  inferInstanceAs (Decidable (∀ deed ∈ log, deed.isRefusal stream = false))

/-! ## Steps -/

/-- Whether a request is a single deed. -/
def Request.isPlain : Request → Bool
  | receive .. | send .. | relay .. => false
  | _ => true

/-- How far a session has come. -/
inductive Progress (α : Type) where
  /-- It goes on with a program. -/
  | running (program : Program α)
  /-- It gathers bytes of which some are missing. -/
  | gathering (stream : StreamRef) (missing : Nat) (gathered : Bytes)
      (next : Except IoError Bytes → Program α)
  /-- It writes bytes of which some are left. -/
  | writing (stream : StreamRef) (rest : Bytes) (next : Except IoError Unit → Program α)
  /-- It relays bytes. -/
  | relaying (near far : StreamRef) (relay : Relay) (next : Except Error Unit → Program α)

namespace Progress

variable {α : Type}

/-- Go on after a read.  The end of the stream comes too early, and an interrupted read is repeated. -/
def afterRead (stream : StreamRef) (missing : Nat) (gathered : Bytes)
    (next : Except IoError Bytes → Program α) : Except IoError Bytes → Progress α
  | .ok [] => running (next (.error .truncated))
  | .ok bytes => gathering stream (missing - bytes.length) (gathered ++ bytes) next
  | .error cause =>
      if cause.kind = .interrupted then gathering stream missing gathered next
      else running (next (.error cause))

/-- Go on after a write.  A write which takes nothing fails, and an interrupted one is repeated. -/
def afterWrite (stream : StreamRef) (rest : Bytes) (next : Except IoError Unit → Program α) :
    Except IoError Nat → Progress α
  | .ok 0 => running (next (.error .stuck))
  | .ok count => writing stream (rest.drop count) next
  | .error cause =>
      if cause.kind = .interrupted then writing stream rest next
      else running (next (.error cause))

/-- The steps of a session.  A read gives no more than there is room for and a write takes no more than
it is offered; apart from that, and from the rules of relays, everything may be answered in any way. -/
inductive Step : Progress α → List Deed → Progress α → Prop
  /-- Something is asked for. -/
  | ask {request : Request} {next : request.Reply → Program α} (plain : request.isPlain = true)
      (reply : request.Reply) :
      Step (running (.ask request next)) [.asked ⟨request, reply⟩] (running (next reply))
  /-- Bytes are asked for. -/
  | receive {stream : StreamRef} {count : Nat} {deadline : Option Nat}
      {next : Except IoError Bytes → Program α} :
      Step (running (.ask (.receive stream count deadline) next)) []
        (gathering stream count [] next)
  /-- Some of them are read. -/
  | read {stream : StreamRef} {missing : Nat} {gathered : Bytes}
      {next : Except IoError Bytes → Program α} (reply : Except IoError Bytes)
      (some_missing : 0 < missing) (fits : ∀ bytes, reply = .ok bytes → bytes.length ≤ missing) :
      Step (gathering stream missing gathered next) [.read stream missing reply]
        (afterRead stream missing gathered next reply)
  /-- All of them have been read. -/
  | received {stream : StreamRef} {gathered : Bytes} {next : Except IoError Bytes → Program α} :
      Step (gathering stream 0 gathered next) [] (running (next (.ok gathered)))
  /-- A message is to be written. -/
  | send {stream : StreamRef} {bytes : Bytes} {next : Except IoError Unit → Program α} :
      Step (running (.ask (.send stream bytes) next)) [] (writing stream bytes next)
  /-- Some of it is written. -/
  | write {stream : StreamRef} {rest : Bytes} {next : Except IoError Unit → Program α}
      (reply : Except IoError Nat) (some_left : rest ≠ [])
      (fits : ∀ count, reply = .ok count → count ≤ rest.length) :
      Step (writing stream rest next) [.write stream rest reply] (afterWrite stream rest next reply)
  /-- All of it has been written. -/
  | sent {stream : StreamRef} {next : Except IoError Unit → Program α} :
      Step (writing stream [] next) [] (running (next (.ok ())))
  /-- A relay begins. -/
  | prepare {near far : StreamRef} {idle : Option Nat} {next : Except Error Unit → Program α}
      (activity : Nat) :
      Step (running (.ask (.relay near far idle) next)) [.prepared near far (.ok activity)]
        (relaying near far (.start idle activity) next)
  /-- A relay cannot begin. -/
  | unprepared {near far : StreamRef} {idle : Option Nat} {next : Except Error Unit → Program α}
      (error : Error) :
      Step (running (.ask (.relay near far idle) next)) [.prepared near far (.error error)]
        (running (next (.error error)))
  /-- A relay goes on. -/
  | relay {near far : StreamRef} {before after : Relay} {event : Relay.Event}
      {next : Except Error Unit → Program α} (step : Relay.Step before event after) :
      Step (relaying near far before next) [.relayed near far event]
        (relaying near far after next)
  /-- A relay has ended. -/
  | relayed {near far : StreamRef} {relay : Relay} {next : Except Error Unit → Program α}
      {result : Except Error Unit} (ended : relay.result? = some result) :
      Step (relaying near far relay next) [] (running (next result))

/-- A session can have come so far with a history. -/
inductive Reaches (first : Progress α) : List Deed → Progress α → Prop
  /-- Nothing has been done. -/
  | start : Reaches first [] first
  /-- The session makes a step. -/
  | step {log deeds : List Deed} {before after : Progress α} (reached : Reaches first log before)
      (step : Step before deeds after) : Reaches first (log ++ deeds) after

theorem Reaches.trans {first middle last : Progress α} {log deeds : List Deed}
    (reached : Reaches first log middle) (further : Reaches middle deeds last) :
    Reaches first (log ++ deeds) last := by
  induction further with
  | start => rwa [List.append_nil]
  | step _ step ih =>
      rw [← List.append_assoc]
      exact ih.step step

theorem Reaches.cons {first middle last : Progress α} {deed : Deed} {deeds : List Deed}
    (step : Step first [deed] middle) (further : Reaches middle deeds last) :
    Reaches first (deed :: deeds) last :=
  (Reaches.start.step step).trans further

/-! ## Histories and runs -/

/-- What a session still asks for.  A request counts until it has its reply. -/
inductive Pending : Progress α → Program α → Prop
  /-- Nothing waits for its reply. -/
  | running (program : Program α) : Pending (running program) program
  /-- Bytes are being read. -/
  | gathering {stream : StreamRef} {missing count : Nat} {gathered : Bytes} {deadline : Option Nat}
      {next : Except IoError Bytes → Program α} (length : gathered.length + missing = count) :
      Pending (gathering stream missing gathered next) (.ask (.receive stream count deadline) next)
  /-- A message is being written. -/
  | writing {stream : StreamRef} {bytes rest : Bytes} {next : Except IoError Unit → Program α} :
      Pending (writing stream rest next) (.ask (.send stream bytes) next)
  /-- Bytes are being relayed. -/
  | relaying {near far : StreamRef} {idle : Option Nat} {relay : Relay}
      {next : Except Error Unit → Program α} :
      Pending (relaying near far relay next) (.ask (.relay near far idle) next)

/-- Bytes are still asked for after a read, or the read has settled what they are. -/
theorem pending_afterRead {stream : StreamRef} {missing count : Nat} {gathered : Bytes}
    {next : Except IoError Bytes → Program α} (length : gathered.length + missing = count)
    (some_missing : 0 < missing) (deadline : Option Nat) (reply : Except IoError Bytes)
    (fits : ∀ bytes, reply = .ok bytes → bytes.length ≤ missing) :
    ∃ exchanges rest, (Program.ask (.receive stream count deadline) next).After exchanges rest ∧
      (afterRead stream missing gathered next reply).Pending rest := by
  have failing (cause : IoError) : Exchange.Admissible
      ⟨.receive stream count deadline, (.error cause : Except IoError Bytes)⟩ :=
    Nat.lt_of_lt_of_le some_missing (length ▸ Nat.le_add_left ..)
  rcases reply with cause | _ | ⟨byte, chunk⟩
  · rw [afterRead]
    split
    · exact ⟨_, _, .start _, .gathering length⟩
    · exact ⟨_, _, .ask (failing cause) (.start _), .running _⟩
  · exact ⟨_, _, .ask (failing _) (.start _), .running _⟩
  · refine ⟨_, _, .start _, .gathering ?_⟩
    have := fits _ rfl
    rw [List.length_append]
    omega

/-- A message is still to be written after a write, or the write has settled what comes of it. -/
theorem pending_afterWrite {stream : StreamRef} {rest : Bytes}
    {next : Except IoError Unit → Program α} (bytes : Bytes) (reply : Except IoError Nat) :
    ∃ exchanges later, (Program.ask (.send stream bytes) next).After exchanges later ∧
      (afterWrite stream rest next reply).Pending later := by
  rcases reply with cause | _ | count
  · rw [afterWrite]
    split
    · exact ⟨_, _, .start _, .writing⟩
    · exact ⟨_, _, .ask trivial (.start _), .running _⟩
  · exact ⟨_, _, .ask trivial (.start _), .running _⟩
  · exact ⟨_, _, .start _, .writing⟩

/-- A step goes on with the same request, or the request gets its reply. -/
theorem Step.pending {before after : Progress α} {deeds : List Deed} {program : Program α}
    (step : Step before deeds after) (pending : before.Pending program) :
    ∃ exchanges rest, program.After exchanges rest ∧ after.Pending rest := by
  have still : program.After [] program := .start program
  cases step with
  | @ask request next plain reply =>
      cases pending
      have admissible : Exchange.Admissible ⟨request, reply⟩ := by
        cases request <;> first | exact trivial | cases plain
      exact ⟨_, _, .ask admissible (.start _), .running _⟩
  | receive =>
      cases pending
      exact ⟨_, _, still, .gathering (Nat.zero_add _)⟩
  | read reply some_missing fits =>
      cases pending with
      | gathering length => exact pending_afterRead length some_missing _ reply fits
  | @received stream gathered next =>
      cases pending with
      | @gathering _ _ count _ deadline _ length =>
          have whole : Exchange.Admissible
              ⟨.receive stream count deadline, (.ok gathered : Except IoError Bytes)⟩ := length
          exact ⟨_, _, .ask whole (.start _), .running _⟩
  | send =>
      cases pending
      exact ⟨_, _, still, .writing⟩
  | write reply some_left fits =>
      cases pending
      exact pending_afterWrite _ reply
  | sent =>
      cases pending
      exact ⟨_, _, .ask trivial (.start _), .running _⟩
  | prepare =>
      cases pending
      exact ⟨_, _, still, .relaying⟩
  | unprepared =>
      cases pending
      exact ⟨_, _, .ask trivial (.start _), .running _⟩
  | relay =>
      cases pending
      exact ⟨_, _, still, .relaying⟩
  | relayed =>
      cases pending
      exact ⟨_, _, .ask trivial (.start _), .running _⟩

/-- Whatever holds of all runs of a program holds of its histories. -/
theorem after_of_reaches {program : Program α} {log : List Deed} {progress : Progress α}
    (reached : Reaches (running program) log progress) :
    ∃ exchanges rest, program.After exchanges rest ∧ progress.Pending rest := by
  induction reached with
  | start => exact ⟨[], program, .start program, .running program⟩
  | step _ step ih =>
      obtain ⟨exchanges, rest, after, pending⟩ := ih
      obtain ⟨more, last, later, pending⟩ := step.pending pending
      exact ⟨_, _, after.trans later, pending⟩

/-- A request gets its reply with some deeds, whatever comes behind it. -/
def Realizes (exchange : Exchange) (deeds : List Deed) : Prop :=
  ∀ {α : Type} (next : exchange.request.Reply → Program α),
    Reaches (running (.ask exchange.request next)) deeds (running (next exchange.reply))

/-- Each run of a program is a history, in whatever way its requests get their replies. -/
theorem reaches_of_after {program rest : Program α} {exchanges : List Exchange}
    {parts : List (List Deed)} (after : program.After exchanges rest)
    (realized : List.Forall₂ Realizes exchanges parts) :
    Reaches (running program) parts.flatten (running rest) := by
  induction after generalizing parts with
  | start =>
      cases realized
      exact .start
  | ask _ _ ih =>
      cases realized with
      | cons here later => exact (here _).trans (ih later)

/-- Reading bytes in pieces. -/
def readings (stream : StreamRef) : List Bytes → List Deed
  | [] => []
  | piece :: pieces =>
      .read stream (piece :: pieces).flatten.length (.ok piece) :: readings stream pieces

/-- Writing bytes in pieces. -/
def writings (stream : StreamRef) : List Bytes → List Deed
  | [] => []
  | piece :: pieces =>
      .write stream (piece :: pieces).flatten (.ok piece.length) :: writings stream pieces

theorem realizes_ask {request : Request} (plain : request.isPlain = true) (reply : request.Reply) :
    Realizes ⟨request, reply⟩ [.asked ⟨request, reply⟩] :=
  fun _ => Reaches.start.step (.ask plain reply)

theorem reaches_of_readings {stream : StreamRef} {pieces : List Bytes}
    {next : Except IoError Bytes → Program α} (gathered : Bytes)
    (nonempty : ∀ piece ∈ pieces, piece ≠ []) :
    Reaches (gathering stream pieces.flatten.length gathered next) (readings stream pieces)
      (running (next (.ok (gathered ++ pieces.flatten)))) := by
  induction pieces generalizing gathered with
  | nil =>
      rw [List.flatten_nil, List.append_nil]
      exact Reaches.start.step .received
  | cons piece pieces ih =>
      have long : (piece :: pieces).flatten.length = piece.length + pieces.flatten.length := by
        rw [List.flatten_cons, List.length_append]
      have left : (piece :: pieces).flatten.length - piece.length = pieces.flatten.length := by
        rw [long, Nat.add_sub_cancel_left]
      have later := ih (gathered ++ piece) fun other member =>
        nonempty other (List.mem_cons_of_mem _ member)
      rw [List.append_assoc, ← left] at later
      cases piece with
      | nil => exact absurd rfl (nonempty [] List.mem_cons_self)
      | cons byte chunk =>
          refine .cons (.read (.ok (byte :: chunk)) ?_ ?_) later
          · rw [long, List.length_cons]
            omega
          · rintro _ ⟨⟩
            rw [long]
            exact Nat.le_add_right ..

theorem realizes_receive (stream : StreamRef) (deadline : Option Nat) (pieces : List Bytes)
    (nonempty : ∀ piece ∈ pieces, piece ≠ []) :
    Realizes ⟨.receive stream pieces.flatten.length deadline, .ok pieces.flatten⟩
      (readings stream pieces) :=
  fun _ => (Reaches.start.step .receive).trans (reaches_of_readings [] nonempty)

theorem reaches_of_writings {stream : StreamRef} {pieces : List Bytes}
    {next : Except IoError Unit → Program α} (nonempty : ∀ piece ∈ pieces, piece ≠ []) :
    Reaches (writing stream pieces.flatten next) (writings stream pieces)
      (running (next (.ok ()))) := by
  induction pieces with
  | nil => exact Reaches.start.step .sent
  | cons piece pieces ih =>
      have left : (piece :: pieces).flatten.drop piece.length = pieces.flatten := List.drop_left
      have later := ih fun other member => nonempty other (List.mem_cons_of_mem _ member)
      rw [← left] at later
      cases piece with
      | nil => exact absurd rfl (nonempty [] List.mem_cons_self)
      | cons byte chunk =>
          refine .cons (.write (.ok (byte :: chunk).length) (by simp) ?_) later
          rintro _ ⟨⟩
          rw [List.flatten_cons, List.length_append]
          exact Nat.le_add_right ..

theorem realizes_send (stream : StreamRef) (pieces : List Bytes)
    (nonempty : ∀ piece ∈ pieces, piece ≠ []) :
    Realizes ⟨.send stream pieces.flatten, .ok ()⟩ (writings stream pieces) :=
  fun _ => (Reaches.start.step .send).trans (reaches_of_writings nonempty)

theorem reaches_of_relay {near far : StreamRef} {next : Except Error Unit → Program α}
    {idle : Option Nat} {activity : Nat} {events : List Relay.Event} {relay : Relay}
    (ran : Relay.Reaches idle activity events relay) :
    Reaches (relaying near far (.start idle activity) next) (events.map (.relayed near far))
      (relaying near far relay next) := by
  induction ran with
  | start => exact .start
  | step _ step ih =>
      rw [List.map_append]
      exact ih.step (.relay step)

theorem realizes_relay (near far : StreamRef) {idle : Option Nat} {activity : Nat}
    {events : List Relay.Event} {relay : Relay} {result : Except Error Unit}
    (ran : Relay.Reaches idle activity events relay) (ended : relay.result? = some result) :
    Realizes ⟨.relay near far idle, result⟩
      (.prepared near far (.ok activity) :: events.map (.relayed near far)) := by
  intro α next
  refine .cons (.prepare activity) ?_
  rw [← List.append_nil (events.map _)]
  exact (reaches_of_relay ran).step (.relayed ended)

end Progress
end TunnelProxy
