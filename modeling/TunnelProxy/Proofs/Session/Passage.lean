import TunnelProxy.Proofs.Relay.Loss
import TunnelProxy.Proofs.Session.History
import TunnelProxy.Proofs.Tunnel.Meeting

/-!
# Passages

A session which relays begins with an opening: it reads the preamble of its client, reaches a
destination and writes its answers to the client.  What is left of the opening is known at any time, so
not a byte of what follows the preamble has been read when the relay begins, and not a byte of what the
destination sends has been written.
-/

namespace TunnelProxy

/-! ## Openings of programs -/

/-- Whether a request moves no bytes and reaches no destination. -/
def Request.isQuiet : Request → Bool
  | observe .. | release .. => true
  | _ => false

/-- How much of its opening a session has left. -/
inductive Stage where
  /-- A part of the preamble has not been read and some answers have not been written.  The destination
  may have been reached already. -/
  | opening (destination : Option StreamRef) (preamble answers : Bytes)
  /-- The relay to the destination is over. -/
  | behind (destination : StreamRef)
  /-- The opening has failed. -/
  | spoiled

section Leads

variable {α β : Type} (client : StreamRef)

/-- A program goes through what is left of an opening, and it ends in a stage and with a value as they
should be.  A program the opening of which has failed may do anything but reach a destination. -/
inductive Leads (ends : Stage → α → Prop) : Stage → Program α → Prop
  /-- The program has ended. -/
  | done {stage : Stage} {value : α} (ended : ends stage value) : Leads ends stage (.done value)
  /-- Something quiet is asked for. -/
  | quiet {stage : Stage} {request : Request} {next : request.Reply → Program α}
      (still : request.isQuiet = true) (after : ∀ reply, Leads ends stage (next reply)) :
      Leads ends stage (.ask request next)
  /-- The next bytes of the preamble are read. -/
  | receive {preamble answers : Bytes} {count : Nat} {deadline : Option Nat}
      {next : Except IoError Bytes → Program α} (enough : count ≤ preamble.length)
      (received : Leads ends (.opening none (preamble.drop count) answers)
        (next (.ok (preamble.take count))))
      (failed : ∀ cause, Leads ends .spoiled (next (.error cause))) :
      Leads ends (.opening none preamble answers) (.ask (.receive client count deadline) next)
  /-- The next answer is written. -/
  | send {destination : Option StreamRef} {preamble bytes answers : Bytes}
      {next : Except IoError Unit → Program α}
      (sent : Leads ends (.opening destination preamble answers) (next (.ok ()))) :
      Leads ends (.opening destination preamble (bytes ++ answers)) (.ask (.send client bytes) next)
  /-- A destination is dialed. -/
  | dial {answers : Bytes} {route : Acl.Route} {next : Except Error StreamRef → Program α}
      (reached : ∀ destination, Leads ends (.opening (some destination) [] answers)
        (next (.ok destination)))
      (failed : ∀ error, Leads ends .spoiled (next (.error error))) :
      Leads ends (.opening none [] answers) (.ask (.dial route) next)
  /-- Bytes are relayed behind the opening. -/
  | relay {destination : StreamRef} {idle : Option Nat} {next : Except Error Unit → Program α}
      (relayed : ∀ reply, Leads ends (.behind destination) (next reply)) :
      Leads ends (.opening (some destination) [] []) (.ask (.relay client destination idle) next)
  /-- The opening fails before a destination is reached. -/
  | abandoned {preamble answers : Bytes} {program : Program α}
      (after : Leads ends .spoiled program) : Leads ends (.opening none preamble answers) program
  /-- The opening has failed. -/
  | spoiled {request : Request} {next : request.Reply → Program α}
      (other : ∀ route, request ≠ .dial route)
      (after : ∀ reply, Leads ends .spoiled (next reply)) :
      Leads ends .spoiled (.ask request next)

/-- A program should end behind its opening, or after it has failed. -/
def Stage.IsPast {α : Type} (stage : Stage) (_ : α) : Prop :=
  match stage with
  | opening .. => False
  | _ => True

/-- Something ends in a stage with a value, or it fails and the opening with it. -/
inductive Attains (stage : Stage) (value : α) : Stage → Except Error α → Prop
  /-- It succeeds. -/
  | succeeded : Attains stage value stage (.ok value)
  /-- It fails. -/
  | failed (error : Error) : Attains stage value .spoiled (.error error)

variable {client} {ends : Stage → α → Prop} {stage : Stage}

theorem Leads.of_spoiled {request : Request} {next : request.Reply → Program α}
    (leads : Leads client ends .spoiled (.ask request next)) :
    (∀ route, request ≠ .dial route) ∧ ∀ reply, Leads client ends .spoiled (next reply) := by
  cases leads with
  | quiet still after =>
      refine ⟨fun route same => ?_, after⟩
      subst same
      cases still
  | spoiled other after => exact ⟨other, after⟩

theorem Leads.bind {later : Stage → β → Prop} {program : Program α} {next : α → Program β}
    (first : Leads client ends stage program)
    (second : ∀ stage value, ends stage value → Leads client later stage (next value)) :
    Leads client later stage (program.bind next) := by
  induction first with
  | done ended => exact second _ _ ended
  | quiet still _ ih => exact .quiet still ih
  | receive enough _ _ received failed => exact .receive enough received failed
  | send _ sent => exact .send sent
  | dial _ _ reached failed => exact .dial reached failed
  | relay _ relayed => exact .relay relayed
  | abandoned _ ih => exact .abandoned ih
  | spoiled other _ ih => exact .spoiled other ih

variable {later : Stage → Except Error β → Prop} {middle : Stage} {value : α}

/-- Something goes on behind what has not failed. -/
theorem Leads.talk_bind {talk : Talk α} {next : α → Talk β}
    (first : Leads client (Attains middle value) stage talk.run)
    (second : Leads client later middle (next value).run)
    (failed : ∀ error, later .spoiled (.error error)) :
    Leads client later stage (talk >>= next).run := by
  refine first.bind fun reached result attains => ?_
  cases attains with
  | succeeded => exact second
  | failed error => exact .done (failed error)

theorem Leads.attempt_bind {talk : Talk α} {next : Except Error α → Talk β}
    {ends : Stage → Except Error α → Prop} (first : Leads client ends stage talk.run)
    (second : ∀ stage result, ends stage result → Leads client later stage (next result).run) :
    Leads client later stage (Talk.attempt talk >>= next).run := by
  change Leads client later stage ((Talk.attempt talk).run.bind (ExceptT.bindCont next))
  rw [Talk.run_attempt_bind]
  exact first.bind second

theorem Leads.releasing {talk : Talk α} {ends : Stage → Except Error α → Prop}
    (leads : Leads client ends stage talk.run) (stream : StreamRef) :
    Leads client ends stage (Talk.releasing stream talk).run :=
  leads.bind fun _ _ ended => .quiet rfl fun _ => .done ended

/-- A message is read from the front of the preamble. -/
theorem leads_read {reader : Wire.Reader α} {preamble rest : Bytes} (answers : Bytes)
    (deadline : Option Nat) (reads : reader.run preamble = (.ok value, rest)) :
    Leads client (Attains (.opening none rest answers) value) (.opening none preamble answers)
      (Talk.read client deadline reader).run := by
  induction reader generalizing preamble with
  | done result =>
      cases reads
      exact .done .succeeded
  | fail error => cases reads
  | take count next ih =>
      rw [Wire.Reader.run] at reads
      split at reads
      · rw [Talk.read, ExceptT.run_mk]
        exact .receive ‹_› (ih _ reads) fun cause => .done (.failed _)
      · cases reads

/-- A message is the next answer. -/
theorem leads_write (destination : Option StreamRef) (preamble bytes answers : Bytes) :
    Leads client (Attains (.opening destination preamble answers) ())
      (.opening destination preamble (bytes ++ answers)) (Talk.write client (.ok bytes)).run :=
  .send (.done .succeeded)

end Leads

/-! ## What a history has done -/

/-- A deed moves no bytes and reaches no destination. -/
structure Deed.Inert (deed : Deed) : Prop where
  /-- It takes nothing. -/
  taken : ∀ stream, deed.taken stream = []
  /-- It gives nothing. -/
  given : ∀ stream, deed.given stream = []
  /-- It reaches no destination. -/
  dialed : deed.dialed? = none
  /-- It is no part of a relay. -/
  relayed : deed.relayed? = none

/-- What has been done once bytes may be relayed to a destination. -/
structure Passed (client destination : StreamRef) (preamble answers : Bytes) (log : List Deed) :
    Prop where
  /-- Only this destination was reached. -/
  reached : destinations log = [destination]
  /-- What was read from the client is the preamble and what was relayed. -/
  read : bytesFrom client log = preamble ++ Relay.bytesRead .outbound (relayLog log)
  /-- What was written to the client are the answers and what was relayed. -/
  told : bytesTo client log = answers ++ Relay.bytesWritten .incoming (relayLog log)
  /-- What was read from the destination was read by the relay. -/
  taken : bytesFrom destination log = Relay.bytesRead .incoming (relayLog log)
  /-- What was written to the destination was written by the relay. -/
  given : bytesTo destination log = Relay.bytesWritten .outbound (relayLog log)
  /-- Nothing was relayed between other streams. -/
  between : ∀ deed ∈ log, ∀ event, deed.relayed? = some event →
    deed = .relayed client destination event

/-- What has been done by the time a stage is reached. -/
inductive Stage.Agrees (client : StreamRef) (preamble answers : Bytes) (log : List Deed) :
    Stage → Prop
  /-- A part of the opening is left, and only the client has been read from and written to. -/
  | opening {destination : Option StreamRef} {left due : Bytes}
      (read : bytesFrom client log ++ left = preamble) (told : bytesTo client log ++ due = answers)
      (reached : destinations log = destination.toList) (relayed : relayLog log = [])
      (others : ∀ stream ≠ client, bytesFrom stream log = [] ∧ bytesTo stream log = []) :
      Agrees client preamble answers log (.opening destination left due)
  /-- The opening is over. -/
  | behind {destination : StreamRef} {idle : Option Nat} {activity : Nat} {relay : Relay}
      (passed : Passed client destination preamble answers log)
      (ran : Relay.Reaches idle activity (relayLog log) relay) :
      Agrees client preamble answers log (.behind destination)
  /-- The opening has failed. -/
  | spoiled (unreached : destinations log = []) : Agrees client preamble answers log .spoiled

section Run

variable {α : Type} {client : StreamRef} {preamble payload answers : Bytes} {log : List Deed}

theorem Deed.Inert.of_isQuiet {request : Request} (still : request.isQuiet = true)
    (reply : request.Reply) : (Deed.asked ⟨request, reply⟩).Inert := by
  cases request with
  | observe | release => exact ⟨fun _ => rfl, fun _ => rfl, rfl, rfl⟩
  | _ => cases still

/-- What moves no bytes does not matter once bytes may be relayed. -/
theorem Passed.still {destination : StreamRef} {deed : Deed}
    (passed : Passed client destination preamble answers log) (inert : deed.Inert) :
    Passed client destination preamble answers (log ++ [deed]) := by
  have relayed : relayLog (log ++ [deed]) = relayLog log := by simp [inert.relayed]
  constructor
  · simp [inert.dialed, passed.reached]
  · simp [inert.taken, relayed, passed.read]
  · simp [inert.given, relayed, passed.told]
  · simp [inert.taken, relayed, passed.taken]
  · simp [inert.given, relayed, passed.given]
  · intro other member event happened
    rcases List.mem_append.mp member with old | new
    · exact passed.between other old event happened
    · rw [List.mem_singleton.mp new, inert.relayed] at happened
      cases happened

/-- A deed of the opening takes from the client what is left of the preamble, and gives to it what is
left of the answers. -/
theorem Stage.Agrees.extend {found reached : Option StreamRef} {left rest due later : Bytes}
    {deed : Deed} (agrees : (Stage.opening found left due).Agrees client preamble answers log)
    (taken : deed.taken client ++ rest = left) (given : deed.given client ++ later = due)
    (dialed : found.toList ++ deed.dialed?.toList = reached.toList) (relayed : deed.relayed? = none)
    (apart : ∀ stream ≠ client, deed.taken stream = [] ∧ deed.given stream = []) :
    (Stage.opening reached rest later).Agrees client preamble answers (log ++ [deed]) := by
  cases agrees with
  | opening read told found_only unrelayed others =>
      refine .opening ?_ ?_ ?_ ?_ fun stream other => ?_
      · rw [bytesFrom_append, bytesFrom_singleton, List.append_assoc, taken, read]
      · rw [bytesTo_append, bytesTo_singleton, List.append_assoc, given, told]
      · rw [destinations_append, destinations_singleton, found_only, dialed]
      · rw [relayLog_append, relayLog_singleton, unrelayed, relayed]
        rfl
      · simp [apart stream other, others stream other]

/-- What moves no bytes does not matter. -/
theorem Stage.Agrees.still {stage : Stage} {deed : Deed}
    (agrees : stage.Agrees client preamble answers log) (inert : deed.Inert) :
    stage.Agrees client preamble answers (log ++ [deed]) := by
  cases agrees with
  | opening read told reached relayed others =>
      refine Stage.Agrees.extend (.opening read told reached relayed others) ?_ ?_ ?_ inert.relayed
        fun stream _ => ⟨inert.taken stream, inert.given stream⟩
      · rw [inert.taken, List.nil_append]
      · rw [inert.given, List.nil_append]
      · rw [inert.dialed, Option.toList_none, List.append_nil]
  | @behind destination idle activity relay passed ran =>
      have still : Relay.Reaches idle activity (relayLog (log ++ [deed])) relay := by
        simpa [inert.relayed] using ran
      exact .behind (passed.still inert) still
  | spoiled unreached => exact .spoiled (by simp [inert.dialed, unreached])

/-- The front of what is left of the preamble is read. -/
theorem Stage.Agrees.read {bytes left due : Bytes}
    (agrees : (Stage.opening none (bytes ++ left) due).Agrees client preamble answers log)
    (room : Nat) : (Stage.opening none left due).Agrees client preamble answers
      (log ++ [.read client room (.ok bytes)]) := by
  refine agrees.extend ?_ rfl rfl rfl fun stream other => ⟨if_neg (Ne.symm other), rfl⟩
  rw [Deed.taken, if_pos rfl]

/-- The front of the answers which are left is written. -/
theorem Stage.Agrees.write {destination : Option StreamRef} {left rest due : Bytes} {count : Nat}
    (agrees : (Stage.opening destination left (rest ++ due)).Agrees client preamble answers log) :
    (Stage.opening destination left (rest.drop count ++ due)).Agrees client preamble answers
      (log ++ [.write client rest (.ok count)]) := by
  refine agrees.extend rfl ?_ (List.append_nil _) rfl fun stream other =>
    ⟨rfl, if_neg (Ne.symm other)⟩
  rw [Deed.given, if_pos rfl, ← List.append_assoc, List.take_append_drop]

/-- A destination is reached while there is none. -/
theorem Stage.Agrees.reach {left due : Bytes}
    (agrees : (Stage.opening none left due).Agrees client preamble answers log) (route : Acl.Route)
    (destination : StreamRef) :
    (Stage.opening (some destination) left due).Agrees client preamble answers
      (log ++ [.asked ⟨.dial route, .ok destination⟩]) :=
  agrees.extend rfl rfl rfl rfl fun _ _ => ⟨rfl, rfl⟩

/-- Nothing is left of the opening, so bytes may be relayed. -/
theorem Stage.Agrees.passed {destination : StreamRef}
    (agrees : (Stage.opening (some destination) [] []).Agrees client preamble answers log)
    (apart : destination ≠ client) :
    Passed client destination preamble answers log ∧ relayLog log = [] := by
  cases agrees with
  | opening read told reached relayed others =>
      rw [List.append_nil] at read told
      obtain ⟨untaken, ungiven⟩ := others destination apart
      refine ⟨⟨reached, ?_, ?_, ?_, ?_, fun deed member event same => ?_⟩, relayed⟩
      · rw [relayed, read]
        exact (List.append_nil _).symm
      · rw [relayed, told]
        exact (List.append_nil _).symm
      · rw [relayed, untaken]
        rfl
      · rw [relayed, ungiven]
        rfl
      · rw [relayLog, List.filterMap_eq_nil_iff] at relayed
        rw [relayed deed member] at same
        cases same

/-- What a relay reads is read from the source of its direction. -/
theorem Deed.taken_relayed {near far : StreamRef} (apart : far ≠ near) (event : Relay.Event)
    (direction : Direction) :
    (Deed.relayed near far event).taken (direction.source near far) = event.taken direction := by
  cases event with
  | read source now reply =>
      cases reply <;> cases source <;> cases direction <;>
        simp [Deed.taken, Relay.Event.taken, Direction.source, apart, apart.symm]
  | _ => rfl

/-- What a relay writes is written to the destination of its direction. -/
theorem Deed.given_relayed {near far : StreamRef} (apart : far ≠ near) (event : Relay.Event)
    (direction : Direction) :
    (Deed.relayed near far event).given (direction.destination near far) =
      event.given direction := by
  cases event with
  | write source rest reply =>
      cases reply <;> cases source <;> cases direction <;>
        simp [Deed.given, Relay.Event.given, Direction.destination, apart, apart.symm]
  | _ => rfl

/-- A relay keeps account of what it reads and writes. -/
theorem Passed.relay {destination : StreamRef}
    (passed : Passed client destination preamble answers log) (apart : destination ≠ client)
    (event : Relay.Event) :
    Passed client destination preamble answers (log ++ [.relayed client destination event]) := by
  constructor
  · rw [destinations_append, passed.reached]
    rfl
  · rw [relayLog_concat_relayed, Relay.bytesRead_concat, bytesFrom_append, bytesFrom_singleton,
      passed.read, List.append_assoc, ← Deed.taken_relayed apart event .outbound]
    rfl
  · rw [relayLog_concat_relayed, Relay.bytesWritten_concat, bytesTo_append, bytesTo_singleton,
      passed.told, List.append_assoc, ← Deed.given_relayed apart event .incoming]
    rfl
  · rw [relayLog_concat_relayed, Relay.bytesRead_concat, bytesFrom_append, bytesFrom_singleton,
      passed.taken, ← Deed.taken_relayed apart event .incoming]
    rfl
  · rw [relayLog_concat_relayed, Relay.bytesWritten_concat, bytesTo_append, bytesTo_singleton,
      passed.given, ← Deed.given_relayed apart event .outbound]
    rfl
  · intro deed member happened relayed
    rcases List.mem_append.mp member with old | new
    · exact passed.between deed old happened relayed
    · rw [List.mem_singleton.mp new] at relayed ⊢
      cases relayed
      rfl

/-! ## Runs -/

/-- The opening of a session has failed for good. -/
def Progress.Spoiled (client : StreamRef) : Progress α → Prop
  | running program => Leads client Stage.IsPast .spoiled program
  | gathering _ _ _ next => ∀ reply, Leads client Stage.IsPast .spoiled (next reply)
  | writing _ _ next => ∀ reply, Leads client Stage.IsPast .spoiled (next reply)
  | relaying _ _ _ next => ∀ reply, Leads client Stage.IsPast .spoiled (next reply)

/-- How far a session has come agrees with what it has done. -/
inductive Standing (client : StreamRef) (preamble answers : Bytes) (log : List Deed) :
    Progress α → Prop
  /-- The program goes through what is left of the opening. -/
  | running {stage : Stage} {program : Program α}
      (agrees : stage.Agrees client preamble answers log)
      (leads : Leads client Stage.IsPast stage program) :
      Standing client preamble answers log (.running program)
  /-- The next bytes of the preamble are being read. -/
  | gathering {left due gathered : Bytes} {missing : Nat} {next : Except IoError Bytes → Program α}
      (agrees : (Stage.opening none left due).Agrees client preamble answers log)
      (enough : missing ≤ left.length)
      (received : Leads client Stage.IsPast
        (.opening none (left.drop missing) due) (next (.ok (gathered ++ left.take missing))))
      (failed : ∀ cause, Leads client Stage.IsPast .spoiled (next (.error cause))) :
      Standing client preamble answers log (.gathering client missing gathered next)
  /-- The next answer is being written. -/
  | writing {destination : Option StreamRef} {left rest due : Bytes}
      {next : Except IoError Unit → Program α}
      (agrees : (Stage.opening destination left (rest ++ due)).Agrees client preamble answers log)
      (sent : Leads client Stage.IsPast (.opening destination left due)
        (next (.ok ()))) :
      Standing client preamble answers log (.writing client rest next)
  /-- Bytes are being relayed. -/
  | relaying {destination : StreamRef} {idle : Option Nat} {activity : Nat} {relay : Relay}
      {next : Except Error Unit → Program α}
      (passed : Passed client destination preamble answers log)
      (ran : Relay.Reaches idle activity (relayLog log) relay)
      (after : ∀ reply, Leads client Stage.IsPast (.behind destination) (next reply)) :
      Standing client preamble answers log (.relaying client destination relay next)
  /-- The opening has failed. -/
  | spoiled {progress : Progress α} (unreached : destinations log = [])
      (spoiled : progress.Spoiled client) : Standing client preamble answers log progress

theorem destinations_asked {request : Request} (other : ∀ route, request ≠ .dial route)
    (reply : request.Reply) : destinations [.asked ⟨request, reply⟩] = [] := by
  cases request with
  | dial route => exact absurd rfl (other route)
  | _ => rfl

open Progress (Step)

variable {deeds : List Deed} {before after : Progress α}

theorem Progress.spoiled_afterRead {next : Except IoError Bytes → Program α}
    (spoiled : ∀ reply, Leads client Stage.IsPast .spoiled (next reply)) (stream : StreamRef)
    (missing : Nat) (gathered : Bytes) (reply : Except IoError Bytes) :
    (afterRead stream missing gathered next reply).Spoiled client := by
  rcases reply with cause | _ | _
  · rw [afterRead]
    split
    · exact spoiled
    · exact spoiled _
  · exact spoiled _
  · exact spoiled

theorem Progress.spoiled_afterWrite {next : Except IoError Unit → Program α}
    (spoiled : ∀ reply, Leads client Stage.IsPast .spoiled (next reply)) (stream : StreamRef)
    (rest : Bytes) (reply : Except IoError Nat) :
    (afterWrite stream rest next reply).Spoiled client := by
  rcases reply with cause | _ | _
  · rw [afterWrite]
    split
    · exact spoiled
    · exact spoiled _
  · exact spoiled _
  · exact spoiled

/-- Nothing is reached behind an opening which has failed. -/
theorem Progress.Spoiled.step (spoiled : before.Spoiled client) (step : Step before deeds after) :
    after.Spoiled client ∧ destinations deeds = [] := by
  cases step with
  | ask plain reply =>
      obtain ⟨other, after⟩ := spoiled.of_spoiled
      exact ⟨after reply, destinations_asked other reply⟩
  | receive | send => exact ⟨spoiled.of_spoiled.2, rfl⟩
  | read reply => exact ⟨Progress.spoiled_afterRead spoiled .., rfl⟩
  | write reply => exact ⟨Progress.spoiled_afterWrite spoiled .., rfl⟩
  | received | sent | relayed => exact ⟨spoiled _, rfl⟩
  | prepare => exact ⟨spoiled.of_spoiled.2, rfl⟩
  | unprepared error => exact ⟨spoiled.of_spoiled.2 _, rfl⟩
  | relay => exact ⟨spoiled, rfl⟩

theorem Standing.of_spoiled (unreached : destinations log = []) (spoiled : before.Spoiled client)
    (step : Step before deeds after) : Standing client preamble answers (log ++ deeds) after := by
  obtain ⟨spoiled, nothing⟩ := spoiled.step step
  refine .spoiled ?_ spoiled
  rw [destinations_append, unreached, nothing]
  rfl

/-- A program which goes through its opening asks for the next thing. -/
theorem Standing.of_running {stage : Stage} {program : Program α}
    (agrees : stage.Agrees client preamble answers log)
    (leads : Leads client Stage.IsPast stage program)
    (apart : ∀ destination, stage = .opening (some destination) [] [] → destination ≠ client)
    (step : Step (.running program) deeds after) :
    Standing client preamble answers (log ++ deeds) after := by
  cases leads with
  | done => cases step
  | quiet still after =>
      cases step with
      | ask plain reply => exact .running (agrees.still (.of_isQuiet still reply)) (after reply)
      | _ => cases still
  | receive enough received failed =>
      cases step with
      | ask plain => cases plain
      | receive =>
          rw [List.append_nil]
          exact .gathering agrees enough received failed
  | send sent =>
      cases step with
      | ask plain => cases plain
      | send =>
          rw [List.append_nil]
          exact .writing agrees sent
  | dial reached failed =>
      cases step with
      | ask plain reply =>
          cases reply with
          | ok destination => exact .running (agrees.reach _ destination) (reached destination)
          | error error =>
              cases agrees with
              | opening read told nothing relayed others =>
                  refine .spoiled ?_ (failed error)
                  rw [destinations_append, nothing]
                  rfl
  | @relay destination idle next after =>
      have inert (reply : Except Error Nat) : (Deed.prepared client destination reply).Inert :=
        ⟨fun _ => rfl, fun _ => rfl, rfl, rfl⟩
      obtain ⟨passed, unrelayed⟩ := agrees.passed (apart destination rfl)
      have ran (reply : Except Error Nat) (activity : Nat) : Relay.Reaches idle activity
          (relayLog (log ++ [.prepared client destination reply])) (.start idle activity) := by
        rw [relayLog_append, unrelayed]
        exact .start
      cases step with
      | ask plain => cases plain
      | prepare activity => exact .relaying (passed.still (inert _)) (ran _ activity) after
      | unprepared error => exact .running (.behind (passed.still (inert _)) (ran _ 0)) (after _)
  | abandoned after =>
      cases agrees with
      | opening _ _ unreached =>
          have spoiled : (Progress.running program).Spoiled client := after
          exact .of_spoiled unreached spoiled step
  | @spoiled request next other after =>
      have spoiled : (Progress.running (.ask request next)).Spoiled client := .spoiled other after
      cases agrees with
      | spoiled unreached => exact .of_spoiled unreached spoiled step

/-- The next bytes of the preamble are read from what the client sends. -/
theorem Standing.of_gathering {left due gathered : Bytes} {missing : Nat}
    {next : Except IoError Bytes → Program α}
    (agrees : (Stage.opening none left due).Agrees client preamble answers log)
    (enough : missing ≤ left.length)
    (received : Leads client Stage.IsPast (.opening none (left.drop missing) due)
      (next (.ok (gathered ++ left.take missing))))
    (failed : ∀ cause, Leads client Stage.IsPast .spoiled (next (.error cause)))
    (inOrder : bytesFrom client (log ++ deeds) <+: preamble ++ payload)
    (step : Step (.gathering client missing gathered next) deeds after) :
    Standing client preamble answers (log ++ deeds) after := by
  have unreached : destinations log = [] := by
    cases agrees with
    | opening _ _ reached => exact reached
  cases step with
  | received =>
      rw [List.append_nil]
      refine .running agrees ?_
      simpa using received
  | read reply some_missing fits =>
      have nothing : destinations (log ++ [.read client missing reply]) = [] := by
        rw [destinations_append, unreached]
        rfl
      rcases reply with cause | _ | ⟨byte, chunk⟩
      · have inert : (Deed.read client missing (.error cause)).Inert :=
          ⟨fun _ => rfl, fun _ => rfl, rfl, rfl⟩
        rw [Progress.afterRead]
        split
        · exact .gathering (agrees.still inert) enough received failed
        · exact .spoiled nothing (failed cause)
      · exact .spoiled nothing (failed _)
      · have short : (byte :: chunk).length ≤ left.length := (fits _ rfl).trans enough
        -- What comes is the front of what is left, since there was no room for more.
        obtain ⟨rest, rfl⟩ : byte :: chunk <+: left := by
          refine List.prefix_of_prefix_length_le ?_ (List.prefix_append left payload) short
          cases agrees with
          | opening read =>
              rw [← read, List.append_assoc, bytesFrom_append, bytesFrom_singleton, Deed.taken,
                if_pos rfl] at inOrder
              exact (List.prefix_append_right_inj _).mp inOrder
        have fits : (byte :: chunk).length ≤ missing := fits _ rfl
        rw [List.drop_append, List.take_append, List.drop_of_length_le fits,
          List.take_of_length_le fits, List.nil_append, ← List.append_assoc] at received
        refine .gathering (agrees.read missing) ?_ received failed
        rw [List.length_append] at enough
        omega

/-- The next answer is written as far as it is taken. -/
theorem Standing.of_writing {destination : Option StreamRef} {left rest due : Bytes}
    {next : Except IoError Unit → Program α}
    (agrees : (Stage.opening destination left (rest ++ due)).Agrees client preamble answers log)
    (sent : Leads client Stage.IsPast (.opening destination left due) (next (.ok ())))
    (heeded : ∀ deed ∈ deeds, deed.isRefusal client = false)
    (step : Step (.writing client rest next) deeds after) :
    Standing client preamble answers (log ++ deeds) after := by
  cases step with
  | sent =>
      rw [List.append_nil]
      exact .running agrees sent
  | write reply some_left fits =>
      have taken := heeded _ List.mem_cons_self
      rcases reply with cause | _ | count
      · have interrupted : cause.kind = .interrupted := by simpa [Deed.isRefusal] using taken
        have inert : (Deed.write client rest (.error cause)).Inert :=
          ⟨fun _ => rfl, fun _ => rfl, rfl, rfl⟩
        rw [Progress.afterWrite, if_pos interrupted]
        exact .writing (agrees.still inert) sent
      · simp [Deed.isRefusal] at taken
      · exact .writing agrees.write sent

/-- A step of a session keeps how far it has come in agreement with what it has done. -/
theorem Standing.step (standing : Standing client preamble answers log before)
    (step : Step before deeds after)
    (inOrder : bytesFrom client (log ++ deeds) <+: preamble ++ payload)
    (heeded : ∀ deed ∈ deeds, deed.isRefusal client = false)
    (apart : ∀ destination ∈ destinations log, destination ≠ client) :
    Standing client preamble answers (log ++ deeds) after := by
  cases standing with
  | running agrees leads =>
      refine .of_running agrees leads (fun destination same => ?_) step
      subst same
      cases agrees with
      | opening _ _ reached => exact apart destination (reached ▸ List.mem_singleton_self _)
  | gathering agrees enough received failed =>
      exact .of_gathering agrees enough received failed inOrder step
  | writing agrees sent => exact .of_writing agrees sent heeded step
  | @relaying destination idle activity relay next passed ran later =>
      cases step with
      | @relay _ _ _ after event _ step =>
          have fresh := apart _ (passed.reached ▸ List.mem_singleton_self _)
          have ran : Relay.Reaches idle activity
              (relayLog (log ++ [.relayed client destination event])) after := by
            rw [relayLog_concat_relayed]
            exact ran.step step
          exact .relaying (passed.relay fresh event) ran later
      | relayed ended =>
          rw [List.append_nil]
          exact .running (.behind passed ran) (later _)
  | spoiled unreached spoiled => exact .of_spoiled unreached spoiled step

theorem Standing.start {program : Program α}
    (leads : Leads client Stage.IsPast (.opening none preamble answers) program) :
    Standing client preamble answers [] (.running program) :=
  .running (.opening rfl rfl rfl rfl fun _ _ => ⟨rfl, rfl⟩) leads

/-- How far a session has come agrees with what it has done. -/
theorem standing_of_reaches {program : Program α} {progress : Progress α}
    (leads : Leads client Stage.IsPast (.opening none preamble answers) program)
    (reached : Progress.Reaches (.running program) log progress)
    (inOrder : bytesFrom client log <+: preamble ++ payload) (heeded : Heeds client log)
    (apart : ∀ destination ∈ destinations log, destination ≠ client) :
    Standing client preamble answers log progress := by
  induction reached with
  | start => exact .start leads
  | @step log deeds before after reached step ih =>
      -- What is known of the whole history is known of its front.
      have standing := ih
        ((bytesFrom_append client log deeds ▸ List.prefix_append _ _).trans inOrder)
        (fun deed member => heeded deed (List.mem_append_left _ member))
        fun destination member => apart destination (by simp [member])
      exact standing.step step inOrder
        (fun deed member => heeded deed (List.mem_append_right _ member))
        fun destination member => apart destination (by simp [member])

end Run

/-! ## What has passed -/

/-- Nothing was closed when the direction which reported first met the end of its source. -/
theorem Relay.First.unclosed {idle : Option Nat} {activity : Nat} {log past later : List Relay.Event}
    {relay : Relay} {direction : Direction} {result : Except Error Unit} {event : Relay.Event}
    (first : Relay.First idle activity log direction result)
    (reached : Relay.Reaches idle activity log relay) (split : log = past ++ event :: later)
    (ends : event.isEnd direction = true) :
    ∀ closing ∈ past, ¬ (closing.isCloseNear = true ∨ closing.isCloseFar = true) := by
  intro closing member closes
  obtain ⟨before, after, reached_past, step⟩ := reached.at_split split
  obtain ⟨front, back, rfl⟩ := List.append_of_mem member
  obtain ⟨other, outcome, earlier⟩ :=
    (Relay.orderly_of_reaches reached_past).closed front closing back rfl closes
  have reported := earlier.append (closing :: back)
  have same : direction = other := first.unique (split ▸ reported.append (event :: later))
  have ended := reported.ended reached_past
  rw [← same] at ended
  -- A direction which has ended reads nothing more.
  cases step with
  | read source now reply turn =>
      rcases reply with _ | _ | _
      · cases ends
      · obtain rfl : source = direction := by simpa [Relay.Event.isEnd] using ends
        rw [turn] at ended
        cases ended
      · cases ends
  | _ => cases ends

section Passage

variable {α : Type}

/-- What a session which reached a destination has passed on between the client and the destination. -/
structure Passage (client destination : StreamRef) (payload answers : Bytes) (log : List Deed)
    (progress : Progress α) : Prop where
  /-- What has happened in relays has happened in one. -/
  relayed : ∃ idle activity relay, Relay.Reaches idle activity (relayLog log) relay
  /-- What is written to the destination is the payload from its first byte. -/
  outbound : bytesTo destination log <+: payload
  /-- All of the payload is written if the client was the first to stop, by ending its stream. -/
  whole : ∀ idle activity relay result, Relay.Reaches idle activity (relayLog log) relay →
    Relay.First idle activity (relayLog log) .outbound result →
      Relay.metEnd .outbound (relayLog log) = true → bytesTo destination log = payload
  /-- What is written to the client are the answers, and behind them what the destination sends from
  its first byte. -/
  incoming : bytesTo client log <+: answers ++ bytesFrom destination log
  /-- No answer is missing once something was relayed or the session has ended. -/
  answered : relayLog log ≠ [] ∨ (∃ value, progress = .running (.done value)) →
    answers <+: bytesTo client log

variable {client destination : StreamRef} {preamble payload answers : Bytes} {log : List Deed}
  {progress : Progress α} {program : Program α}

theorem Deed.relayed_of_closes {stream : StreamRef} {deed : Deed}
    (closes : deed.closes stream = true) :
    ∃ event, deed.relayed? = some event ∧ (event.isCloseNear = true ∨ event.isCloseFar = true) := by
  cases deed with
  | relayed near far event =>
      cases event with
      | closeNear => exact ⟨_, rfl, .inl rfl⟩
      | closeFar => exact ⟨_, rfl, .inr rfl⟩
      | _ => cases closes
  | _ => cases closes

theorem Deed.isEnd_relayed {near far : StreamRef} {event : Relay.Event} {direction : Direction}
    (ends : event.isEnd direction = true) :
    (Deed.relayed near far event).isEnd (direction.source near far) = true := by
  cases event with
  | read source now reply =>
      rcases reply with _ | _ | _
      · cases ends
      · obtain rfl : source = direction := by simpa [Relay.Event.isEnd] using ends
        exact decide_eq_true rfl
      · cases ends
  | _ => cases ends

/-- A client which is the first to stop, by ending its stream, has been read to the end. -/
theorem Passed.whole {idle : Option Nat} {activity : Nat} {relay : Relay}
    {result : Except Error Unit} (passed : Passed client destination preamble answers log)
    (delivers : Delivers client (preamble ++ payload) log)
    (ran : Relay.Reaches idle activity (relayLog log) relay)
    (first : Relay.First idle activity (relayLog log) .outbound result)
    (ended : Relay.metEnd .outbound (relayLog log) = true) :
    Relay.bytesRead .outbound (relayLog log) = payload := by
  obtain ⟨event, member, ends⟩ := List.any_eq_true.mp ended
  obtain ⟨deed, done, relayed⟩ := List.mem_filterMap.mp member
  obtain ⟨past, later, split⟩ := List.append_of_mem done
  have between := passed.between deed done event relayed
  have relay_split : relayLog log = relayLog past ++ event :: relayLog later := by
    rw [split, relayLog_append, relayLog, relayLog, List.filterMap_cons, relayed]
    rfl
  have open_still := first.unclosed ran relay_split ends
  have unclosed : past.any (Deed.closes client) = false := by
    rw [List.any_eq_false]
    intro other earlier closes
    obtain ⟨happened, same, closing⟩ := Deed.relayed_of_closes closes
    exact open_still happened (List.mem_filterMap.mpr ⟨other, earlier, same⟩) closing
  have whole : bytesFrom client past = preamble ++ payload := by
    refine delivers.whole.at_split split ?_ unclosed
    rw [between]
    exact Deed.isEnd_relayed ends
  have front : bytesFrom client past <+: bytesFrom client log := by
    rw [split, bytesFrom_append]
    exact List.prefix_append ..
  have all := delivers.inOrder.eq_of_length_le (whole ▸ front.length_le)
  rw [passed.read] at all
  exact List.append_cancel_left all

theorem Passed.passage {idle : Option Nat} {activity : Nat} {relay : Relay}
    (passed : Passed client destination preamble answers log)
    (ran : Relay.Reaches idle activity (relayLog log) relay)
    (delivers : Delivers client (preamble ++ payload) log) :
    Passage client destination payload answers log progress := by
  have taken : Relay.bytesRead .outbound (relayLog log) <+: payload :=
    (List.prefix_append_right_inj preamble).mp (passed.read ▸ delivers.inOrder)
  constructor
  · exact ⟨idle, activity, relay, ran⟩
  · rw [passed.given]
    exact (ran.carried .outbound).written_isPrefix.trans taken
  · intro idle activity relay result reached first ended
    have carried := reached.carried .outbound
    rw [ended] at carried
    rw [passed.given, carried.written_eq, passed.whole delivers reached first ended]
  · rw [passed.told, passed.taken]
    exact (List.prefix_append_right_inj answers).mpr (ran.carried .incoming).written_isPrefix
  · rw [passed.told]
    exact fun _ => List.prefix_append ..

/-- Nothing is passed on before the relay begins. -/
theorem Stage.Agrees.passage {found : Option StreamRef} {left due : Bytes}
    (agrees : (Stage.opening found left due).Agrees client preamble answers log)
    (apart : destination ≠ client) (going_on : ∀ value, progress ≠ .running (.done value)) :
    Passage client destination payload answers log progress := by
  cases agrees with
  | opening read told reached relayed others =>
      obtain ⟨untaken, ungiven⟩ := others destination apart
      constructor
      · rw [relayed]
        exact ⟨none, 0, _, .start⟩
      · rw [ungiven]
        exact List.nil_prefix
      · intro idle activity relay result ran first
        rw [relayed] at first
        exact absurd first Relay.not_first_nil
      · rw [← told, List.append_assoc]
        exact List.prefix_append ..
      · rintro (something | ⟨value, ended⟩)
        · exact absurd relayed something
        · exact absurd ended (going_on value)

/-- A session which goes through its opening before it relays passes on what it should, whatever the
pieces are in which its streams give and take bytes. -/
theorem passage_of_leads (leads : Leads client Stage.IsPast (.opening none preamble answers) program)
    (reached : Progress.Reaches (.running program) log progress)
    (delivers : Delivers client (preamble ++ payload) log) (heeded : Heeds client log)
    (dialed : destination ∈ destinations log) (fresh : client ∉ destinations log) :
    Passage client destination payload answers log progress := by
  have apart (other : StreamRef) (member : other ∈ destinations log) : other ≠ client := by
    rintro rfl
    exact fresh member
  have only {other : StreamRef} (reached : destinations log = [other]) : other = destination := by
    rw [reached, List.mem_singleton] at dialed
    exact dialed.symm
  have nothing : destinations log ≠ [] := List.ne_nil_of_mem dialed
  cases standing_of_reaches leads reached delivers.inOrder heeded apart with
  | @running stage program agrees leads =>
      cases stage with
      | opening found left due =>
          -- A program does not end within its opening once a destination is reached.
          refine agrees.passage (apart destination dialed) fun value ended => ?_
          cases ended
          cases leads with
          | done ended => exact ended
          | abandoned =>
              cases agrees with
              | opening _ _ unreached => exact nothing unreached
      | behind other =>
          cases agrees with
          | behind passed ran =>
              cases only passed.reached
              exact passed.passage ran delivers
      | spoiled =>
          cases agrees with
          | spoiled unreached => exact absurd unreached nothing
  | gathering agrees => exact agrees.passage (apart destination dialed) nofun
  | writing agrees => exact agrees.passage (apart destination dialed) nofun
  | relaying passed ran =>
      cases only passed.reached
      exact passed.passage ran delivers
  | spoiled unreached => exact absurd unreached nothing

end Passage
end TunnelProxy
