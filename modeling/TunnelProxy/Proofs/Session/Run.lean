import TunnelProxy.Session.Program

/-!
# Runs of programs

A run of a program is the list of what it asked for together with the replies.  Every reply which a
request can get at all is allowed, so what holds of all runs holds for every peer, every network and
every timing.  The runs of a compound program are put together from those of its parts.
-/

namespace TunnelProxy

/-- A request of a program and the reply to it. -/
structure Exchange where
  /-- What was asked for. -/
  request : Request
  /-- What came back. -/
  reply : request.Reply

namespace Exchange

/-- Reading an exact number of bytes gives so many or fails, and reading none never fails. -/
def Admissible : Exchange → Prop
  | ⟨.receive _ count _, (reply : Except IoError Bytes)⟩ =>
      match reply with
      | .ok bytes => bytes.length = count
      | .error _ => 0 < count
  | _ => True

instance : DecidablePred Admissible
  | ⟨.receive _ count _, (.ok bytes : Except IoError Bytes)⟩ =>
      inferInstanceAs (Decidable (bytes.length = count))
  | ⟨.receive _ count _, (.error _ : Except IoError Bytes)⟩ => inferInstanceAs (Decidable (0 < count))
  | ⟨.limit .., _⟩ | ⟨.send .., _⟩ | ⟨.release .., _⟩ | ⟨.dial .., _⟩ | ⟨.relay .., _⟩
  | ⟨.observe .., _⟩ | ⟨.judge .., _⟩ | ⟨.connect, _⟩ | ⟨.accept .., _⟩ | ⟨.openStream .., _⟩
  | ⟨.pace .., _⟩ | ⟨.close .., _⟩ | ⟨.isClosed .., _⟩ | ⟨.serve .., _⟩ => .isTrue trivial

/-- The bytes which an exchange read from a stream. -/
def heard (stream : StreamRef) : Exchange → Bytes
  | ⟨.receive source _ _, (reply : Except IoError Bytes)⟩ =>
      match reply with
      | .ok bytes => if source = stream then bytes else []
      | .error _ => []
  | _ => []

/-- The messages which an exchange was to write to a stream. -/
def messages (stream : StreamRef) : Exchange → List Bytes
  | ⟨.send target bytes, _⟩ => if target = stream then [bytes] else []
  | _ => []

end Exchange

/-- The bytes which were read from a stream. -/
def heard (stream : StreamRef) (exchanges : List Exchange) : Bytes :=
  exchanges.flatMap (Exchange.heard stream)

/-- The messages which were to be written to a stream. -/
def messages (stream : StreamRef) (exchanges : List Exchange) : List Bytes :=
  exchanges.flatMap (Exchange.messages stream)

theorem heard_cons (stream : StreamRef) (exchange : Exchange) (exchanges : List Exchange) :
    heard stream (exchange :: exchanges) = exchange.heard stream ++ heard stream exchanges := rfl

@[simp] theorem heard_append (stream : StreamRef) (front back : List Exchange) :
    heard stream (front ++ back) = heard stream front ++ heard stream back := by
  simp [heard]

@[simp] theorem messages_append (stream : StreamRef) (front back : List Exchange) :
    messages stream (front ++ back) = messages stream front ++ messages stream back := by
  simp [messages]

/-- Something of a kind was asked for. -/
def Asked (kind : Request → Bool) (past : List Exchange) : Prop :=
  ∃ exchange ∈ past, kind exchange.request

@[simp] theorem asked_nil (kind : Request → Bool) : ¬ Asked kind [] := by
  simp [Asked]

@[simp] theorem asked_cons (kind : Request → Bool) (exchange : Exchange) (past : List Exchange) :
    Asked kind (exchange :: past) ↔ kind exchange.request ∨ Asked kind past := by
  simp [Asked]

@[simp] theorem asked_append (kind : Request → Bool) (front back : List Exchange) :
    Asked kind (front ++ back) ↔ Asked kind front ∨ Asked kind back := by
  simp [Asked, or_and_right, exists_or]

theorem heard_eq_nil {stream : StreamRef} {exchanges : List Exchange}
    (mute : ∀ exchange ∈ exchanges, ∀ source count deadline,
      exchange.request ≠ .receive source count deadline) : heard stream exchanges = [] := by
  rw [heard, List.flatMap_eq_nil_iff]
  rintro ⟨request, reply⟩ member
  cases request with
  | receive source count deadline => exact absurd rfl (mute _ member source count deadline)
  | _ => rfl

/-- Nothing but reads. -/
def OnlyReads (exchanges : List Exchange) : Prop :=
  ∀ exchange ∈ exchanges, ∃ stream count deadline, exchange.request = .receive stream count deadline

theorem OnlyReads.not_mem {reads : List Exchange} (only : OnlyReads reads) {exchange : Exchange}
    (other : ∀ stream count deadline, exchange.request ≠ .receive stream count deadline) :
    exchange ∉ reads := by
  intro member
  obtain ⟨stream, count, deadline, same⟩ := only exchange member
  exact other stream count deadline same

theorem OnlyReads.not_asked {reads : List Exchange} (only : OnlyReads reads) {kind : Request → Bool}
    (other : ∀ stream count deadline, ¬ kind (.receive stream count deadline)) :
    ¬ Asked kind reads := by
  rintro ⟨exchange, member, asked⟩
  obtain ⟨stream, count, deadline, same⟩ := only exchange member
  exact other stream count deadline (same ▸ asked)

/-- Each element of a list stands in a relation to those before it. -/
def Throughout {ε : Type} (holds : List ε → ε → Prop) (past : List ε) : List ε → Prop
  | [] => True
  | element :: rest => holds past element ∧ Throughout holds (past ++ [element]) rest

theorem throughout_append {ε : Type} (holds : List ε → ε → Prop) (past front back : List ε) :
    Throughout holds past (front ++ back) ↔
      Throughout holds past front ∧ Throughout holds (past ++ front) back := by
  induction front generalizing past with
  | nil => simp [Throughout]
  | cons element front ih => simp [Throughout, ih, and_assoc]

/-- Where an element stands does not matter to what holds throughout. -/
theorem Throughout.at_split {ε : Type} {holds : List ε → ε → Prop} {list before after : List ε}
    {element : ε} (throughout : Throughout holds [] list) (split : list = before ++ element :: after) :
    holds before element := by
  rw [split, throughout_append] at throughout
  exact throughout.2.1

/-- What holds of each element behind whatever else holds throughout. -/
theorem throughout_of_forall {ε : Type} {holds : List ε → ε → Prop} {past list : List ε}
    (all : ∀ past, ∀ element ∈ list, holds past element) : Throughout holds past list := by
  induction list generalizing past with
  | nil => trivial
  | cons element list ih =>
      exact ⟨all _ _ List.mem_cons_self,
        ih fun past later member => all past later (List.mem_cons_of_mem _ member)⟩

theorem Throughout.mono {ε : Type} {holds weaker : List ε → ε → Prop} {past list : List ε}
    (throughout : Throughout holds past list)
    (weaken : ∀ past element, holds past element → weaker past element) :
    Throughout weaker past list := by
  induction list generalizing past with
  | nil => trivial
  | cons element list ih => exact ⟨weaken _ _ throughout.1, ih throughout.2⟩

/-- What holds throughout still does behind elements which do not matter to it. -/
theorem Throughout.shift {ε : Type} {holds : List ε → ε → Prop} {front past list : List ε}
    (throughout : Throughout holds past list)
    (stable : ∀ past element, holds past element → holds (front ++ past) element) :
    Throughout holds (front ++ past) list := by
  induction list generalizing past with
  | nil => trivial
  | cons element list ih =>
      refine ⟨stable _ _ throughout.1, ?_⟩
      rw [List.append_assoc]
      exact ih throughout.2

/-- If each element of a kind comes before all others of the kind, there is at most one. -/
theorem countP_le_one {ε : Type} (kind : ε → Bool) {list : List ε}
    (first : Throughout (fun past element => kind element → past.countP kind = 0) [] list) :
    list.countP kind ≤ 1 := by
  suffices extended : ∀ past : List ε, past.countP kind ≤ 1 →
      Throughout (fun past element => kind element → past.countP kind = 0) past list →
        (past ++ list).countP kind ≤ 1 from extended [] (by simp) first
  clear first
  induction list with
  | nil =>
      intro past few _
      simpa using few
  | cons element list ih =>
      rintro past few ⟨here, later⟩
      rw [List.append_cons]
      refine ih _ ?_ later
      rw [List.countP_append, List.countP_singleton]
      split
      · simp [here ‹_›]
      · simpa using few

namespace Program

variable {α β : Type}

/-- What is left of a program after some exchanges. -/
inductive After : Program α → List Exchange → Program α → Prop
  /-- Nothing has been asked for yet. -/
  | start (program : Program α) : After program [] program
  /-- A request got a reply. -/
  | ask {request : Request} {next : request.Reply → Program α} {reply : request.Reply}
      {exchanges : List Exchange} {rest : Program α}
      (admissible : Exchange.Admissible ⟨request, reply⟩)
      (after : After (next reply) exchanges rest) :
      After (.ask request next) (⟨request, reply⟩ :: exchanges) rest

/-- A program can end with a value after some exchanges. -/
def Run (program : Program α) (exchanges : List Exchange) (value : α) : Prop :=
  After program exchanges (.done value)

theorem run_done_iff (value result : α) (exchanges : List Exchange) :
    Run (.done value) exchanges result ↔ exchanges = [] ∧ result = value := by
  constructor
  · intro run
    cases run
    exact ⟨rfl, rfl⟩
  · rintro ⟨rfl, rfl⟩
    exact .start _

theorem run_ask_iff (request : Request) (next : request.Reply → Program α)
    (exchanges : List Exchange) (result : α) :
    Run (.ask request next) exchanges result ↔
      ∃ reply rest, exchanges = ⟨request, reply⟩ :: rest ∧ Exchange.Admissible ⟨request, reply⟩ ∧
        Run (next reply) rest result := by
  constructor
  · intro run
    cases run with
    | ask admissible after => exact ⟨_, _, rfl, admissible, after⟩
  · rintro ⟨reply, rest, rfl, admissible, after⟩
    exact .ask admissible after

theorem run_request_iff (request : Request) (exchanges : List Exchange) (reply : request.Reply) :
    Run (Program.request request) exchanges reply ↔
      exchanges = [⟨request, reply⟩] ∧ Exchange.Admissible ⟨request, reply⟩ := by
  simp only [Program.request, run_ask_iff, run_done_iff]
  constructor
  · rintro ⟨reply', rest, rfl, admissible, rfl, rfl⟩
    exact ⟨rfl, admissible⟩
  · rintro ⟨rfl, admissible⟩
    exact ⟨reply, [], rfl, admissible, rfl, rfl⟩

/-- A run of one program after another is a run of the first and then one of the second. -/
theorem run_bind_iff (program : Program α) (next : α → Program β) (exchanges : List Exchange)
    (result : β) :
    Run (program >>= next) exchanges result ↔
      ∃ front value back, exchanges = front ++ back ∧ Run program front value ∧
        Run (next value) back result := by
  change Run (program.bind next) exchanges result ↔ _
  induction program generalizing exchanges with
  | done value =>
      simp only [bind, run_done_iff]
      constructor
      · intro run
        exact ⟨[], value, exchanges, rfl, ⟨rfl, rfl⟩, run⟩
      · rintro ⟨front, value', back, rfl, ⟨rfl, rfl⟩, run⟩
        exact run
  | ask request following ih =>
      simp only [bind, run_ask_iff]
      constructor
      · rintro ⟨reply, rest, rfl, admissible, run⟩
        obtain ⟨front, value, back, rfl, first, second⟩ := (ih reply rest).mp run
        exact ⟨_, value, back, rfl, ⟨reply, front, rfl, admissible, first⟩, second⟩
      · rintro ⟨_, value, back, rfl, ⟨reply, front, rfl, admissible, first⟩, second⟩
        exact ⟨reply, front ++ back, rfl, admissible,
          (ih reply _).mpr ⟨front, value, back, rfl, first, second⟩⟩

theorem After.run_append {program rest : Program α} {front back : List Exchange} {value : α}
    (after : After program front rest) (run : Run rest back value) :
    Run program (front ++ back) value := by
  induction after with
  | start => exact run
  | ask admissible _ ih => exact .ask admissible (ih run)

theorem After.trans {program middle final : Program α} {front back : List Exchange}
    (first : After program front middle) (second : After middle back final) :
    After program (front ++ back) final := by
  induction first with
  | start => exact second
  | ask admissible _ ih => exact .ask admissible (ih second)

theorem After.bind {program rest : Program α} {exchanges : List Exchange}
    (after : After program exchanges rest) (next : α → Program β) :
    After (program.bind next) exchanges (rest.bind next) := by
  induction after with
  | start => exact .start _
  | ask admissible _ ih => exact .ask admissible ih

/-- A program asks for nothing but what is allowed, whatever the replies are. -/
def Asks (allowed : Request → Prop) : Program α → Prop
  | .done _ => True
  | .ask request next => allowed request ∧ ∀ reply, (next reply).Asks allowed

theorem asks_bind {allowed : Request → Prop} {program : Program α} {next : α → Program β}
    (first : program.Asks allowed) (second : ∀ value, (next value).Asks allowed) :
    (program >>= next).Asks allowed := by
  change (program.bind next).Asks allowed
  induction program with
  | done value => exact second value
  | ask request following ih => exact ⟨first.1, fun reply => ih reply (first.2 reply)⟩

theorem Asks.mono {allowed wider : Request → Prop} {program : Program α}
    (asks : program.Asks allowed) (widen : ∀ request, allowed request → wider request) :
    program.Asks wider := by
  induction program with
  | done value => trivial
  | ask request next ih => exact ⟨widen request asks.1, fun reply => ih reply (asks.2 reply)⟩

theorem Asks.of_after {allowed : Request → Prop} {program rest : Program α}
    {exchanges : List Exchange} (asks : program.Asks allowed)
    (after : After program exchanges rest) : ∀ exchange ∈ exchanges, allowed exchange.request := by
  induction after with
  | start => simp
  | ask _ _ ih =>
      rintro exchange (_ | ⟨_, later⟩)
      · exact asks.1
      · exact ih (asks.2 _) exchange later

theorem exists_admissible (request : Request) :
    ∃ reply : request.Reply, Exchange.Admissible ⟨request, reply⟩ := by
  cases request with
  | receive stream count deadline => exact ⟨.ok (List.replicate count 0), List.length_replicate⟩
  | limit | send | relay | pace => exact ⟨.ok (), trivial⟩
  | release | observe | close | serve => exact ⟨(), trivial⟩
  | dial | connect | accept | openStream => exact ⟨.error default, trivial⟩
  | judge => exact ⟨⟨true, ""⟩, trivial⟩
  | isClosed => exact ⟨true, trivial⟩

/-- Whatever has been asked for so far, a program can still come to its end. -/
theorem exists_run (program : Program α) : ∃ exchanges value, Run program exchanges value := by
  induction program with
  | done value => exact ⟨[], value, .start _⟩
  | ask request next ih =>
      obtain ⟨reply, admissible⟩ := exists_admissible request
      obtain ⟨exchanges, value, run⟩ := ih reply
      exact ⟨_, value, .ask admissible run⟩

/-- The value with which a program ends after some exchanges, if it can go through them. -/
def replay? : Program α → List Exchange → Option α
  | .done value, [] => some value
  | .ask request next, ⟨asked, reply⟩ :: rest =>
      if same : asked = request then
        if Exchange.Admissible ⟨asked, reply⟩ then (next (same ▸ reply)).replay? rest else none
      else none
  | _, _ => none

theorem run_of_replay? {program : Program α} {exchanges : List Exchange} {value : α}
    (replayed : program.replay? exchanges = some value) : Run program exchanges value := by
  induction program generalizing exchanges with
  | done result =>
      cases exchanges with
      | nil =>
          cases replayed
          exact .start _
      | cons => cases replayed
  | ask request next ih =>
      rcases exchanges with - | ⟨⟨asked, reply⟩, rest⟩
      · cases replayed
      rw [replay?] at replayed
      split at replayed
      · rename_i same
        subst same
        split at replayed
        · exact .ask ‹_› (ih _ replayed)
        · cases replayed
      · cases replayed

end Program

namespace Talk

open Program (run_done_iff run_ask_iff)
open Wire (Reader)

variable {α β : Type}

/-- A program which may fail can end with an outcome after some exchanges. -/
abbrev Run (talk : Talk α) (exchanges : List Exchange) (outcome : Except Error α) : Prop :=
  Program.Run talk.run exchanges outcome

theorem run_pure_iff (value : α) (exchanges : List Exchange) (outcome : Except Error α) :
    Run (pure value) exchanges outcome ↔ exchanges = [] ∧ outcome = .ok value :=
  run_done_iff ..

theorem run_throw_iff (error : Error) (exchanges : List Exchange) (outcome : Except Error α) :
    Run (throw error) exchanges outcome ↔ exchanges = [] ∧ outcome = .error error :=
  run_done_iff ..

theorem run_bind_iff (talk : Talk α) (next : α → Talk β) (exchanges : List Exchange)
    (outcome : Except Error β) :
    Run (talk >>= next) exchanges outcome ↔
      (∃ front value back, exchanges = front ++ back ∧ Run talk front (.ok value) ∧
        Run (next value) back outcome) ∨
      (∃ error, Run talk exchanges (.error error) ∧ outcome = .error error) := by
  change Program.Run (talk.run >>= fun result => ExceptT.bindCont next result) exchanges outcome ↔ _
  rw [Program.run_bind_iff]
  constructor
  · rintro ⟨front, result, back, rfl, first, second⟩
    cases result with
    | ok value => exact .inl ⟨front, value, back, rfl, first, second⟩
    | error error =>
        obtain ⟨rfl, rfl⟩ := (run_done_iff ..).mp second
        exact .inr ⟨error, by simpa using first, rfl⟩
  · rintro (⟨front, value, back, rfl, first, second⟩ | ⟨error, first, rfl⟩)
    · exact ⟨front, .ok value, back, rfl, first, second⟩
    · exact ⟨exchanges, .error error, [], by simp, first, .start _⟩

/-- A run which succeeds fails nowhere. -/
theorem run_bind_ok_iff (talk : Talk α) (next : α → Talk β) (exchanges : List Exchange) (result : β) :
    Run (talk >>= next) exchanges (.ok result) ↔
      ∃ front value back, exchanges = front ++ back ∧ Run talk front (.ok value) ∧
        Run (next value) back (.ok result) := by
  rw [run_bind_iff]
  exact or_iff_left fun ⟨_, _, impossible⟩ => nomatch impossible

theorem run_map_iff (f : α → β) (talk : Talk α) (exchanges : List Exchange)
    (outcome : Except Error β) :
    Run (f <$> talk) exchanges outcome ↔
      ∃ result, Run talk exchanges result ∧ outcome = result.map f := by
  change Program.Run (talk.run >>= _) exchanges outcome ↔ _
  rw [Program.run_bind_iff]
  constructor
  · rintro ⟨front, result, back, rfl, run, ending⟩
    refine ⟨result, ?_, ?_⟩ <;> cases result <;> obtain ⟨rfl, rfl⟩ := (run_done_iff ..).mp ending
    · simpa using run
    · simpa using run
    · rfl
    · rfl
  · rintro ⟨result, run, rfl⟩
    refine ⟨exchanges, result, [], by simp, run, ?_⟩
    cases result <;> exact .start _

theorem run_attempt_iff (talk : Talk α) (exchanges : List Exchange)
    (outcome : Except Error (Except Error α)) :
    Run (attempt talk) exchanges outcome ↔ ∃ result, Run talk exchanges result ∧ outcome = .ok result := by
  change Program.Run (talk.run >>= fun result => .done (.ok result)) exchanges outcome ↔ _
  simp only [Program.run_bind_iff, run_done_iff]
  constructor
  · rintro ⟨front, result, back, rfl, run, rfl, rfl⟩
    exact ⟨result, by simpa using run, rfl⟩
  · rintro ⟨result, run, rfl⟩
    exact ⟨exchanges, result, [], by simp, run, rfl, rfl⟩

/-- What is attempted ends one way or the other, and it goes on behind it. -/
theorem run_attempt_bind_iff (talk : Talk α) (next : Except Error α → Talk β)
    (exchanges : List Exchange) (outcome : Except Error β) :
    Run (attempt talk >>= next) exchanges outcome ↔
      ∃ front result back, exchanges = front ++ back ∧ Run talk front result ∧
        Run (next result) back outcome := by
  rw [run_bind_iff]
  simp only [run_attempt_iff]
  constructor
  · rintro (⟨front, result, back, rfl, ⟨_, run, same⟩, following⟩ | ⟨error, ⟨_, _, impossible⟩, _⟩)
    · cases same
      exact ⟨front, result, back, rfl, run, following⟩
    · cases impossible
  · rintro ⟨front, result, back, rfl, run, following⟩
    exact .inl ⟨front, result, back, rfl, ⟨result, run, rfl⟩, following⟩

theorem run_observe_bind_iff (observation : Observation) (next : Unit → Talk β)
    (exchanges : List Exchange) (outcome : Except Error β) :
    Run (observe observation >>= next) exchanges outcome ↔
      ∃ back, exchanges = ⟨.observe observation, ()⟩ :: back ∧ Run (next ()) back outcome := by
  change Program.Run (.ask (.observe observation) fun _ => (next ()).run) exchanges outcome ↔ _
  rw [run_ask_iff]
  constructor
  · rintro ⟨_, back, rfl, -, run⟩
    exact ⟨back, rfl, run⟩
  · rintro ⟨back, rfl, run⟩
    exact ⟨(), back, rfl, trivial, run⟩

theorem run_judge_bind_iff (peer : Net.SocketAddress) (token : Bytes) (rate : Rate)
    (next : Tunnel.Verdict → Talk β) (exchanges : List Exchange) (outcome : Except Error β) :
    Run (judge peer token rate >>= next) exchanges outcome ↔
      ∃ verdict back, exchanges = ⟨.judge peer token rate, verdict⟩ :: back ∧
        Run (next verdict) back outcome := by
  change Program.Run (.ask (.judge peer token rate) fun verdict => (next verdict).run) exchanges
    outcome ↔ _
  rw [run_ask_iff]
  constructor
  · rintro ⟨verdict, back, rfl, -, run⟩
    exact ⟨verdict, back, rfl, run⟩
  · rintro ⟨verdict, back, rfl, run⟩
    exact ⟨verdict, back, rfl, trivial, run⟩

theorem run_releasing_iff (stream : StreamRef) (talk : Talk α) (exchanges : List Exchange)
    (outcome : Except Error α) :
    Run (releasing stream talk) exchanges outcome ↔
      ∃ front, exchanges = front ++ [⟨.release stream, ()⟩] ∧ Run talk front outcome := by
  change Program.Run
    (talk.run >>= fun result => .ask (.release stream) fun _ => .done result) exchanges outcome ↔ _
  simp only [Program.run_bind_iff, run_ask_iff, run_done_iff]
  constructor
  · rintro ⟨front, result, back, rfl, run, reply, rest, rfl, -, rfl, rfl⟩
    exact ⟨front, rfl, run⟩
  · rintro ⟨front, rfl, run⟩
    exact ⟨front, outcome, _, rfl, run, (), [], rfl, trivial, rfl, rfl⟩

theorem asks_bind {allowed : Request → Prop} {talk : Talk α} {next : α → Talk β}
    (first : talk.run.Asks allowed) (second : ∀ value, (next value).run.Asks allowed) :
    (talk >>= next).run.Asks allowed := by
  refine Program.asks_bind first fun result => ?_
  cases result with
  | ok value => exact second value
  | error error => trivial

theorem asks_releasing {allowed : Request → Prop} {stream : StreamRef} {talk : Talk α}
    (released : allowed (.release stream)) (asks : talk.run.Asks allowed) :
    (releasing stream talk).run.Asks allowed :=
  Program.asks_bind asks fun _ => ⟨released, fun _ => trivial⟩

theorem asks_attempt {allowed : Request → Prop} {talk : Talk α} (asks : talk.run.Asks allowed) :
    (attempt talk).run.Asks allowed :=
  Program.asks_bind asks fun _ => trivial

theorem asks_write {allowed : Request → Prop} {stream : StreamRef} (layout : Except Error Bytes)
    (sent : ∀ bytes, allowed (.send stream bytes)) : (write stream layout).run.Asks allowed := by
  cases layout with
  | ok bytes => exact ⟨sent bytes, fun _ => trivial⟩
  | error error => trivial

theorem asks_read {allowed : Request → Prop} {stream : StreamRef} {deadline : Option Nat}
    (reader : Reader α) (received : ∀ count, allowed (.receive stream count deadline)) :
    (read stream deadline reader).run.Asks allowed := by
  induction reader with
  | done value => trivial
  | fail error => trivial
  | take count next ih =>
      rw [read, ExceptT.run_mk]
      refine ⟨received count, fun reply => ?_⟩
      cases reply with
      | ok bytes => exact ih bytes
      | error cause => trivial

/-- A request the reply of which is the outcome. -/
theorem run_request_iff {request : Request} (next : request.Reply → Except Error α)
    (exchanges : List Exchange) (outcome : Except Error α) :
    Program.Run (.ask request fun reply => .done (next reply)) exchanges outcome ↔
      ∃ reply, exchanges = [⟨request, reply⟩] ∧ Exchange.Admissible ⟨request, reply⟩ ∧
        outcome = next reply := by
  simp only [run_ask_iff, run_done_iff]
  constructor
  · rintro ⟨reply, rest, rfl, admissible, rfl, rfl⟩
    exact ⟨reply, rfl, admissible, rfl⟩
  · rintro ⟨reply, rfl, admissible, rfl⟩
    exact ⟨reply, [], rfl, admissible, rfl, rfl⟩

theorem run_write_ok_iff (stream : StreamRef) (bytes : Bytes) (exchanges : List Exchange)
    (outcome : Except Error Unit) :
    Run (write stream (.ok bytes)) exchanges outcome ↔
      ∃ reply : Except IoError Unit, exchanges = [⟨.send stream bytes, reply⟩] ∧
        outcome = reply.mapError Error.io := by
  change Program.Run (.ask (.send stream bytes) fun reply => .done (reply.mapError Error.io)) exchanges
    outcome ↔ _
  rw [run_request_iff]
  simp [Exchange.Admissible]

/-- Where a message is written, it goes on behind it unless writing fails. -/
theorem run_write_bind_iff (stream : StreamRef) (bytes : Bytes) (next : Unit → Talk β)
    (exchanges : List Exchange) (outcome : Except Error β) :
    Run (write stream (.ok bytes) >>= next) exchanges outcome ↔
      (∃ rest, exchanges = ⟨.send stream bytes, .ok ()⟩ :: rest ∧ Run (next ()) rest outcome) ∨
        ∃ cause, exchanges = [⟨.send stream bytes, .error cause⟩] ∧ outcome = .error (.io cause) := by
  rw [run_bind_iff]
  simp only [run_write_ok_iff]
  constructor
  · rintro (⟨_, _, rest, rfl, ⟨reply, rfl, succeeded⟩, following⟩ | ⟨_, ⟨reply, rfl, failed⟩, rfl⟩)
    · cases reply with
      | ok _ => exact .inl ⟨rest, rfl, following⟩
      | error cause => cases succeeded
    · cases reply with
      | ok _ => cases failed
      | error cause =>
          cases failed
          exact .inr ⟨cause, rfl, rfl⟩
  · rintro (⟨rest, rfl, following⟩ | ⟨cause, rfl, rfl⟩)
    · exact .inl ⟨[_], (), rest, rfl, ⟨.ok (), rfl, rfl⟩, following⟩
    · exact .inr ⟨_, ⟨.error cause, rfl, rfl⟩, rfl⟩

theorem run_write_error_iff (stream : StreamRef) (error : Error) (exchanges : List Exchange)
    (outcome : Except Error Unit) :
    Run (write stream (.error error)) exchanges outcome ↔ exchanges = [] ∧ outcome = .error error :=
  run_done_iff ..

/-- Where a message has no layout, nothing goes on behind it. -/
theorem run_write_error_bind_iff (stream : StreamRef) (error : Error) (next : Unit → Talk β)
    (exchanges : List Exchange) (outcome : Except Error β) :
    Run (write stream (.error error) >>= next) exchanges outcome ↔
      exchanges = [] ∧ outcome = .error error :=
  run_done_iff ..

/-- Reading a message ends as the reader does on the bytes which came, unless the stream fails. -/
theorem run_read_outcome {stream : StreamRef} {deadline : Option Nat} {reader : Reader α}
    {exchanges : List Exchange} {outcome : Except Error α}
    (run : Run (read stream deadline reader) exchanges outcome) :
    reader.run (heard stream exchanges) = (outcome, []) ∨
      (∃ cause, outcome = .error (.io cause)) ∧
        reader.run (heard stream exchanges) = (.error (.io .truncated), []) := by
  induction reader generalizing exchanges with
  | done value =>
      obtain ⟨rfl, rfl⟩ := (run_done_iff ..).mp run
      exact .inl rfl
  | fail error =>
      obtain ⟨rfl, rfl⟩ := (run_done_iff ..).mp run
      exact .inl rfl
  | take count next ih =>
      rw [Run, read, ExceptT.run_mk] at run
      obtain ⟨reply, rest, rfl, admissible, run⟩ := (run_ask_iff ..).mp run
      cases reply with
      | ok bytes =>
          have length : bytes.length = count := admissible
          have front : heard stream (⟨.receive stream count deadline, .ok bytes⟩ :: rest) =
              bytes ++ heard stream rest := by simp [heard, Exchange.heard]
          rw [front, Reader.run, if_pos (by simp [length]), List.take_left' length,
            List.drop_left' length]
          exact ih bytes run
      | error cause =>
          have positive : 0 < count := admissible
          obtain ⟨rfl, rfl⟩ := (run_done_iff ..).mp run
          have nothing : heard stream [⟨.receive stream count deadline, .error cause⟩] = [] := rfl
          rw [nothing, Reader.run, if_neg (by simpa using Nat.ne_of_gt positive)]
          exact .inr ⟨⟨cause, rfl⟩, rfl⟩

/-- Reading a message asks for bytes of its stream only, and succeeds with a value exactly if the
reader reads the value from the bytes which came. -/
theorem run_read {stream : StreamRef} {deadline : Option Nat} {reader : Reader α}
    {exchanges : List Exchange} {outcome : Except Error α}
    (run : Run (read stream deadline reader) exchanges outcome) :
    (∀ exchange ∈ exchanges, ∃ count, exchange.request = .receive stream count deadline) ∧
      ∀ value, outcome = .ok value ↔ reader.run (heard stream exchanges) = (.ok value, []) := by
  have asks : (read stream deadline reader).run.Asks
      fun request => ∃ count, request = .receive stream count deadline :=
    asks_read reader fun count => ⟨count, rfl⟩
  refine ⟨asks.of_after run, fun value => ?_⟩
  rcases run_read_outcome run with whole | ⟨⟨cause, rfl⟩, short⟩
  · simp [whole]
  · simp [short]

theorem onlyReads_of_run {stream : StreamRef} {deadline : Option Nat} {reader : Reader α}
    {exchanges : List Exchange} {outcome : Except Error α}
    (run : Run (read stream deadline reader) exchanges outcome) : OnlyReads exchanges := by
  intro exchange member
  obtain ⟨count, same⟩ := (run_read run).1 exchange member
  exact ⟨stream, count, deadline, same⟩

/-- Whatever a reader reads can be what comes from a stream. -/
theorem exists_read (stream : StreamRef) (deadline : Option Nat) {reader : Reader α}
    {input rest : Bytes} {value : α} (reads : reader.run input = (.ok value, rest)) :
    ∃ exchanges, heard stream exchanges ++ rest = input ∧
      Run (read stream deadline reader) exchanges (.ok value) := by
  induction reader generalizing input with
  | done _ =>
      cases reads
      exact ⟨[], rfl, .start _⟩
  | fail error => cases reads
  | take count next ih =>
      rw [Reader.run] at reads
      split at reads
      · obtain ⟨exchanges, sources, run⟩ := ih _ reads
        refine ⟨⟨.receive stream count deadline, .ok (input.take count)⟩ :: exchanges, ?_, ?_⟩
        · rw [heard_cons, List.append_assoc, sources]
          simp [Exchange.heard]
        · rw [Run, read, ExceptT.run_mk]
          exact .ask (List.length_take_of_le ‹_›) run
      · cases reads

end Talk
end TunnelProxy
