import TunnelProxy.Proofs.Socks.Credentials
import TunnelProxy.Proofs.Socks.Hooks
import TunnelProxy.Proofs.Tunnel.Meeting

/-!
# Versions of the protocol

A greeting and a request begin with a version byte, which the front-end reads and does not look at.
So a run stays a run with any other version in its place, and whether something is done for a client
depends on the rest of what the client has sent.
-/

namespace TunnelProxy

open Wire (Reader)

/-! ## Readers of alike values -/

/-- Two readers take the same bytes and fail alike, and what they read is related. -/
inductive Wire.Reader.Alike {α β : Type} (related : α → β → Prop) : Reader α → Reader β → Prop
  /-- Both have read something. -/
  | done {first : α} {second : β} (same : related first second) :
      Alike related (.done first) (.done second)
  /-- Both fail. -/
  | fail (error : Error) : Alike related (.fail error) (.fail error)
  /-- Both go on with the same bytes. -/
  | take {count : Nat} {next : Bytes → Reader α} {other : Bytes → Reader β}
      (alike : ∀ bytes, Alike related (next bytes) (other bytes)) :
      Alike related (.take count next) (.take count other)

namespace Wire.Reader.Alike

variable {α β γ δ : Type}

theorem refl (reader : Reader α) : Alike Eq reader reader := by
  induction reader with
  | done value => exact .done rfl
  | fail error => exact .fail error
  | take count next ih => exact .take ih

/-- Readers are alike if they are composed of such. -/
theorem bind {related : α → β → Prop} {wider : γ → δ → Prop} {first : Reader α} {second : Reader β}
    {next : α → Reader γ} {other : β → Reader δ} (alike : Alike related first second)
    (following : ∀ value again, related value again → Alike wider (next value) (other again)) :
    Alike wider (first >>= next) (second >>= other) := by
  induction alike with
  | done same => exact following _ _ same
  | fail error => exact .fail error
  | take _ ih => exact .take ih

/-- Programs which do not tell apart what alike readers read are the same. -/
theorem read_bind_eq {related : α → β → Prop} {first : Reader α} {second : Reader β}
    (alike : Alike related first second) (stream : StreamRef) (deadline : Option Nat)
    {next : Except Error α → Program γ} {other : Except Error β → Program γ}
    (failing : ∀ error, next (.error error) = other (.error error))
    (reading : ∀ value again, related value again → next (.ok value) = other (.ok again)) :
    (Talk.read stream deadline first).run.bind next =
      (Talk.read stream deadline second).run.bind other := by
  induction alike with
  | done same => exact reading _ _ same
  | fail error => exact failing error
  | take _ ih =>
      rw [Talk.read, Talk.read, ExceptT.run_mk, ExceptT.run_mk, Program.bind, Program.bind]
      congr 1
      funext reply
      cases reply with
      | ok bytes => exact ih bytes
      | error cause => exact failing _

end Wire.Reader.Alike

/-! ## Runs with another version -/

namespace Program

variable {α β : Type}

/-- A request may get another reply if the program goes on as before. -/
theorem run_ask_other {request : Request} {next : request.Reply → Program α}
    {reply other : request.Reply} {exchanges : List Exchange} {value : α}
    (run : Run (.ask request next) (⟨request, reply⟩ :: exchanges) value)
    (admissible : Exchange.Admissible ⟨request, other⟩) (same : next reply = next other) :
    Run (.ask request next) (⟨request, other⟩ :: exchanges) value := by
  cases run with
  | ask _ after => exact .ask admissible (same ▸ after)

/-- What is left of a program goes through the rest of the exchanges. -/
theorem After.run_rest {program rest : Program α} {front back : List Exchange} {value : α}
    (after : After program front rest) (run : Run program (front ++ back) value) :
    Run rest back value := by
  induction after with
  | start => exact run
  | ask _ _ ih =>
      cases run with
      | ask _ run => exact ih run

/-- What follows a program goes on where a run of the program ends. -/
theorem run_bind_behind_iff {program : Program α} {next : α → Program β}
    {front : List Exchange} {value : α} (run : Run program front value) (back : List Exchange)
    (result : β) : Run (program.bind next) (front ++ back) result ↔ Run (next value) back result :=
  ⟨fun whole => (run.bind next).run_rest whole, fun rest => (run.bind next).run_append rest⟩

end Program

/-- A version byte was read. -/
def versionRead (stream : StreamRef) (deadline : Option Nat) (version : UInt8) : Exchange :=
  ⟨.receive stream 1 deadline, .ok [version]⟩

/-- Where a version does not matter to what is read behind it, nor that to what is done, any other
version does as well. -/
theorem Talk.run_read_other {α γ : Type} {related : α → α → Prop} {tail : UInt8 → Reader α}
    {stream : StreamRef} {deadline : Option Nat} {next : Except Error α → Program γ}
    {version : UInt8} {exchanges : List Exchange} {value : γ}
    (alike : ∀ first second, (tail first).Alike related (tail second))
    (blind : ∀ first second, related first second → next (.ok first) = next (.ok second))
    (run : Program.Run ((Talk.read stream deadline (Reader.byte >>= tail)).run.bind next)
      (versionRead stream deadline version :: exchanges) value) (other : UInt8) :
    Program.Run ((Talk.read stream deadline (Reader.byte >>= tail)).run.bind next)
      (versionRead stream deadline other :: exchanges) value := by
  have first : (Reader.byte >>= tail : Reader α) = .take 1 fun bytes => tail (bytes.headD 0) := rfl
  rw [first, Talk.read, ExceptT.run_mk, Program.bind] at run ⊢
  exact Program.run_ask_other run (show [other].length = 1 from rfl)
    ((alike version other).read_bind_eq stream deadline (fun _ => rfl) blind)

/-- What is read behind a version has one. -/
theorem Talk.exists_version {α : Type} {tail : UInt8 → Reader α} {stream : StreamRef}
    {deadline : Option Nat} {exchanges : List Exchange} {value : α}
    (reading : Talk.Run (Talk.read stream deadline (Reader.byte >>= tail)) exchanges (.ok value)) :
    ∃ version rest, exchanges = versionRead stream deadline version :: rest := by
  have first : (Reader.byte >>= tail : Reader α) = .take 1 fun bytes => tail (bytes.headD 0) := rfl
  rw [first, Talk.Run, Talk.read, ExceptT.run_mk] at reading
  obtain ⟨reply, rest, rfl, admissible, following⟩ := (Program.run_ask_iff ..).mp reading
  cases reply with
  | ok bytes =>
      obtain ⟨version, rfl⟩ := List.length_eq_one_iff.mp (admissible : bytes.length = 1)
      exact ⟨version, rest, rfl⟩
  | error cause => cases ((Program.run_done_iff ..).mp following).2

namespace Socks

/-- What is read behind the version of an offer does not depend on it. -/
theorem MethodOffer.tail_alike (first second : UInt8) :
    Reader.Alike (fun offer again => offer.methods = again.methods)
      (do let codes ← Reader.short; return (⟨first, codes.map Method.ofByte⟩ : MethodOffer))
      (do let codes ← Reader.short; return (⟨second, codes.map Method.ofByte⟩ : MethodOffer)) := by
  refine .bind (.refl _) fun codes again same => ?_
  subst same
  exact .done rfl

/-- Negotiating access goes on alike, whatever the version of the offer is. -/
theorem Access.run_negotiate_other {γ : Type} {access : Access} {client : StreamRef}
    {deadline : Option Nat} {next : Except Error Unit → Program γ} {version : UInt8}
    {exchanges : List Exchange} {value : γ}
    (run : Program.Run ((access.negotiate client deadline).run.bind next)
      (versionRead client deadline version :: exchanges) value) (other : UInt8) :
    Program.Run ((access.negotiate client deadline).run.bind next)
      (versionRead client deadline other :: exchanges) value := by
  rw [negotiate, Talk.run_bind_bind] at run ⊢
  refine Talk.run_read_other MethodOffer.tail_alike (fun first second same => ?_) run other
  simp only [Talk.following, same]

/-- What is asked for in a request, apart from its version. -/
def Request.Same (first second : Request) : Prop :=
  first.command = second.command ∧ first.target = second.target

/-- What is read behind the version of a request. -/
def Request.tail (version : UInt8) : Reader Request := do
  let command ← Socks.command
  Socks.reserved
  let field ← addressField
  return ⟨version, command, ← Reader.ofExcept field.toAddress⟩

/-- What is read behind the version of a request does not depend on it. -/
theorem Request.tail_alike (first second : UInt8) :
    Reader.Alike Same (tail first) (tail second) := by
  refine .bind (.refl _) fun command again same => ?_
  subst same
  refine .bind (.refl _) fun _ _ _ => .bind (.refl _) fun field again same => ?_
  subst same
  refine .bind (.refl _) fun target again same => ?_
  subst same
  exact .done ⟨rfl, rfl⟩

namespace FrontEnd

variable {frontEnd : FrontEnd} {client : StreamRef} {exchanges : List Exchange}

/-- A request is dealt with alike, whatever its version is. -/
theorem run_request_other {γ : Type} {next : Except Error Net.Address → Program γ}
    {version : UInt8} {value : γ}
    (run : Program.Run ((frontEnd.request client).run.bind next)
      (versionRead client frontEnd.timeout version :: exchanges) value) (other : UInt8) :
    Program.Run ((frontEnd.request client).run.bind next)
      (versionRead client frontEnd.timeout other :: exchanges) value := by
  rw [request, Talk.run_bind_bind, Talk.run_attempt_bind] at run ⊢
  refine Talk.run_read_other Request.tail_alike (fun first second same => ?_) run other
  simp only [Talk.following, same.1, same.2]

variable (frontEnd)

/-- After these exchanges a message with a version is read from the client. -/
inductive Due (client : StreamRef) : List Exchange → Prop
  /-- The greeting comes first. -/
  | greeting : Due client []
  /-- The request comes behind the negotiation. -/
  | request {front : List Exchange}
      (negotiated : Talk.Run (frontEnd.access.negotiate client frontEnd.timeout) front (.ok ())) :
      Due client front

variable {frontEnd}

/-- A run stays a run with another version in a message. -/
theorem run_handle_other {peer : Net.SocketAddress} {front rest : List Exchange} {version : UInt8}
    {outcome : Except Error Unit}
    (run : Talk.Run (frontEnd.handle peer client)
      (front ++ versionRead client frontEnd.timeout version :: rest) outcome)
    (due : frontEnd.Due client front) (other : UInt8) :
    Talk.Run (frontEnd.handle peer client)
      (front ++ versionRead client frontEnd.timeout other :: rest) outcome := by
  rw [Talk.Run, ← Program.bind_done (frontEnd.handle peer client).run, handle,
    Talk.run_releasing_bind, Talk.run_bind_bind] at run ⊢
  cases due with
  | greeting => exact Access.run_negotiate_other run other
  | request negotiated =>
      rw [Program.run_bind_behind_iff negotiated, Talk.following, Talk.run_bind_bind] at run ⊢
      exact run_request_other run other

/-! ## What is done for a client -/

/-- Whether a client is served: a hook fires, a destination is dialed, bytes are relayed, or the
client is told that it is connected. -/
def serves (client : StreamRef) : TunnelProxy.Request → Bool
  | .observe .. | .dial .. | .relay .. => true
  | .send stream bytes => stream = client && bytes = replyBytes .granted
  | _ => false

theorem serves_of_isNoted {asked : TunnelProxy.Request} (noted : isNoted asked = true) :
    serves client asked = true := by
  cases asked <;> simp [isNoted] at noted <;> rfl

theorem engages_of_serves {asked : TunnelProxy.Request} (served : serves client asked = true) :
    engages asked = true := by
  cases asked with
  | observe | dial | relay => rfl
  | send stream bytes =>
      simp only [serves, Bool.and_eq_true, decide_eq_true_eq] at served
      rw [served.2]
      rfl
  | _ => cases served

theorem reply_eq_write (outcome : Outcome) :
    reply client outcome = Talk.write client (.ok (replyBytes outcome)) := by
  rw [reply, Reply.layout_ofOutcome]

theorem refused_ne_granted (reason : Refusal) :
    replyBytes (.refused reason) ≠ replyBytes .granted :=
  fun same => refused_byte_ne_zero reason (List.cons.inj (List.cons.inj same).2).1

/-- A client is not served as long as it has not asked for a connection. -/
theorem asks_request_unserved (frontEnd : FrontEnd) (client : StreamRef) :
    (frontEnd.request client).run.Asks (fun asked => ¬ serves client asked) := by
  have refused {error : Error} :
      (refuse client error : Talk Net.Address).run.Asks (fun asked => ¬ serves client asked) := by
    have told : ¬ serves client (.send client (replyBytes (.refused error.refusal))) := by
      simpa [serves] using refused_ne_granted error.refusal
    rw [refuse, reply_eq_write]
    exact Talk.asks_bind (Talk.asks_bind (Talk.asks_attempt ⟨told, fun _ => trivial⟩)
      fun _ => trivial) fun _ => trivial
  refine Talk.asks_bind (Talk.asks_attempt (Talk.asks_read _ fun _ => Bool.false_ne_true))
    fun read => ?_
  split
  · exact refused
  · trivial
  · split
    · trivial
    · exact refused

/-- Nothing is asked for which serves a client. -/
theorem unserved_of_asks {α : Type} {talk : Talk α} {result : Except Error α}
    (asks : talk.run.Asks (fun asked => ¬ serves client asked))
    (run : Talk.Run talk exchanges result) : ¬ Asked (serves client) exchanges := by
  rintro ⟨exchange, member, served⟩
  exact asks.of_after run exchange member served

/-- A client which is served has got access and has asked for a connection. -/
theorem dispatched_of_serves {peer : Net.SocketAddress} {outcome : Except Error Unit}
    (run : Talk.Run (frontEnd.handle peer client) exchanges outcome)
    (served : Asked (serves client) exchanges) :
    ∃ first second target acting,
      Talk.Run (frontEnd.access.negotiate client frontEnd.timeout) first (.ok ()) ∧
      Talk.Run (frontEnd.request client) second (.ok target) ∧
      exchanges = first ++ (second ++ frontEnd.service peer target acting outcome) ++
        [⟨.release client, ()⟩] := by
  have unnegotiated {first : List Exchange} {result : Except Error Unit}
      (negotiated : Talk.Run (frontEnd.access.negotiate client frontEnd.timeout) first result) :
      ¬ Asked (serves client) first :=
    unserved_of_asks ((asks_nothing_of_negotiate ..).mono fun _ idle served =>
      idle (engages_of_serves served)) negotiated
  cases handling_of_run run with
  | denied negotiated =>
      simp [unnegotiated negotiated, serves] at served
  | unasked negotiated requested =>
      have unrequested := unserved_of_asks (asks_request_unserved frontEnd client) requested
      simp [unnegotiated negotiated, unrequested, serves] at served
  | dispatching negotiated requested => exact ⟨_, _, _, _, negotiated, requested, rfl⟩

/-- A client is served exactly if it has been let in and has sent a request for a connection. -/
theorem serves_iff {peer : Net.SocketAddress} {outcome : Except Error Unit}
    (run : Talk.Run (frontEnd.handle peer client) exchanges outcome) :
    Asked (serves client) exchanges ↔
      ∃ request, frontEnd.Yields (heard client exchanges) request := by
  have hooked := hooked_of_run run
  constructor
  · intro served
    obtain ⟨first, second, target, acting, -, -, rfl⟩ := dispatched_of_serves run served
    by_contra unyielded
    have silent := (hooked.silent fun request yields => unyielded ⟨request, yields⟩).1
    simp [service] at silent
  · rintro ⟨request, yields⟩
    by_contra unserved
    have quiet : ¬ Asked isNoted exchanges := by
      rintro ⟨exchange, member, noted⟩
      exact unserved ⟨exchange, member, serves_of_isNoted noted⟩
    have hooks := (hooked.accompanied request yields).hooks
    rw [observations_eq_nil quiet] at hooks
    cases hooks

/-- A client which gets access has told a version. -/
theorem exists_version_of_negotiate {access : Access} {deadline : Option Nat}
    (run : Talk.Run (access.negotiate client deadline) exchanges (.ok ())) :
    ∃ version rest, exchanges = versionRead client deadline version :: rest := by
  obtain ⟨reads, offer, last, rfl, reading, -⟩ := (Talk.run_bind_ok_iff ..).mp run
  obtain ⟨version, rest, rfl⟩ := Talk.exists_version reading
  exact ⟨version, rest ++ last, rfl⟩

/-- A client which has asked for a connection has told a version. -/
theorem exists_version_of_request {target : Net.Address}
    (run : Talk.Run (frontEnd.request client) exchanges (.ok target)) :
    ∃ version rest, exchanges = versionRead client frontEnd.timeout version :: rest := by
  obtain ⟨reads, result, last, rfl, reading, ending⟩ := (Talk.run_attempt_bind_iff ..).mp run
  cases result with
  | ok request =>
      obtain ⟨version, rest, rfl⟩ := Talk.exists_version reading
      exact ⟨version, rest ++ last, rfl⟩
  | error error =>
      split at ending
      · exact (not_run_refuse_ok ending).elim
      · cases ((Talk.run_throw_iff ..).mp ending).2
      · contradiction

/-- A run is one of those which differ in the versions of a greeting and of a request only. -/
def Interchangeable (frontEnd : FrontEnd) (peer : Net.SocketAddress) (client : StreamRef)
    (exchanges : List Exchange) (outcome : Except Error Unit) : Prop :=
  ∃ first middle second rest,
    exchanges = versionRead client frontEnd.timeout first ::
      (middle ++ versionRead client frontEnd.timeout second :: rest) ∧
    ∀ one two, frontEnd.Due client (versionRead client frontEnd.timeout one :: middle) ∧
      Talk.Run (frontEnd.handle peer client) (versionRead client frontEnd.timeout one ::
        (middle ++ versionRead client frontEnd.timeout two :: rest)) outcome

/-- The versions in the messages of a client do not matter to a run. -/
structure AnyVersion (frontEnd : FrontEnd) (peer : Net.SocketAddress) (client : StreamRef)
    (exchanges : List Exchange) (outcome : Except Error Unit) : Prop where
  /-- With any other version in one of the messages, all the rest and the outcome can be the same. -/
  respelled : ∀ front version rest,
    exchanges = front ++ versionRead client frontEnd.timeout version :: rest →
      frontEnd.Due client front → ∀ other, Talk.Run (frontEnd.handle peer client)
        (front ++ versionRead client frontEnd.timeout other :: rest) outcome
  /-- The client is served exactly if it has been let in and has sent a request for a connection. -/
  served : Asked (serves client) exchanges ↔
    ∃ request, frontEnd.Yields (heard client exchanges) request
  /-- A client which is served can be served alike with any versions in both messages. -/
  serving : Asked (serves client) exchanges →
    frontEnd.Interchangeable peer client exchanges outcome

section Serving

variable {peer : Net.SocketAddress} {outcome : Except Error Unit}

theorem interchangeable_of_serves (run : Talk.Run (frontEnd.handle peer client) exchanges outcome)
    (served : Asked (serves client) exchanges) :
    frontEnd.Interchangeable peer client exchanges outcome := by
  obtain ⟨front, asking, target, acting, negotiated, requested, parts⟩ :=
    dispatched_of_serves run served
  obtain ⟨first, middle, rfl⟩ := exists_version_of_negotiate negotiated
  obtain ⟨second, behind, rfl⟩ := exists_version_of_request requested
  have split : exchanges = versionRead client frontEnd.timeout first ::
      (middle ++ versionRead client frontEnd.timeout second ::
        (behind ++ frontEnd.service peer target acting outcome ++ [⟨.release client, ()⟩])) := by
    simp [parts]
  refine ⟨first, middle, second, _, split, fun one two => ?_⟩
  have due : frontEnd.Due client (versionRead client frontEnd.timeout one :: middle) := by
    rw [Talk.Run, ← Program.bind_done (frontEnd.access.negotiate client _).run] at negotiated
    have other := Access.run_negotiate_other negotiated one
    rw [Program.bind_done] at other
    exact .request other
  rw [split] at run
  have greeted : Talk.Run (frontEnd.handle peer client)
      ([] ++ versionRead client frontEnd.timeout one :: _) outcome :=
    run_handle_other run .greeting one
  rw [List.nil_append, ← List.cons_append] at greeted
  exact ⟨due, run_handle_other greeted due two⟩

/-- Whatever a client sends and whatever comes of it, the versions in its messages do not matter. -/
theorem anyVersion_of_run (run : Talk.Run (frontEnd.handle peer client) exchanges outcome) :
    frontEnd.AnyVersion peer client exchanges outcome where
  respelled _ _ _ split due := run_handle_other (split ▸ run) due
  served := serves_iff run
  serving served := interchangeable_of_serves run served

end Serving

/-- A client which tells version 4 in its greeting and in its request is connected. -/
theorem anyVersion_of_version_four :
    ∃ (frontEnd : FrontEnd) (client : StreamRef) (middle rest : List Exchange),
      frontEnd.Due client (versionRead client frontEnd.timeout 4 :: middle) ∧
      Talk.Run (frontEnd.handle default client) (versionRead client frontEnd.timeout 4 ::
        (middle ++ versionRead client frontEnd.timeout 4 :: rest)) (.ok ()) ∧
      Asked isRelay (versionRead client frontEnd.timeout 4 ::
        (middle ++ versionRead client frontEnd.timeout 4 :: rest)) ∧
      frontEnd.AnyVersion default client (versionRead client frontEnd.timeout 4 ::
        (middle ++ versionRead client frontEnd.timeout 4 :: rest)) (.ok ()) := by
  obtain ⟨frontEnd, client, exchanges, run, -, relayed⟩ := exists_granted_connection
  have served : Asked (serves client) exchanges := by
    obtain ⟨⟨request, reply⟩, member, relay⟩ := relayed
    exact ⟨_, member, serves_of_isNoted (by cases request <;> simp [isRelay] at relay; rfl)⟩
  obtain ⟨first, middle, second, rest, rfl, alike⟩ := interchangeable_of_serves run served
  obtain ⟨due, other⟩ := alike 4 4
  refine ⟨frontEnd, client, middle, rest, due, other, ?_, anyVersion_of_run other⟩
  simpa [versionRead, isRelay] using relayed

end FrontEnd
end Socks
end TunnelProxy
