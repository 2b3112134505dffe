import TunnelProxy.Proofs.Socks.Course

/-!
# Conversations with a client

What the front-end writes to a client follows from what it has read from the client and from what
comes of connecting to the destination.  The courses of the front-end are compared with what the
readers of the messages find in the bytes which the client has sent.
-/

namespace TunnelProxy
namespace Socks

open Tunnel.Server (Delivered Reached)
open Wire (Reader)

/-! ## What a client has sent -/

/-- A greeting was read. -/
def Greets (bytes : Bytes) (offer : MethodOffer) : Prop :=
  ∃ rest, MethodOffer.reader.run bytes = (.ok offer, rest)

/-- Credentials were read behind the greeting. -/
def Presents (bytes : Bytes) (given : Credentials) : Prop :=
  ∃ rest, (do
    let _ ← MethodOffer.reader
    Credentials.reader : Reader Credentials).run bytes = (.ok given, rest)

namespace Access

variable (access : Access)

/-- The client is let in. -/
def Passes (bytes : Bytes) : Prop :=
  match access with
  | everybody => ∃ offer, Greets bytes offer
  | user expected => Presents bytes expected

/-- Reading a request behind the negotiation ends in some way. -/
def Asks (bytes : Bytes) (asked : Except Error Request) : Prop :=
  ∃ rest, (do
    access.negotiation
    Request.reader : Reader Request).run bytes = (asked, rest)

/-- The client is told whether its credentials are those of the user, once they were read. -/
def Answers (bytes : Bytes) (judged : List Bytes) : Prop :=
  match access with
  | everybody => judged = []
  | user expected =>
      (∃ given, Presents bytes given ∧ judged = [[1, if given = expected then 0 else 1]]) ∨
        (∀ given, ¬ Presents bytes given) ∧ judged = []

end Access

/-- One message if something holds, and nothing otherwise. -/
def Exactly (condition : Prop) (message : Bytes) (part : List Bytes) : Prop :=
  condition ∧ part = [message] ∨ ¬ condition ∧ part = []

/-- What is written to a client before it asks for something. -/
structure Access.Opening (access : Access) (bytes : Bytes) (declined chosen judged : List Bytes) :
    Prop where
  /-- A client which does not offer the method is told so. -/
  declined : Exactly (∃ offer, Greets bytes offer ∧ access.method ∉ offer.methods) [5, 0xFF] declined
  /-- A client which has greeted is told the method. -/
  chosen : Exactly (∃ offer, Greets bytes offer) [5, access.method.byte] chosen
  /-- A client which has to present credentials is told whether they are right. -/
  judged : access.Answers bytes judged

section Reading

variable {α : Type} {client : StreamRef} {deadline : Option Nat} {reader : Reader α}
  {reads : List Exchange}

theorem run_heard_of_read {value : α}
    (reading : Talk.Run (Talk.read client deadline reader) reads (.ok value)) :
    reader.run (heard client reads) = (.ok value, []) :=
  ((Talk.run_read reading).2 value).mp rfl

theorem run_heard_ne_ok {error : Error}
    (reading : Talk.Run (Talk.read client deadline reader) reads (.error error)) (value : α)
    (rest : Bytes) : reader.run (heard client reads) ≠ (.ok value, rest) := by
  rcases Talk.run_read_outcome reading with whole | ⟨-, short⟩
  · simp [whole]
  · simp [short]

theorem messages_of_read {outcome : Except Error α}
    (reading : Talk.Run (Talk.read client deadline reader) reads outcome) :
    messages client reads = [] :=
  Tunnel.Server.messages_eq_nil
    ((Talk.onlyReads_of_run reading).not_asked (by simp [Tunnel.Server.isTransfer]))

@[simp] theorem messages_telling (told : List Bytes) : messages client (telling client told) = told := by
  simp [messages, telling, List.flatMap_map, Exchange.messages]

@[simp] theorem heard_telling (told : List Bytes) : heard client (telling client told) = [] := by
  simp [heard, telling, List.flatMap_map, Exchange.heard]

end Reading

section Opening

variable {access : Access} {client : StreamRef} {deadline : Option Nat}

theorem greets_append_iff {offer : MethodOffer} {front : Bytes}
    (read : MethodOffer.reader.run front = (.ok offer, [])) (more : Bytes) (other : MethodOffer) :
    Greets (front ++ more) other ↔ other = offer := by
  have whole := Reader.run_append read more
  simp [Greets, whole, eq_comm]

theorem presents_append_iff {offer : MethodOffer} {front : Bytes}
    (read : MethodOffer.reader.run front = (.ok offer, [])) (more : Bytes) (given : Credentials) :
    Presents (front ++ more) given ↔ ∃ rest, Credentials.reader.run more = (.ok given, rest) := by
  have whole := Reader.run_append read more
  simp [Presents, Reader.run_bind, whole]

/-- What is behind the end of an unsuccessful check is nothing. -/
theorem Authorization.answers {front : Bytes} {offer : MethodOffer} {rest : List Exchange}
    {outcome : Except Error Unit} (checked : Authorization access client deadline rest outcome)
    (read : MethodOffer.reader.run front = (.ok offer, [])) (more : Bytes)
    (ended : ∀ error, outcome = .error error → more = []) :
    access.Answers (front ++ (heard client rest ++ more)) (messages client rest) ∧
      (outcome = .ok () ↔ access.Passes (front ++ (heard client rest ++ more))) := by
  have presents := presents_append_iff read (heard client rest ++ more)
  cases checked with
  | unasked free =>
      subst free
      have greeted := (greets_append_iff read (heard client [] ++ more) offer).mpr rfl
      exact ⟨rfl, ⟨fun _ => ⟨offer, greeted⟩, fun _ => rfl⟩⟩
  | @unread expected _ error required reading =>
      subst required
      have absent : ∀ given, ¬ Presents (front ++ (heard client rest ++ more)) given := by
        intro given presented
        obtain ⟨later, impossible⟩ := (presents given).mp presented
        rw [ended error rfl, List.append_nil] at impossible
        exact run_heard_ne_ok reading given later impossible
      refine ⟨.inr ⟨absent, messages_of_read reading⟩, ?_⟩
      exact iff_of_false nofun (absent expected)
  | @accepted expected reads required reading =>
      subst required
      have whole := Reader.run_append (run_heard_of_read reading) more
      have presented : Presents (front ++ (heard client (reads ++ telling client [[1, 0]]) ++ more))
          expected := (presents expected).mpr ⟨more, by simpa using whole⟩
      refine ⟨.inl ⟨expected, presented, ?_⟩, iff_of_true rfl presented⟩
      simp [messages_of_read reading]
  | @rejected expected given reads required reading different =>
      subst required
      have whole := Reader.run_append (run_heard_of_read reading) more
      have read_given : Credentials.reader.run
          (heard client (reads ++ telling client [[1, 1]]) ++ more) = (.ok given, more) := by
        simpa using whole
      refine ⟨.inl ⟨given, (presents given).mpr ⟨more, read_given⟩, ?_⟩, ?_⟩
      · simp [messages_of_read reading, different]
      · refine iff_of_false nofun fun passes => ?_
        obtain ⟨later, same⟩ := (presents expected).mp passes
        rw [read_given] at same
        cases same
        exact different rfl

/-- What is written before a client asks for something follows from what it has sent. -/
theorem Negotiation.opening {front : List Exchange} {outcome : Except Error Unit}
    (negotiated : Negotiation access client deadline front outcome) (more : Bytes)
    (ended : ∀ error, outcome = .error error → more = []) :
    (∃ declined chosen judged, messages client front = declined ++ chosen ++ judged ∧
      access.Opening (heard client front ++ more) declined chosen judged) ∧
        (outcome = .ok () ↔ access.Passes (heard client front ++ more)) := by
  cases negotiated with
  | @unread _ error reading =>
      rw [ended error rfl, List.append_nil]
      have ungreeted : ∀ offer, ¬ Greets (heard client front) offer := by
        rintro offer ⟨rest, read⟩
        exact run_heard_ne_ok reading offer rest read
      have unpresented : ∀ given, ¬ Presents (heard client front) given := by
        rintro given ⟨rest, read⟩
        obtain ⟨offer, middle, greeted, -⟩ := (Reader.run_bind_ok_iff ..).mp read
        exact ungreeted offer ⟨middle, greeted⟩
      refine ⟨⟨[], [], [], messages_of_read reading, ⟨.inr ⟨?_, rfl⟩, .inr ⟨?_, rfl⟩, ?_⟩⟩, ?_⟩
      · rintro ⟨offer, greeted, -⟩
        exact ungreeted offer greeted
      · rintro ⟨offer, greeted⟩
        exact ungreeted offer greeted
      · cases access with
        | everybody => rfl
        | user expected => exact .inr ⟨unpresented, rfl⟩
      · refine iff_of_false nofun fun passes => ?_
        cases access with
        | everybody =>
            obtain ⟨offer, greeted⟩ := passes
            exact ungreeted offer greeted
        | user expected => exact unpresented expected passes
  | @chosen reads rest offer _ reading checked =>
      have read := run_heard_of_read reading
      have whole : heard client (reads ++ telling client (choices access offer) ++ rest) ++ more =
          heard client reads ++ (heard client rest ++ more) := by simp
      have greets := greets_append_iff read (heard client rest ++ more)
      obtain ⟨answers, passes⟩ := checked.answers read more ended
      rw [whole]
      refine ⟨⟨if access.method ∈ offer.methods then [] else [[5, 0xFF]],
        [[5, access.method.byte]], messages client rest, ?_, ⟨?_, .inl ⟨?_, rfl⟩, answers⟩⟩, passes⟩
      · simp [messages_of_read reading, choices]
      · simp only [greets, exists_eq_left]
        split <;> simp_all [Exactly]
      · exact ⟨offer, (greets offer).mpr rfl⟩

theorem Negotiation.run_heard {front : List Exchange}
    (negotiated : Negotiation access client deadline front (.ok ())) :
    access.negotiation.run (heard client front) = (.ok (), []) := by
  cases negotiated with
  | @chosen reads rest offer _ reading checked =>
      have whole := Reader.run_append (run_heard_of_read reading) (heard client rest)
      rw [Access.negotiation, Reader.run_bind, heard_append, heard_append, heard_telling,
        List.append_nil, whole]
      cases checked with
      | unasked free =>
          subst free
          rfl
      | accepted required credentials =>
          subst required
          rw [heard_append, heard_telling, List.append_nil]
          simp [Access.authorization, Reader.run_bind, run_heard_of_read credentials]

theorem asks_append_iff {front : List Exchange}
    (negotiated : Negotiation access client deadline front (.ok ())) (more : Bytes)
    (asked : Except Error Request) :
    access.Asks (heard client front ++ more) asked ↔
      ∃ rest, Request.reader.run more = (asked, rest) := by
  have whole := Reader.run_append negotiated.run_heard more
  simp [Access.Asks, Reader.run_bind, whole]

end Opening

/-! ## Dialing and relaying -/

/-- Whether a destination is dialed. -/
def isDial : TunnelProxy.Request → Bool
  | .dial .. => true
  | _ => false

/-- Whether bytes are relayed. -/
def isRelay : TunnelProxy.Request → Bool
  | .relay .. => true
  | _ => false

/-- Whether a destination is dialed or bytes are relayed. -/
def acts (request : TunnelProxy.Request) : Bool :=
  isDial request || isRelay request

/-- What is dialed and relayed for a client which is told a code. -/
structure Acting (client : StreamRef) (exchanges : List Exchange) (code : UInt8) : Prop where
  /-- The code is zero exactly if a destination was reached. -/
  granted : code = 0 ↔ Reached exchanges
  /-- At most one destination is dialed. -/
  once : exchanges.countP (fun exchange => isDial exchange.request) ≤ 1
  /-- Bytes are relayed if the code is zero only, and behind everything which is written. -/
  relayed : ∀ before near far idle reply after,
    exchanges = before ++ ⟨.relay near far idle, reply⟩ :: after →
      code = 0 ∧ near = client ∧ messages client before = messages client exchanges

section Acting

variable {client : StreamRef} {deadline : Option Nat}

theorem not_asked_of_read {α : Type} {reader : Reader α} {reads : List Exchange}
    {outcome : Except Error α}
    (reading : Talk.Run (Talk.read client deadline reader) reads outcome) : ¬ Asked acts reads :=
  (Talk.onlyReads_of_run reading).not_asked (by simp [acts, isDial, isRelay])

theorem not_asked_telling (told : List Bytes) : ¬ Asked acts (telling client told) := by
  simp [Asked, telling, acts, isDial, isRelay]

theorem Authorization.not_asked {access : Access} {exchanges : List Exchange}
    {outcome : Except Error Unit}
    (checked : Authorization access client deadline exchanges outcome) :
    ¬ Asked acts exchanges := by
  cases checked with
  | unasked => simp
  | unread _ reading => exact not_asked_of_read reading
  | accepted _ reading => simp [not_asked_of_read reading, not_asked_telling]
  | rejected _ reading => simp [not_asked_of_read reading, not_asked_telling]

theorem Negotiation.not_asked {access : Access} {exchanges : List Exchange}
    {outcome : Except Error Unit}
    (negotiated : Negotiation access client deadline exchanges outcome) :
    ¬ Asked acts exchanges := by
  cases negotiated with
  | unread reading => exact not_asked_of_read reading
  | chosen reading checked =>
      simp [not_asked_of_read reading, not_asked_telling, checked.not_asked]

theorem FrontEnd.Asking.not_asked {frontEnd : FrontEnd} {exchanges : List Exchange}
    {outcome : Except Error Net.Address} (asked : frontEnd.Asking client exchanges outcome) :
    ¬ Asked acts exchanges := by
  cases asked with
  | unread reading => exact not_asked_of_read reading
  | unknown reading => simp [not_asked_of_read reading, not_asked_telling]
  | unsupported reading => simp [not_asked_of_read reading, not_asked_telling]
  | connection reading => exact not_asked_of_read reading

theorem countP_dial_of_not_asked {exchanges : List Exchange} (quiet : ¬ Asked acts exchanges) :
    exchanges.countP (fun exchange => isDial exchange.request) = 0 := by
  rw [List.countP_eq_zero]
  exact fun exchange member dialed => quiet ⟨exchange, member, by simp [acts, dialed]⟩

theorem not_relayed_of_not_asked {exchanges : List Exchange} (quiet : ¬ Asked acts exchanges) :
    ¬ Asked isRelay exchanges :=
  fun ⟨exchange, member, relayed⟩ => quiet ⟨exchange, member, by simp [acts, relayed]⟩

theorem not_reached_of_not_asked {exchanges : List Exchange} (quiet : ¬ Asked acts exchanges) :
    ¬ Reached exchanges := by
  rintro ⟨route, destination, member⟩
  exact quiet ⟨_, member, rfl⟩

/-- Where nothing is dialed, the code must not be zero. -/
theorem acting_of_not_asked {exchanges : List Exchange} {code : UInt8}
    (quiet : ¬ Asked acts exchanges) (refused : code ≠ 0) : Acting client exchanges code := by
  constructor
  · exact iff_of_false refused (not_reached_of_not_asked quiet)
  · rw [countP_dial_of_not_asked quiet]
    exact Nat.zero_le 1
  · rintro before near far idle reply after rfl
    exact absurd ⟨_, List.mem_append_right before List.mem_cons_self, rfl⟩ quiet

/-- The only exchange of a kind stands where it stands. -/
theorem at_only {kind : TunnelProxy.Request → Bool} {front back before after : List Exchange}
    {here there : Exchange} (early : ¬ Asked kind front) (late : ¬ Asked kind back)
    (asked : kind there.request) (same : front ++ here :: back = before ++ there :: after) :
    before = front ∧ there = here := by
  rcases List.append_eq_append_iff.mp same with ⟨middle, rfl, rest⟩ | ⟨middle, rfl, rest⟩
  · cases middle with
    | nil =>
        cases rest
        exact ⟨List.append_nil _, rfl⟩
    | cons first middle =>
        cases rest
        exact absurd ⟨there, by simp, asked⟩ late
  · cases middle with
    | nil =>
        cases rest
        exact ⟨(List.append_nil _).symm, rfl⟩
    | cons first middle =>
        cases rest
        exact absurd ⟨there, by simp, asked⟩ early

theorem acting_of_unreached {front back : List Exchange} {route : Acl.Route} {error : Error}
    {code : UInt8} (early : ¬ Asked acts front) (late : ¬ Asked acts back) (refused : code ≠ 0) :
    Acting client (front ++ ⟨.dial route, .error error⟩ :: back) code := by
  constructor
  · refine iff_of_false refused ?_
    rintro ⟨other, destination, member⟩
    rcases List.mem_append.mp member with member | (_ | ⟨_, member⟩)
    · exact not_reached_of_not_asked early ⟨_, _, member⟩
    · exact not_reached_of_not_asked late ⟨_, _, member⟩
  · rw [List.countP_append, List.countP_cons, countP_dial_of_not_asked early,
      countP_dial_of_not_asked late]
    exact Nat.le_refl 1
  · intro before near far idle reply after same
    cases (at_only early late rfl same).2

theorem acting_of_reached {front middle back : List Exchange} {route : Acl.Route}
    {destination far : StreamRef} {idle : Option Nat} {relayed : Except Error Unit}
    (early : ¬ Asked acts front) (between : ¬ Asked acts middle) (late : ¬ Asked acts back)
    (silent : messages client back = []) :
    Acting client (front ++ ⟨.dial route, .ok destination⟩ :: middle ++
      ⟨.relay client far idle, relayed⟩ :: back) 0 := by
  constructor
  · exact iff_of_true rfl ⟨route, destination, by simp⟩
  · rw [List.countP_append, List.countP_append, List.countP_cons, List.countP_cons,
      countP_dial_of_not_asked early, countP_dial_of_not_asked between,
      countP_dial_of_not_asked late]
    exact Nat.le_refl 1
  · intro before near other limit reply after same
    have unrelayed : ¬ Asked isRelay (front ++ ⟨.dial route, .ok destination⟩ :: middle) := by
      simp [not_relayed_of_not_asked early, not_relayed_of_not_asked between, isRelay]
    obtain ⟨rfl, relay⟩ := at_only unrelayed (not_relayed_of_not_asked late) rfl same
    cases relay
    have last : messages client (⟨.relay client far idle, relayed⟩ :: back) = [] := silent
    exact ⟨rfl, rfl, by rw [messages_append _ _ (_ :: back), last, List.append_nil]⟩

end Acting

/-! ## Whole conversations -/

namespace FrontEnd

variable (frontEnd : FrontEnd)

/-- A client which has been let in has sent a well-formed request. -/
def Requests (bytes : Bytes) (request : Request) : Prop :=
  frontEnd.access.Passes bytes ∧ frontEnd.access.Asks bytes (.ok request)

/-- A client which has been let in has sent the number of no command. -/
def Misnames (bytes : Bytes) (number : UInt8) : Prop :=
  frontEnd.access.Passes bytes ∧ frontEnd.access.Asks bytes (.error (.unknownCommand number))

/-- What is written to a client in a conversation which ends with an outcome. -/
structure Conversation (client : StreamRef) (exchanges : List Exchange) (outcome : Except Error Unit)
    (declined chosen judged replied : List Bytes) (code : UInt8) : Prop where
  /-- What is written, in this order. -/
  wrote : messages client exchanges = declined ++ chosen ++ judged ++ replied
  /-- What is written before the client asks for something. -/
  opening : frontEnd.access.Opening (heard client exchanges) declined chosen judged
  /-- A client which has been let in and asks for something gets one reply. -/
  reply : Exactly ((∃ request, frontEnd.Requests (heard client exchanges) request) ∨
    ∃ number, frontEnd.Misnames (heard client exchanges) number)
      [5, code, 0, 1, 0, 0, 0, 0, 0, 0] replied
  /-- Nothing but connections is supported. -/
  unsupported : (∃ request, frontEnd.Requests (heard client exchanges) request ∧
    request.command ≠ .connect) ∨ (∃ number, frontEnd.Misnames (heard client exchanges) number) →
      code = 7
  /-- A connection which fails is answered with the code of its failure. -/
  failed : ∀ request, frontEnd.Requests (heard client exchanges) request →
    request.command = .connect → ¬ Reached exchanges →
      ∃ error, outcome = .error error ∧ code = (Outcome.refused error.refusal).byte
  /-- Nothing is dialed unless a connection was asked for. -/
  dialed : Asked isDial exchanges →
    ∃ request, frontEnd.Requests (heard client exchanges) request ∧ request.command = .connect
  /-- What is dialed and relayed agrees with the code. -/
  acting : Acting client exchanges code

variable {frontEnd} {client : StreamRef} {front rest : List Exchange} {outcome : Except Error Unit}

/-- A client which does not get access does not get further. -/
theorem conversation_of_denied {error : Error}
    (negotiated : Negotiation frontEnd.access client frontEnd.timeout front (.error error)) :
    ∃ declined chosen judged replied code, frontEnd.Conversation client
      (front ++ [⟨.release client, ()⟩]) (.error error) declined chosen judged replied code := by
  have quiet : ¬ Asked acts (front ++ [⟨.release client, ()⟩]) := by
    simp [negotiated.not_asked, acts, isDial, isRelay]
  have sent : heard client (front ++ [⟨.release client, ()⟩]) = heard client front ++ [] :=
    heard_append ..
  have silent : messages client [(⟨.release client, ()⟩ : Exchange)] = [] := rfl
  obtain ⟨⟨declined, chosen, judged, wrote, opening⟩, passes⟩ :=
    negotiated.opening [] fun _ _ => rfl
  have barred : ¬ frontEnd.access.Passes (heard client front ++ []) := fun passed =>
    nomatch passes.mpr passed
  refine ⟨declined, chosen, judged, [], 1, ?_, ?_, ?_, ?_, ?_, ?_,
    acting_of_not_asked quiet (by decide)⟩
  · rw [messages_append, silent, wrote]
  · rwa [sent]
  · refine .inr ⟨?_, rfl⟩
    rw [sent]
    rintro (⟨_, passed, -⟩ | ⟨_, passed, -⟩) <;> exact barred passed
  · rw [sent]
    rintro (⟨_, ⟨passed, -⟩, -⟩ | ⟨_, passed, -⟩) <;> exact absurd passed barred
  · rw [sent]
    rintro _ ⟨passed, -⟩
    exact absurd passed barred
  · rintro ⟨exchange, member, dialed⟩
    exact absurd ⟨exchange, member, by simp [acts, dialed]⟩ quiet

/-- What a client which gets access sends behind that decides how it goes on. -/
theorem conversation_of_request {result : Except Error Request} {replied : List Bytes}
    {code : UInt8} (negotiated : Negotiation frontEnd.access client frontEnd.timeout front (.ok ()))
    (read : Request.reader.run (heard client rest) = (result, []))
    (wrote : messages client rest = replied)
    (reply : Exactly ((∃ request, result = .ok request) ∨
      ∃ number, result = .error (.unknownCommand number)) [5, code, 0, 1, 0, 0, 0, 0, 0, 0] replied)
    (unsupported : (∃ request, result = .ok request ∧ request.command ≠ .connect) ∨
      (∃ number, result = .error (.unknownCommand number)) → code = 7)
    (failed : ∀ request, result = .ok request → request.command = .connect →
      ¬ Reached (front ++ rest) →
        ∃ error, outcome = .error error ∧ code = (Outcome.refused error.refusal).byte)
    (dialed : Asked isDial rest → ∃ request, result = .ok request ∧ request.command = .connect)
    (acting : Acting client (front ++ rest) code) :
    ∃ declined chosen judged replied code, frontEnd.Conversation client (front ++ rest) outcome
      declined chosen judged replied code := by
  obtain ⟨⟨declined, chosen, judged, opened, opening⟩, passes⟩ :=
    negotiated.opening (heard client rest) nofun
  have passed := passes.mp rfl
  -- All that is said about what the client has sent is said about what was read behind the opening.
  have asks : ∀ asked, frontEnd.access.Asks (heard client front ++ heard client rest) asked ↔
      result = asked := by
    intro asked
    rw [asks_append_iff negotiated, read]
    simp
  have requests : ∀ request, frontEnd.Requests (heard client (front ++ rest)) request ↔
      result = .ok request := by
    intro request
    rw [Requests, heard_append, asks]
    exact and_iff_right passed
  have misnames : ∀ number, frontEnd.Misnames (heard client (front ++ rest)) number ↔
      result = .error (.unknownCommand number) := by
    intro number
    rw [Misnames, heard_append, asks]
    exact and_iff_right passed
  refine ⟨declined, chosen, judged, replied, code, ?_, ?_, ?_, ?_, ?_, ?_, acting⟩
  · rw [messages_append, wrote, opened]
  · rwa [heard_append]
  · simpa only [requests, misnames] using reply
  · simpa only [requests, misnames] using unsupported
  · simpa only [requests] using failed
  · intro asked
    have later : Asked isDial rest := by
      rcases (asked_append ..).mp asked with ⟨exchange, member, early⟩ | later
      · exact absurd ⟨exchange, member, by simp [acts, early]⟩ negotiated.not_asked
      · exact later
    simpa only [requests] using dialed later

theorem refused_byte_ne_zero (reason : Refusal) : (Outcome.refused reason).byte ≠ 0 := by
  cases reason <;> decide

/-- A client which does not ask for a connection is told so if it asks for something. -/
theorem conversation_of_unasked {asking : List Exchange} {error : Error}
    (negotiated : Negotiation frontEnd.access client frontEnd.timeout front (.ok ()))
    (asked : frontEnd.Asking client asking (.error error)) :
    ∃ declined chosen judged replied code, frontEnd.Conversation client
      (front ++ (asking ++ [⟨.release client, ()⟩])) (.error error) declined chosen judged replied
        code := by
  have quiet : ¬ Asked acts (asking ++ [⟨.release client, ()⟩]) := by
    simp [asked.not_asked, acts, isDial, isRelay]
  have acting : ∀ code ≠ 0, Acting client (front ++ (asking ++ [⟨.release client, ()⟩])) code :=
    fun code refused => acting_of_not_asked (by simp [negotiated.not_asked, quiet]) refused
  have undialed : ¬ Asked isDial (asking ++ [⟨.release client, ()⟩]) := fun ⟨_, member, dialed⟩ =>
    quiet ⟨_, member, by simp [acts, dialed]⟩
  have sent : ∀ exchanges, heard client (exchanges ++ [⟨.release client, ()⟩]) =
      heard client exchanges := fun exchanges => by simp [heard, Exchange.heard]
  have told : ∀ exchanges, messages client (exchanges ++ [⟨.release client, ()⟩]) =
      messages client exchanges := fun exchanges => by simp [messages, Exchange.messages]
  have read_telling : ∀ {reads : List Exchange} {told : List Bytes} {result : Except Error Request},
      Request.reader.run (heard client reads) = (result, []) →
        Request.reader.run (heard client (reads ++ telling client told ++
          [⟨.release client, ()⟩])) = (result, []) := by
    intro reads told result read
    rwa [sent, heard_append, heard_telling, List.append_nil]
  have told_telling : ∀ {reads : List Exchange} {message : Bytes} {result : Except Error Request},
      Talk.Run (Talk.read client frontEnd.timeout Request.reader) reads result →
        messages client (reads ++ telling client [message] ++ [⟨.release client, ()⟩]) =
          [message] := by
    intro reads message result reading
    rw [told, messages_append, messages_of_read reading, messages_telling, List.nil_append]
  cases asked with
  | unread reading malformed =>
      -- Reading fails on what was sent or because the client is gone, and either way there is no reply.
      obtain ⟨failure, read, other⟩ : ∃ failure,
          Request.reader.run (heard client asking) = (.error failure, []) ∧
            ∀ number, failure ≠ .unknownCommand number := by
        rcases Talk.run_read_outcome reading with whole | ⟨-, short⟩
        · exact ⟨error, whole, malformed⟩
        · exact ⟨_, short, by simp⟩
      refine conversation_of_request negotiated ((congrArg _ (sent asking)).trans read)
        ((told asking).trans (messages_of_read reading)) (.inr ⟨?_, rfl⟩) ?_ (by simp)
        (fun dialed => absurd dialed undialed) (acting 1 (by decide))
      · simp [other]
      · simp [other]
  | @unknown reads number reading =>
      have read : Request.reader.run (heard client reads) = (.error (.unknownCommand number), []) := by
        rcases Talk.run_read_outcome reading with whole | ⟨⟨_, impossible⟩, -⟩
        · exact whole
        · cases impossible
      refine conversation_of_request negotiated (read_telling read) (told_telling reading)
        (.inl ⟨.inr ⟨number, rfl⟩, rfl⟩) (fun _ => rfl) (by simp)
        (fun dialed => absurd dialed undialed) (acting 7 (by decide))
  | @unsupported reads request reading other =>
      refine conversation_of_request negotiated (read_telling (run_heard_of_read reading))
        (told_telling reading) (.inl ⟨.inl ⟨request, rfl⟩, rfl⟩) (fun _ => rfl) ?_
        (fun dialed => absurd dialed undialed) (acting 7 (by decide))
      intro asked same connect
      cases same
      exact absurd connect other

theorem conversation_of_connection {asking body : List Exchange} {request : Request}
    {code : UInt8} (negotiated : Negotiation frontEnd.access client frontEnd.timeout front (.ok ()))
    (reading : Talk.Run (Talk.read client frontEnd.timeout Request.reader) asking (.ok request))
    (connect : request.command = .connect) (mute : heard client body = [])
    (told : messages client body = [[5, code, 0, 1, 0, 0, 0, 0, 0, 0]])
    (failed : ¬ Reached body →
      ∃ error, outcome = .error error ∧ code = (Outcome.refused error.refusal).byte)
    (acting : Acting client (front ++ (asking ++ body)) code) :
    ∃ declined chosen judged replied code, frontEnd.Conversation client (front ++ (asking ++ body))
      outcome declined chosen judged replied code := by
  refine conversation_of_request negotiated ?_ ?_ (.inl ⟨.inl ⟨request, rfl⟩, rfl⟩) ?_ ?_
    (fun _ => ⟨request, rfl, connect⟩) acting
  · rw [heard_append, mute, List.append_nil]
    exact run_heard_of_read reading
  · rw [messages_append, messages_of_read reading, told, List.nil_append]
  · rintro (⟨_, same, other⟩ | ⟨_, impossible⟩)
    · cases same
      exact absurd connect other
    · cases impossible
  · intro _ _ _ unreached
    refine failed fun ⟨route, destination, member⟩ => unreached ⟨route, destination, ?_⟩
    simp [member]

/-- What is dialed and relayed for a connection agrees with the code which the client is told. -/
theorem Connecting.acting {target : Net.Address} {decision : Acl.Decision}
    {before connecting after : List Exchange}
    (connected : frontEnd.Connecting client target decision connecting outcome)
    (early : ¬ Asked acts before) (late : ¬ Asked acts after) (silent : messages client after = []) :
    ∃ code, messages client connecting = [[5, code, 0, 1, 0, 0, 0, 0, 0, 0]] ∧
      (¬ Reached connecting →
        ∃ error, outcome = .error error ∧ code = (Outcome.refused error.refusal).byte) ∧
      Acting client (before ++ connecting ++ after) code := by
  have quiet : ∀ told, ¬ Asked acts (telling client told) := not_asked_telling
  cases connected with
  | @ruledOut error routed =>
      refine ⟨_, messages_telling _, fun _ => ⟨error, rfl, rfl⟩, ?_⟩
      exact acting_of_not_asked (by simp [early, late, quiet]) (refused_byte_ne_zero error.refusal)
  | @unreached route error routed =>
      refine ⟨_, messages_telling _, fun _ => ⟨error, rfl, rfl⟩, ?_⟩
      rw [List.append_assoc]
      exact acting_of_unreached early (by simp [late, quiet]) (refused_byte_ne_zero error.refusal)
  | @reached route destination _ routed =>
      refine ⟨0, ?_, fun unreached => absurd ⟨route, destination, by simp⟩ unreached, ?_⟩
      · rw [messages_append]
        exact congrArg (· ++ []) (messages_telling [replyBytes .granted])
      · have later : ¬ Asked acts (⟨.release destination, ()⟩ :: after) := by
          simp [late, acts, isDial, isRelay]
        have acting : Acting client (before ++ ⟨.dial route, .ok destination⟩ ::
            telling client [replyBytes .granted] ++
              ⟨.relay client destination frontEnd.timeout, outcome⟩ ::
                ⟨.release destination, ()⟩ :: after) 0 :=
          acting_of_reached early (quiet _) later silent
        simpa using acting

theorem Connecting.heard {target : Net.Address} {decision : Acl.Decision}
    {connecting : List Exchange}
    (connected : frontEnd.Connecting client target decision connecting outcome) :
    heard client connecting = [] := by
  have nothing : TunnelProxy.heard client [] = [] := rfl
  cases connected <;> simp [heard_cons, Exchange.heard, nothing]

/-- A client which asks for a connection is told what comes of it. -/
theorem conversation_of_served {peer : Net.SocketAddress} {asking connecting : List Exchange}
    {target : Net.Address}
    (negotiated : Negotiation frontEnd.access client frontEnd.timeout front (.ok ()))
    (asked : frontEnd.Asking client asking (.ok target))
    (connected : frontEnd.Connecting client target (frontEnd.dispatcher.decide target) connecting
      outcome) :
    ∃ declined chosen judged replied code, frontEnd.Conversation client
      (front ++ (asking ++
        (frontEnd.service peer target connecting outcome ++ [⟨.release client, ()⟩])))
      outcome declined chosen judged replied code := by
  have early : ¬ Asked acts (front ++ asking ++ [⟨.observe (.request ⟨peer, none, target.text⟩
      (frontEnd.dispatcher.decide target)), ()⟩]) := by
    simp [negotiated.not_asked, asked.not_asked, acts, isDial, isRelay]
  have late : ¬ Asked acts [⟨.observe (.finished ⟨peer, none, target.text⟩ (failure? outcome)), ()⟩,
      ⟨.release client, ()⟩] := by
    simp [acts, isDial, isRelay]
  obtain ⟨code, told, failed, acting⟩ := connected.acting early late rfl
  cases asked with
  | connection reading connect =>
      refine conversation_of_connection negotiated reading connect ?_ ?_ ?_
        (by simpa [service] using acting)
      · simp [service, heard_cons, Exchange.heard, connected.heard]
        rfl
      · simpa [service, messages, Exchange.messages] using told
      · intro unreached
        refine failed fun reached => ?_
        obtain ⟨route, destination, member⟩ := reached
        exact unreached ⟨route, destination, by simp [service, member]⟩

/-- What is written to a client in a conversation, provided that it is delivered, follows from what
the client has sent and from what comes of connecting to the destination. -/
theorem conversation_of_run {peer : Net.SocketAddress} {exchanges : List Exchange}
    (run : Talk.Run (frontEnd.handle peer client) exchanges outcome)
    (delivered : Delivered client exchanges) :
    ∃ declined chosen judged replied code,
      frontEnd.Conversation client exchanges outcome declined chosen judged replied code := by
  cases course_of_run run delivered with
  | denied negotiated => exact conversation_of_denied negotiated
  | unasked negotiated asked =>
      rw [List.append_assoc]
      exact conversation_of_unasked negotiated asked
  | served negotiated asked connected =>
      rw [List.append_assoc, List.append_assoc]
      exact conversation_of_served negotiated asked connected

/-- A client can be connected to a destination. -/
theorem exists_granted_connection :
    ∃ (frontEnd : FrontEnd) (client : StreamRef) (exchanges : List Exchange),
      Talk.Run (frontEnd.handle default client) exchanges (.ok ()) ∧ Delivered client exchanges ∧
        Asked isRelay exchanges := by
  let frontEnd : FrontEnd := ⟨.everybody, .frontEnd .none, none⟩
  let client : StreamRef := .connection 0
  let destination : StreamRef := .connection 1
  let target : Net.Address := .ip (.v4 ⟨1, 2, 3, 4⟩) 80
  obtain ⟨greeting, request, greeting_only, request_only, negotiated, asked⟩ :=
    frontEnd.exists_asking rfl client
      (show Request.reader.run [5, 1, 0, 1, 1, 2, 3, 4, 0, 80] = (.ok ⟨5, .connect, target⟩, []) by rfl) rfl
  obtain ⟨bytes, connected⟩ := frontEnd.exists_granting client destination
    (show (frontEnd.dispatcher.decide target).route target = .ok ⟨.proxy, target⟩ from rfl)
  refine ⟨frontEnd, client, _, run_handle default negotiated asked connected, ?_, ?_⟩
  · intro bytes reply member
    simp [service, greeting_only.not_mem, request_only.not_mem] at member
    rcases member with ⟨-, rfl⟩ | ⟨-, rfl⟩ <;> rfl
  · exact ⟨⟨.relay client destination none, .ok ()⟩, by simp [service, frontEnd], rfl⟩

/-- A client which greets and asks for a connection is told that it is connected. -/
theorem conversation_of_granted_connection :
    ∃ (frontEnd : FrontEnd) (client : StreamRef) (exchanges : List Exchange),
      Talk.Run (frontEnd.handle default client) exchanges (.ok ()) ∧ Delivered client exchanges ∧
        ∃ declined chosen judged replied code,
          frontEnd.Conversation client exchanges (.ok ()) declined chosen judged replied code := by
  obtain ⟨frontEnd, client, exchanges, run, delivered, -⟩ := exists_granted_connection
  exact ⟨frontEnd, client, exchanges, run, delivered, conversation_of_run run delivered⟩

end FrontEnd
end Socks
end TunnelProxy
