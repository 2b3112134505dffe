import TunnelProxy.Proofs.Tunnel.Agreement
import TunnelProxy.Proofs.Tunnel.Codec

/-!
# The session of a tunnel client

A tunnel client keeps a session from call to call and replaces it when no stream can be opened on it.
Every call goes through one of the courses which are listed here.  From the list follows that a new
session is kept only once the server has let the client in and a stream has been opened, that whatever
fails before leaves the session which was kept alone, and that the answer to the request of a
connection decides about the stream only.
-/

namespace TunnelProxy

/-! ## Readers which do not reject -/

namespace Wire.Reader

variable {α β : Type}

/-- A reader never fails as if the server had not let the client in. -/
def Plain : Reader α → Prop
  | .done _ => True
  | .fail error => ∀ message, error ≠ .authRejected message
  | .take _ next => ∀ bytes, (next bytes).Plain

theorem plain_bind {reader : Reader α} {next : α → Reader β} (first : reader.Plain)
    (second : ∀ value, (next value).Plain) : (reader >>= next).Plain := by
  change (reader.bind next).Plain
  induction reader with
  | done value => exact second value
  | fail error => exact first
  | take count following ih => exact fun bytes => ih bytes (first bytes)

theorem Plain.run_ne {reader : Reader α} (plain : reader.Plain) {input rest : Bytes} {error : Error}
    (failed : reader.run input = (.error error, rest)) (message : String) :
    error ≠ .authRejected message := by
  induction reader generalizing input with
  | done value => cases failed
  | fail cause =>
      cases failed
      exact plain message
  | take count next ih =>
      rw [run] at failed
      split at failed
      · exact ih _ (plain _) failed
      · cases failed
        simp

theorem plain_bool : bool.Plain := by
  refine plain_bind (fun _ => trivial) fun code => ?_
  split
  · trivial
  · split
    · trivial
    · exact nofun

theorem plain_longText : longText.Plain :=
  plain_bind (plain_bind (fun _ => trivial) fun _ _ => trivial) fun _ => trivial

end Wire.Reader

namespace Tunnel

theorem ServerHello.plain_reader : ServerHello.reader.Plain :=
  Wire.Reader.plain_bind Wire.Reader.plain_bool fun _ =>
    Wire.Reader.plain_bind (fun _ _ => trivial) fun _ =>
      Wire.Reader.plain_bind Wire.Reader.plain_longText fun _ => trivial

theorem StreamResponse.plain_reader : StreamResponse.reader.Plain :=
  Wire.Reader.plain_bind Wire.Reader.plain_bool fun _ =>
    Wire.Reader.plain_bind Wire.Reader.plain_longText fun _ => trivial

/-! ## Records which are read -/

/-- Nothing but reads of one stream. -/
def OnlyReadsOf (stream : StreamRef) (reads : List Exchange) : Prop :=
  ∀ exchange ∈ reads, ∃ count, exchange.request = .receive stream count none

theorem OnlyReadsOf.onlyReads {stream : StreamRef} {reads : List Exchange}
    (only : OnlyReadsOf stream reads) : OnlyReads reads := by
  intro exchange member
  obtain ⟨count, same⟩ := only exchange member
  exact ⟨stream, count, none, same⟩

theorem OnlyReadsOf.heard_eq_nil {stream other : StreamRef} {reads : List Exchange}
    (only : OnlyReadsOf stream reads) (differ : stream ≠ other) : heard other reads = [] := by
  rw [heard, List.flatMap_eq_nil_iff]
  rintro ⟨request, reply⟩ member
  obtain ⟨count, rfl⟩ : ∃ count, request = .receive stream count none := only _ member
  rcases reply with cause | bytes
  · rfl
  · exact if_neg differ

/-- What was read from a stream are the bytes of a record and nothing else. -/
def Told {Value : Type} (form : Form Value) (stream : StreamRef) (exchanges : List Exchange)
    (value : Value) : Prop :=
  ∃ shape, form.Allows shape ∧ shape.Spells (heard stream exchanges) ∧ form.value shape = value

/-- Nothing read is no record. -/
theorem not_told_of_heard {Value : Type} {form : Form Value} {stream : StreamRef}
    {exchanges : List Exchange} {value : Value} (nothing : heard stream exchanges = []) :
    ¬ Told form stream exchanges value := by
  rintro ⟨shape, -, spells, -⟩
  rw [nothing] at spells
  cases spells

/-- A record has been read from a stream, and nothing behind it. -/
structure Received {Value : Type} (form : Form Value) (stream : StreamRef) (reads : List Exchange)
    (value : Value) : Prop where
  /-- The stream was read and nothing else was done. -/
  only : OnlyReadsOf stream reads
  /-- What was read are the bytes of the record. -/
  told : Told form stream reads value

/-- No record could be read from a stream. -/
structure Missed {Value : Type} (form : Form Value) (stream : StreamRef) (reads : List Exchange)
    (error : Error) : Prop where
  /-- The stream was read and nothing else was done. -/
  only : OnlyReadsOf stream reads
  /-- What was read are not the bytes of a record. -/
  untold : ∀ value, ¬ Told form stream reads value
  /-- The failure is not that of a client which has not been let in. -/
  plain : ∀ message, error ≠ .authRejected message

namespace Form.Proper

variable {Value : Type} {form : Form Value} {stream : StreamRef} {reads : List Exchange}

theorem told_iff (proper : form.Proper) (value : Value) :
    Told form stream reads value ↔ form.reader.run (heard stream reads) = (.ok value, []) := by
  rw [proper.run_iff_spells]
  constructor
  · rintro ⟨shape, allowed, spells, told⟩
    exact ⟨shape, _, allowed, spells, by simp, told⟩
  · rintro ⟨shape, layout, allowed, spells, whole, told⟩
    rw [List.append_nil] at whole
    exact ⟨shape, allowed, whole ▸ spells, told⟩

/-- Bytes tell of one record only. -/
theorem told_unique (proper : form.Proper) {value other : Value}
    (told : Told form stream reads value) (again : Told form stream reads other) : value = other := by
  have same := ((proper.told_iff value).mp told).symm.trans ((proper.told_iff other).mp again)
  exact Except.ok.inj (congrArg Prod.fst same)

theorem received_of_run (proper : form.Proper) {value : Value}
    (run : Talk.Run (Talk.read stream none form.reader) reads (.ok value)) :
    Received form stream reads value := by
  obtain ⟨only, outcome_iff⟩ := Talk.run_read run
  exact ⟨only, (proper.told_iff value).mpr ((outcome_iff value).mp rfl)⟩

theorem missed_of_run (proper : form.Proper) (plain : form.reader.Plain) {error : Error}
    (run : Talk.Run (Talk.read stream none form.reader) reads (.error error)) :
    Missed form stream reads error := by
  obtain ⟨only, outcome_iff⟩ := Talk.run_read run
  refine ⟨only, fun value told => ?_, fun message => ?_⟩
  · cases (outcome_iff value).mpr ((proper.told_iff value).mp told)
  · rcases Talk.run_read_outcome run with whole | ⟨⟨cause, broken⟩, -⟩
    · exact plain.run_ne whole message
    · cases broken
      exact nofun

end Form.Proper

namespace Client

variable (client : Client)

/-! ## Greetings -/

/-- What a client has done on a new session until it waits for the server's greeting. -/
def introducing (session : SessionRef) (control : StreamRef) (layout : Bytes) : List Exchange :=
  [⟨.openStream session, .ok control⟩, ⟨.limit control (some greetingLimit), .ok ()⟩,
    ⟨.send control layout, .ok ()⟩]

/-- How the greetings on a session can go. -/
inductive Greeting (session : SessionRef) : List Exchange → Except Error Unit → Prop
  /-- No stream is opened. -/
  | unopened (error : Error) : Greeting session [⟨.openStream session, .error error⟩] (.error error)
  /-- The time of reads can not be limited. -/
  | unlimited (control : StreamRef) (error : Error) :
      Greeting session [⟨.openStream session, .ok control⟩,
        ⟨.limit control (some greetingLimit), .error error⟩, ⟨.release control, ()⟩] (.error error)
  /-- The greeting of the client has no layout. -/
  | unwritable (control : StreamRef) {cause : IoError}
      (layout : ClientHello.layout ⟨client.rate, client.token⟩ = .error (.io cause)) :
      Greeting session [⟨.openStream session, .ok control⟩,
        ⟨.limit control (some greetingLimit), .ok ()⟩, ⟨.release control, ()⟩] (.error (.io cause))
  /-- The greeting of the client can not be written. -/
  | unwritten (control : StreamRef) (cause : IoError) {bytes : Bytes}
      (layout : ClientHello.layout ⟨client.rate, client.token⟩ = .ok bytes) :
      Greeting session [⟨.openStream session, .ok control⟩,
        ⟨.limit control (some greetingLimit), .ok ()⟩, ⟨.send control bytes, .error cause⟩,
        ⟨.release control, ()⟩] (.error (.io cause))
  /-- No greeting of the server is read. -/
  | unread (control : StreamRef) {bytes : Bytes} {reads : List Exchange} {error : Error}
      (layout : ClientHello.layout ⟨client.rate, client.token⟩ = .ok bytes)
      (missed : Missed serverHello control reads error) :
      Greeting session (introducing session control bytes ++ reads ++ [⟨.release control, ()⟩])
        (.error error)
  /-- The server does not let the client in. -/
  | rejected (control : StreamRef) {bytes : Bytes} {reads : List Exchange} {hello : ServerHello}
      (layout : ClientHello.layout ⟨client.rate, client.token⟩ = .ok bytes)
      (received : Received serverHello control reads hello) (refused : hello.accepted = false) :
      Greeting session (introducing session control bytes ++ reads ++ [⟨.release control, ()⟩])
        (.error (.authRejected hello.message))
  /-- The server lets the client in, and the session can be paced or not. -/
  | accepted (control : StreamRef) {bytes : Bytes} {reads : List Exchange} {hello : ServerHello}
      (paced : Except Error Unit)
      (layout : ClientHello.layout ⟨client.rate, client.token⟩ = .ok bytes)
      (received : Received serverHello control reads hello) (granted : hello.accepted = true) :
      Greeting session (introducing session control bytes ++ reads ++
        [⟨.pace session hello.rate.recv, paced⟩, ⟨.release control, ()⟩]) paced

/-- A greeting which has no layout is too long. -/
theorem exists_layout_error {error : Error}
    (layout : ClientHello.layout ⟨client.rate, client.token⟩ = .error error) :
    ∃ cause, error = .io cause := by
  rw [clientHello_layout_eq, Wire.long] at layout
  split at layout
  · cases layout
  · cases layout
    exact ⟨_, rfl⟩

theorem greeting_of_run {session : SessionRef} {exchanges : List Exchange}
    {outcome : Except Error Unit} (run : Talk.Run (client.greet session) exchanges outcome) :
    client.Greeting session exchanges outcome := by
  rcases (Talk.run_bind_iff ..).mp run with ⟨_, control, _, rfl, opened, talking⟩ | ⟨error, opened, rfl⟩
  swap
  · obtain ⟨rfl, -⟩ := (Program.run_request_iff (.openStream ..) ..).mp opened
    exact .unopened error
  obtain ⟨rfl, -⟩ := (Program.run_request_iff (.openStream ..) ..).mp opened
  obtain ⟨_, rfl, body⟩ := (Talk.run_releasing_iff ..).mp talking
  rcases (Talk.run_bind_iff ..).mp body with ⟨_, _, _, rfl, limited, writing⟩ | ⟨error, limited, rfl⟩
  swap
  · obtain ⟨rfl, -⟩ := (Program.run_request_iff (.limit ..) ..).mp limited
    exact .unlimited control error
  obtain ⟨rfl, -⟩ := (Program.run_request_iff (.limit ..) ..).mp limited
  cases layout : ClientHello.layout ⟨client.rate, client.token⟩ with
  | error error =>
      obtain ⟨cause, rfl⟩ := client.exists_layout_error layout
      rw [layout] at writing
      obtain ⟨rfl, rfl⟩ := (Talk.run_write_error_bind_iff ..).mp writing
      exact .unwritable control layout
  | ok bytes =>
      rw [layout] at writing
      rcases (Talk.run_write_bind_iff ..).mp writing with ⟨_, rfl, listening⟩ | ⟨cause, rfl, rfl⟩
      swap
      · exact .unwritten control cause layout
      rcases (Talk.run_bind_iff ..).mp listening with
        ⟨reads, hello, _, rfl, reading, deciding⟩ | ⟨error, reading, rfl⟩
      swap
      · exact .unread control layout
          (serverHello_proper.missed_of_run ServerHello.plain_reader reading)
      have received := serverHello_proper.received_of_run reading
      cases granted : hello.accepted with
      | false =>
          rw [granted] at deciding
          obtain ⟨rfl, rfl⟩ := (Talk.run_throw_iff ..).mp deciding
          have rejected : client.Greeting session _ _ := .rejected control layout received granted
          simpa [introducing] using rejected
      | true =>
          rw [granted] at deciding
          obtain ⟨rfl, -⟩ := (Program.run_request_iff (.pace ..) ..).mp deciding
          have accepted : client.Greeting session _ _ :=
            .accepted control outcome layout received granted
          simpa [introducing] using accepted

/-- Whether the server has been connected to or a session has been closed. -/
def isTurn : Request → Bool
  | .connect => true
  | .close .. => true
  | _ => false

theorem requestsOf_reads {stream : StreamRef} {reads : List Exchange} (only : OnlyReadsOf stream reads) :
    requestsOf isTurn reads = [] :=
  requestsOf_eq_nil (only.onlyReads.not_asked fun _ _ _ => nofun)

/-- Greetings neither connect nor close. -/
theorem Greeting.requestsOf_eq {session : SessionRef} {greetings : List Exchange}
    {outcome : Except Error Unit} (greeting : client.Greeting session greetings outcome) :
    requestsOf isTurn greetings = [] := by
  cases greeting with
  | unread control _ missed => simp [introducing, requestsOf_reads missed.only, isTurn]
  | rejected control _ received _ => simp [introducing, requestsOf_reads received.only, isTurn]
  | accepted control _ _ received _ => simp [introducing, requestsOf_reads received.only, isTurn]
  | _ => simp [isTurn]

/-! ## Why greetings fail -/

/-- The failure which a session reports when it opens a stream, limits the reads of one or is
paced. -/
def failure? : Exchange → Option Error
  | ⟨.openStream _, (.error error : Except Error StreamRef)⟩ => some error
  | ⟨.limit _ _, (.error error : Except Error Unit)⟩ => some error
  | ⟨.pace _ _, (.error error : Except Error Unit)⟩ => some error
  | _ => none

/-- The client has not been let in: the greeting of the server tells so, or the session reports it. -/
def Refused (greetings : List Exchange) : Prop :=
  (∃ control hello, Told serverHello control greetings hello ∧ hello.accepted = false) ∨
    ∃ exchange ∈ greetings, ∃ message, failure? exchange = some (.authRejected message)

theorem failure?_of_reads {stream : StreamRef} {reads : List Exchange}
    (only : OnlyReadsOf stream reads) : ∀ exchange ∈ reads, failure? exchange = none := by
  rintro ⟨request, reply⟩ member
  obtain ⟨count, rfl⟩ : ∃ count, request = .receive stream count none := only _ member
  rfl

/-- Where nothing is heard, only the session can report that the client has not been let in. -/
theorem refused_iff_of_silent {greetings : List Exchange}
    (silent : ∀ stream, heard stream greetings = []) : Refused greetings ↔
      ∃ exchange ∈ greetings, ∃ message, failure? exchange = some (.authRejected message) := by
  refine or_iff_right ?_
  rintro ⟨control, hello, told, -⟩
  exact not_told_of_heard (silent control) told

/-- Where the greeting of the server is waited for, it decides, unless the session reports something
afterwards. -/
theorem refused_iff_of_reads {session : SessionRef} {control : StreamRef} {bytes : Bytes}
    {reads : List Exchange} (only : OnlyReadsOf control reads) {ending : List Exchange}
    (mute : ∀ stream, heard stream ending = []) :
    Refused (introducing session control bytes ++ reads ++ ending) ↔
      (∃ hello, Told serverHello control reads hello ∧ hello.accepted = false) ∨
        ∃ exchange ∈ ending, ∃ message, failure? exchange = some (.authRejected message) := by
  have hears (stream : StreamRef) :
      heard stream (introducing session control bytes ++ reads ++ ending) = heard stream reads := by
    rw [heard_append, heard_append, mute, List.append_nil]
    rfl
  refine or_congr ?_ ?_
  · constructor
    · rintro ⟨stream, hello, told, denied⟩
      rw [Told, hears] at told
      -- Nothing else was read, so the greeting is heard on no other stream.
      obtain rfl : control = stream := by
        by_contra differ
        exact not_told_of_heard (only.heard_eq_nil differ) told
      exact ⟨hello, told, denied⟩
    · rintro ⟨hello, told, denied⟩
      refine ⟨control, hello, ?_, denied⟩
      rwa [Told, hears]
  · have unreported : ∀ exchange ∈ introducing session control bytes ++ reads,
        failure? exchange = none := by
      intro exchange member
      rcases List.mem_append.mp member with front | back
      · simp only [introducing, List.mem_cons, List.not_mem_nil, or_false] at front
        rcases front with rfl | rfl | rfl <;> rfl
      · exact failure?_of_reads only exchange back
    constructor
    · rintro ⟨exchange, member, message, reported⟩
      rcases List.mem_append.mp member with front | back
      · rw [unreported exchange front] at reported
        cases reported
      · exact ⟨exchange, back, message, reported⟩
    · rintro ⟨exchange, member, reported⟩
      exact ⟨exchange, List.mem_append_right _ member, reported⟩

/-- Greetings fail as those of a client which has not been let in exactly if that is so. -/
theorem Greeting.refused_iff {session : SessionRef} {greetings : List Exchange} {error : Error}
    (greeting : client.Greeting session greetings (.error error)) :
    Refused greetings ↔ ∃ message, error = .authRejected message := by
  cases greeting with
  | unopened | unlimited | unwritable | unwritten =>
      rw [refused_iff_of_silent (by simp [heard, Exchange.heard])]
      simp [failure?]
  | unread control _ missed =>
      rw [refused_iff_of_reads missed.only (by simp [heard, Exchange.heard])]
      simp [failure?, missed.untold, missed.plain]
  | rejected control _ received refused =>
      rw [refused_iff_of_reads received.only (by simp [heard, Exchange.heard])]
      exact iff_of_true (.inl ⟨_, received.told, refused⟩) ⟨_, rfl⟩
  | @accepted control _ reads _ _ _ received granted =>
      -- What was read lets the client in, so only the session can have failed it.
      have admitted : ¬ ∃ hello, Told serverHello control reads hello ∧ hello.accepted = false := by
        rintro ⟨_, told, denied⟩
        rw [serverHello_proper.told_unique told received.told, granted] at denied
        cases denied
      rw [refused_iff_of_reads received.only (by simp [heard, Exchange.heard]), or_iff_right admitted]
      simp [failure?]

/-- The code with which a session is closed on which greetings failed. -/
inductive Dismissal (greetings : List Exchange) : CloseCode → Prop
  /-- The client has not been let in. -/
  | refused (refused : Refused greetings) : Dismissal greetings .generic
  /-- Something else went wrong. -/
  | broken (unrefused : ¬ Refused greetings) : Dismissal greetings .protocol

theorem Greeting.dismissal {session : SessionRef} {greetings : List Exchange} {error : Error}
    (greeting : client.Greeting session greetings (.error error)) :
    Dismissal greetings (failureCode error) := by
  by_cases refused : Refused greetings
  · obtain ⟨message, rfl⟩ := greeting.refused_iff.mp refused
    exact .refused refused
  · have other : ∀ message, error ≠ .authRejected message := fun message same =>
      refused (greeting.refused_iff.mpr ⟨message, same⟩)
    rw [failureCode.eq_def]
    split
    · exact absurd rfl (other _)
    · exact .broken refused

/-! ## New sessions -/

/-- How a stream is opened on a new session, and how often sessions are made and closed. -/
inductive Renewal :
    List Exchange → List Request → Except Error (StreamRef × SessionRef) → Prop
  /-- The server can not be connected to. -/
  | unconnected (error : Error) : Renewal [⟨.connect, .error error⟩] [.connect] (.error error)
  /-- The greetings fail, and the session is closed. -/
  | ungreeted (session : SessionRef) {greetings : List Exchange} {error : Error} {code : CloseCode}
      (greeting : client.Greeting session greetings (.error error))
      (dismissal : Dismissal greetings code) :
      Renewal (⟨.connect, .ok session⟩ :: greetings ++ [⟨.close session code "", ()⟩])
        [.connect, .close session code ""] (.error error)
  /-- No stream is opened after the greetings. -/
  | unopened (session : SessionRef) {greetings : List Exchange}
      (greeting : client.Greeting session greetings (.ok ())) (error : Error) :
      Renewal (⟨.connect, .ok session⟩ :: greetings ++ [⟨.openStream session, .error error⟩])
        [.connect] (.error error)
  /-- A stream is opened after the greetings. -/
  | opened (session : SessionRef) {greetings : List Exchange}
      (greeting : client.Greeting session greetings (.ok ())) (stream : StreamRef) :
      Renewal (⟨.connect, .ok session⟩ :: greetings ++ [⟨.openStream session, .ok stream⟩])
        [.connect] (.ok (stream, session))

/-- Either the greetings succeed, or no session is made. -/
theorem establish_cases {exchanges : List Exchange} {outcome : Except Error SessionRef}
    (run : Talk.Run client.establish exchanges outcome) :
    (∃ session greetings, client.Greeting session greetings (.ok ()) ∧
      exchanges = ⟨.connect, .ok session⟩ :: greetings ∧ outcome = .ok session) ∨
    ∃ turns error, client.Renewal exchanges turns (.error error) ∧ outcome = .error error := by
  rcases (Talk.run_bind_iff ..).mp run with ⟨_, session, _, rfl, made, greeted⟩ | ⟨error, made, rfl⟩
  swap
  · obtain ⟨rfl, -⟩ := (Program.run_request_iff .connect ..).mp made
    exact .inr ⟨_, error, .unconnected error, rfl⟩
  obtain ⟨rfl, -⟩ := (Program.run_request_iff .connect ..).mp made
  obtain ⟨greetings, result, back, rfl, greetRun, ending⟩ := (Talk.run_attempt_bind_iff ..).mp greeted
  have greeting := client.greeting_of_run greetRun
  cases result with
  | ok _ =>
      obtain ⟨rfl, rfl⟩ := (Talk.run_pure_iff ..).mp ending
      exact .inl ⟨session, greetings, greeting, by simp, rfl⟩
  | error error =>
      obtain ⟨_, _, rfl, -, ended⟩ := (Program.run_ask_iff (.close ..) ..).mp ending
      obtain ⟨rfl, rfl⟩ := (Program.run_done_iff ..).mp ended
      exact .inr ⟨_, error, .ungreeted session greeting greeting.dismissal, rfl⟩

theorem renewal_of_run {exchanges : List Exchange} {outcome : Except Error (StreamRef × SessionRef)}
    (run : Talk.Run client.renew exchanges outcome) :
    ∃ turns, client.Renewal exchanges turns outcome := by
  rcases (Talk.run_bind_iff ..).mp run with
    ⟨_, session, opening, rfl, established, openRun⟩ | ⟨error, established, rfl⟩
  swap
  · rcases client.establish_cases established with ⟨_, _, _, _, same⟩ | ⟨turns, _, renewal, same⟩
    · cases same
    · cases same
      exact ⟨turns, renewal⟩
  rcases client.establish_cases established with ⟨_, greetings, greeting, rfl, same⟩ | ⟨_, _, _, same⟩
  swap
  · cases same
  cases same
  rcases (Talk.run_bind_iff ..).mp openRun with ⟨_, stream, _, rfl, opened, ended⟩ | ⟨error, opened, rfl⟩
  · obtain ⟨rfl, -⟩ := (Program.run_request_iff (.openStream ..) ..).mp opened
    obtain ⟨rfl, rfl⟩ := (Talk.run_pure_iff ..).mp ended
    exact ⟨_, .opened session greeting stream⟩
  · obtain ⟨rfl, -⟩ := (Program.run_request_iff (.openStream ..) ..).mp opened
    exact ⟨_, .unopened session greeting error⟩

/-! ## Requests of a stream -/

/-- How a connection is asked for on a stream. -/
inductive Asking (target : Net.Address) (stream : StreamRef) :
    List Exchange → Except Error StreamRef → Prop
  /-- The request has no layout. -/
  | unwritable {error : Error} (layout : (StreamRequest.connection target).layout = .error error) :
      Asking target stream [⟨.release stream, ()⟩] (.error error)
  /-- The request can not be written. -/
  | unwritten (cause : IoError) {bytes : Bytes}
      (layout : (StreamRequest.connection target).layout = .ok bytes) :
      Asking target stream [⟨.send stream bytes, .error cause⟩, ⟨.release stream, ()⟩]
        (.error (.io cause))
  /-- No answer is read. -/
  | unread {bytes : Bytes} {reads : List Exchange} {error : Error}
      (layout : (StreamRequest.connection target).layout = .ok bytes)
      (missed : Missed streamResponse stream reads error) :
      Asking target stream (⟨.send stream bytes, .ok ()⟩ :: reads ++ [⟨.release stream, ()⟩])
        (.error error)
  /-- The server has not reached the destination. -/
  | refused {bytes : Bytes} {reads : List Exchange} {response : StreamResponse}
      (layout : (StreamRequest.connection target).layout = .ok bytes)
      (received : Received streamResponse stream reads response)
      (refused : response.accepted = false) :
      Asking target stream (⟨.send stream bytes, .ok ()⟩ :: reads ++ [⟨.release stream, ()⟩])
        (.error (.streamRejected response.message))
  /-- The server has reached the destination. -/
  | granted {bytes : Bytes} {reads : List Exchange} {response : StreamResponse}
      (layout : (StreamRequest.connection target).layout = .ok bytes)
      (received : Received streamResponse stream reads response)
      (granted : response.accepted = true) :
      Asking target stream (⟨.send stream bytes, .ok ()⟩ :: reads) (.ok stream)

theorem asking_of_run {target : Net.Address} {stream : StreamRef} {exchanges : List Exchange}
    {outcome : Except Error StreamRef} (run : Talk.Run (requestStream target stream) exchanges outcome) :
    Asking target stream exchanges outcome := by
  obtain ⟨asking, result, back, rfl, askRun, ending⟩ := (Talk.run_attempt_bind_iff ..).mp run
  have ending_of_error {error : Error} (failed : result = .error error) :
      back = [⟨.release stream, ()⟩] ∧ outcome = .error error := by
    subst failed
    obtain ⟨_, rfl, thrown⟩ := (Talk.run_releasing_iff ..).mp ending
    obtain ⟨rfl, rfl⟩ := (Talk.run_throw_iff ..).mp thrown
    exact ⟨rfl, rfl⟩
  cases layout : (StreamRequest.connection target).layout with
  | error error =>
      rw [layout] at askRun
      obtain ⟨rfl, rfl⟩ := (Talk.run_write_error_bind_iff ..).mp askRun
      obtain ⟨rfl, rfl⟩ := ending_of_error rfl
      exact .unwritable layout
  | ok bytes =>
      rw [layout] at askRun
      rcases (Talk.run_write_bind_iff ..).mp askRun with ⟨_, rfl, listening⟩ | ⟨cause, rfl, rfl⟩
      swap
      · obtain ⟨rfl, rfl⟩ := ending_of_error rfl
        exact .unwritten cause layout
      rcases (Talk.run_bind_iff ..).mp listening with
        ⟨reads, response, _, rfl, reading, deciding⟩ | ⟨error, reading, rfl⟩
      swap
      · obtain ⟨rfl, rfl⟩ := ending_of_error rfl
        exact .unread layout (streamResponse_proper.missed_of_run StreamResponse.plain_reader reading)
      have received := streamResponse_proper.received_of_run reading
      cases granted : response.accepted with
      | false =>
          rw [granted] at deciding
          obtain ⟨rfl, rfl⟩ := (Talk.run_throw_iff ..).mp deciding
          obtain ⟨rfl, rfl⟩ := ending_of_error rfl
          have refused : Asking target stream _ _ := .refused layout received granted
          simpa using refused
      | true =>
          rw [granted] at deciding
          obtain ⟨rfl, rfl⟩ := (Talk.run_pure_iff ..).mp deciding
          obtain ⟨rfl, rfl⟩ := (Talk.run_pure_iff ..).mp ending
          have reached : Asking target stream _ _ := .granted layout received granted
          simpa using reached

/-- The answer which was read on a stream says that the destination has been reached. -/
def Granted (stream : StreamRef) (asking : List Exchange) : Prop :=
  ∃ response, Told streamResponse stream asking response ∧ response.accepted = true

/-- The stream is given exactly if the answer which was read says that the destination has been
reached. -/
theorem Asking.ok_iff {target : Net.Address} {stream : StreamRef} {asking : List Exchange}
    {outcome : Except Error StreamRef} (asked : Asking target stream asking outcome)
    (result : StreamRef) : outcome = .ok result ↔ result = stream ∧ Granted stream asking := by
  have told_iff {bytes : Bytes} {reads ending : List Exchange} (mute : heard stream ending = [])
      (response : StreamResponse) :
      Told streamResponse stream (⟨.send stream bytes, .ok ()⟩ :: reads ++ ending) response ↔
        Told streamResponse stream reads response := by
    rw [Told, Told, heard_append, mute, List.append_nil]
    exact Iff.rfl
  cases asked with
  | unwritable | unwritten =>
      refine iff_of_false (by simp) ?_
      rintro ⟨-, response, told, -⟩
      exact not_told_of_heard (by simp [heard, Exchange.heard]) told
  | unread _ missed =>
      refine iff_of_false (by simp) ?_
      rintro ⟨-, response, told, -⟩
      exact missed.untold response ((told_iff rfl response).mp told)
  | refused _ received refused =>
      refine iff_of_false (by simp) ?_
      rintro ⟨-, response, told, granted⟩
      have same := streamResponse_proper.told_unique ((told_iff rfl response).mp told) received.told
      rw [same, refused] at granted
      cases granted
  | @granted bytes reads response _ received granted =>
      have told : Told streamResponse stream (⟨.send stream bytes, .ok ()⟩ :: reads ++ []) response :=
        (told_iff rfl response).mpr received.told
      rw [List.append_nil] at told
      constructor
      · rintro same
        cases same
        exact ⟨rfl, response, told, granted⟩
      · rintro ⟨rfl, -⟩
        rfl

theorem Asking.requestsOf_eq {target : Net.Address} {stream : StreamRef} {asking : List Exchange}
    {outcome : Except Error StreamRef} (asked : Asking target stream asking outcome) :
    requestsOf isTurn asking = [] := by
  cases asked with
  | unread _ missed => simp [requestsOf_reads missed.only, isTurn]
  | refused _ received _ => simp [requestsOf_reads received.only, isTurn]
  | granted _ received _ => simp [requestsOf_reads received.only, isTurn]
  | _ => simp [isTurn]

theorem Renewal.requestsOf_eq {exchanges : List Exchange} {turns : List Request}
    {outcome : Except Error (StreamRef × SessionRef)}
    (renewal : client.Renewal exchanges turns outcome) : requestsOf isTurn exchanges = turns := by
  cases renewal with
  | unconnected => simp [isTurn]
  | ungreeted _ greeting _ => simp [greeting.requestsOf_eq, isTurn]
  | unopened _ greeting _ => simp [greeting.requestsOf_eq, isTurn]
  | opened _ greeting _ => simp [greeting.requestsOf_eq, isTurn]

/-! ## Calls -/

/-- A call of a client to which replies came. -/
structure Call where
  /-- The session which was kept before. -/
  before : Option SessionRef
  /-- The destination. -/
  target : Net.Address
  /-- What the call did. -/
  exchanges : List Exchange
  /-- What it returned. -/
  outcome : Except Error StreamRef
  /-- The session which was kept afterwards. -/
  after : Option SessionRef

/-- No stream is opened on the session which is kept. -/
inductive Unusable : Option SessionRef → List Exchange → Prop
  /-- None is kept. -/
  | absent : Unusable none []
  /-- It has been closed. -/
  | closed (session : SessionRef) : Unusable (some session) [⟨.isClosed session, true⟩]
  /-- It does not open a stream. -/
  | refusing (session : SessionRef) (error : Error) :
      Unusable (some session) [⟨.isClosed session, false⟩, ⟨.openStream session, .error error⟩]

/-- What a call has come to. -/
structure Outline where
  /-- The sessions which were made and closed, in order. -/
  turns : List Request
  /-- The new session which is kept from now on. -/
  fresh : Option SessionRef
  /-- The stream on which the connection was asked for, and what was done from then on. -/
  asking : Option (StreamRef × List Exchange)

/-- How a call can go. -/
inductive Course : Call → Outline → Prop
  /-- A stream is opened on the session which is kept. -/
  | reused (session : SessionRef) {target : Net.Address} {stream : StreamRef}
      {asking : List Exchange} {outcome : Except Error StreamRef}
      (asked : Asking target stream asking outcome) :
      Course ⟨some session, target,
        ⟨.isClosed session, false⟩ :: ⟨.openStream session, .ok stream⟩ :: asking, outcome,
        some session⟩ ⟨[], none, some (stream, asking)⟩
  /-- No stream is opened. -/
  | failed {before : Option SessionRef} {target : Net.Address} {probing renewing : List Exchange}
      {turns : List Request} {error : Error} (unusable : Unusable before probing)
      (renewal : client.Renewal renewing turns (.error error)) :
      Course ⟨before, target, probing ++ renewing, .error error, before⟩ ⟨turns, none, none⟩
  /-- A stream is opened on a new session. -/
  | renewed {before : Option SessionRef} {target : Net.Address}
      {probing renewing asking : List Exchange} {turns : List Request} {stream : StreamRef}
      {session : SessionRef} {outcome : Except Error StreamRef} (unusable : Unusable before probing)
      (renewal : client.Renewal renewing turns (.ok (stream, session)))
      (asked : Asking target stream asking outcome) :
      Course ⟨before, target, probing ++ renewing ++ asking, outcome, some session⟩
        ⟨turns, some session, some (stream, asking)⟩

theorem reuse?_cases {session : SessionRef} {exchanges : List Exchange} {result : Option StreamRef}
    (run : Program.Run (reuse? session) exchanges result) :
    (∃ stream, exchanges = [⟨.isClosed session, false⟩, ⟨.openStream session, .ok stream⟩] ∧
      result = some stream) ∨ Unusable (some session) exchanges ∧ result = none := by
  obtain ⟨closed, rest, rfl, -, probed⟩ := (Program.run_ask_iff ..).mp run
  cases closed with
  | true =>
      obtain ⟨rfl, rfl⟩ := (Program.run_done_iff ..).mp probed
      exact .inr ⟨.closed session, rfl⟩
  | false =>
      obtain ⟨opened, rest, rfl, -, ended⟩ := (Program.run_ask_iff ..).mp probed
      cases opened with
      | ok stream =>
          obtain ⟨rfl, rfl⟩ := (Program.run_done_iff ..).mp ended
          exact .inl ⟨stream, rfl, rfl⟩
      | error error =>
          obtain ⟨rfl, rfl⟩ := (Program.run_done_iff ..).mp ended
          exact .inr ⟨.refusing session error, rfl⟩

/-- What comes of opening a stream on a new session: the stream, and the session which is kept. -/
def replacement (before : Option SessionRef) :
    Except Error (StreamRef × SessionRef) → Except Error StreamRef × Option SessionRef
  | .ok (stream, session) => (.ok stream, some session)
  | .error error => (.error error, before)

/-- A stream is opened on a new session if none can be opened on the one which is kept. -/
theorem run_replacing {before kept : Option SessionRef} {exchanges : List Exchange}
    {opened : Except Error StreamRef}
    (run : Program.Run (client.renew.run >>= fun result =>
      match result with
      | .ok (stream, session) => pure (.ok stream, some session)
      | .error error => pure (.error error, before)) exchanges (opened, kept)) :
    ∃ turns result, client.Renewal exchanges turns result ∧
      (opened, kept) = replacement before result := by
  obtain ⟨renewing, result, back, rfl, renewRun, ended⟩ := (Program.run_bind_iff ..).mp run
  obtain ⟨turns, renewal⟩ := client.renewal_of_run renewRun
  have settled : back = [] ∧ (opened, kept) = replacement before result := by
    rcases result with error | ⟨stream, session⟩
    · exact (Program.run_done_iff ..).mp ended
    · exact (Program.run_done_iff ..).mp ended
  obtain ⟨rfl, same⟩ := settled
  exact ⟨turns, result, by simpa using renewal, same⟩

theorem openStream_cases {before kept : Option SessionRef} {exchanges : List Exchange}
    {opened : Except Error StreamRef}
    (run : Program.Run (client.openStream before) exchanges (opened, kept)) :
    (∃ session stream, before = some session ∧ kept = some session ∧ opened = .ok stream ∧
      exchanges = [⟨.isClosed session, false⟩, ⟨.openStream session, .ok stream⟩]) ∨
    ∃ probing renewing turns result, Unusable before probing ∧
      client.Renewal renewing turns result ∧ exchanges = probing ++ renewing ∧
      (opened, kept) = replacement before result := by
  cases before with
  | none =>
      obtain ⟨turns, result, renewal, same⟩ := client.run_replacing run
      exact .inr ⟨[], exchanges, turns, result, .absent, renewal, rfl, same⟩
  | some session =>
      obtain ⟨probing, reused, renewing, rfl, probeRun, opening⟩ := (Program.run_bind_iff ..).mp run
      rcases reuse?_cases probeRun with ⟨stream, rfl, rfl⟩ | ⟨unusable, rfl⟩
      · obtain ⟨rfl, same⟩ := (Program.run_done_iff ..).mp opening
        cases same
        exact .inl ⟨session, stream, rfl, rfl, rfl, rfl⟩
      · obtain ⟨turns, result, renewal, same⟩ := client.run_replacing opening
        exact .inr ⟨probing, renewing, turns, result, unusable, renewal, rfl, same⟩

/-- A run of a call. -/
def Makes (call : Call) : Prop :=
  Program.Run (client.dial call.before call.target) call.exchanges (call.outcome, call.after)

/-- A call opens a stream or fails to, and then asks on it for the connection.  The session which is
kept is settled by then. -/
theorem exists_opening {call : Call} (makes : client.Makes call) :
    ∃ front back opened, call.exchanges = front ++ back ∧
      Program.Run (client.openStream call.before) front (opened, call.after) ∧
      match opened with
      | .ok stream => Asking call.target stream back call.outcome
      | .error error => back = [] ∧ call.outcome = .error error := by
  obtain ⟨front, ⟨opened, kept⟩, back, split, openRun, rest⟩ := (Program.run_bind_iff ..).mp makes
  cases opened with
  | error error =>
      obtain ⟨rfl, same⟩ := (Program.run_done_iff ..).mp rest
      obtain ⟨failed, same⟩ := Prod.mk.inj same
      exact ⟨front, [], .error error, split, same ▸ openRun, rfl, failed⟩
  | ok stream =>
      obtain ⟨asking, result, last, rfl, askRun, ended⟩ := (Program.run_bind_iff ..).mp rest
      obtain ⟨rfl, same⟩ := (Program.run_done_iff ..).mp ended
      obtain ⟨returned, same⟩ := Prod.mk.inj same
      rw [List.append_nil] at split
      exact ⟨front, asking, .ok stream, split, same ▸ openRun, returned ▸ asking_of_run askRun⟩

/-- The session which is kept is settled before a connection is asked for. -/
def Settled (call : Call) (outline : Outline) : Prop :=
  ∃ front opened, Program.Run (client.openStream call.before) front (opened, call.after) ∧
    call.exchanges = front ++ (outline.asking.map Prod.snd).getD []

theorem course_of_run {call : Call} (makes : client.Makes call) :
    ∃ outline, client.Course call outline ∧ client.Settled call outline := by
  obtain ⟨front, back, opened, split, openRun, asked⟩ := client.exists_opening makes
  obtain ⟨before, target, exchanges, outcome, after⟩ := call
  simp only at split openRun asked
  subst split
  rcases client.openStream_cases openRun with
    ⟨session, stream, rfl, rfl, rfl, rfl⟩ |
    ⟨probing, renewing, turns, result, unusable, renewal, rfl, same⟩
  · exact ⟨_, .reused session asked, _, _, openRun, rfl⟩
  · rcases result with error | ⟨stream, session⟩
    · obtain ⟨rfl, rfl⟩ := Prod.mk.inj same
      obtain ⟨rfl, rfl⟩ := asked
      refine ⟨⟨turns, none, none⟩, ?_, _, _, openRun, rfl⟩
      rw [List.append_nil]
      exact .failed unusable renewal
    · obtain ⟨rfl, rfl⟩ := Prod.mk.inj same
      exact ⟨_, .renewed unusable renewal asked, _, _, openRun, rfl⟩

theorem Unusable.requestsOf_eq {before : Option SessionRef} {probing : List Exchange}
    (unusable : Unusable before probing) : requestsOf isTurn probing = [] := by
  cases unusable <;> simp [isTurn]

theorem Renewal.count_connect {exchanges : List Exchange} {turns : List Request}
    {outcome : Except Error (StreamRef × SessionRef)}
    (renewal : client.Renewal exchanges turns outcome) : turns.count .connect = 1 := by
  cases renewal <;> simp

theorem Course.requestsOf_eq {call : Call} {outline : Outline} (course : client.Course call outline) :
    requestsOf isTurn call.exchanges = outline.turns := by
  cases course with
  | reused _ asked => simp [asked.requestsOf_eq, isTurn]
  | failed unusable renewal => simp [unusable.requestsOf_eq, renewal.requestsOf_eq]
  | renewed unusable renewal asked =>
      simp [unusable.requestsOf_eq, renewal.requestsOf_eq, asked.requestsOf_eq]

theorem Course.count_connect {call : Call} {outline : Outline} (course : client.Course call outline) :
    outline.turns.count .connect ≤ 1 := by
  cases course with
  | reused => exact Nat.zero_le 1
  | failed _ renewal => exact renewal.count_connect.le
  | renewed _ renewal _ => exact renewal.count_connect.le

theorem Course.answered {call : Call} {outline : Outline} (course : client.Course call outline)
    (stream : StreamRef) : call.outcome = .ok stream ↔
      ∃ asking, outline.asking = some (stream, asking) ∧ Granted stream asking := by
  have granted {target : Net.Address} {opened : StreamRef} {asking : List Exchange}
      {outcome : Except Error StreamRef} (asked : Asking target opened asking outcome) :
      outcome = .ok stream ↔
        ∃ past, some (opened, asking) = some (stream, past) ∧ Granted stream past := by
    rw [asked.ok_iff]
    constructor
    · rintro ⟨rfl, granted⟩
      exact ⟨asking, rfl, granted⟩
    · rintro ⟨past, same, granted⟩
      cases same
      exact ⟨rfl, granted⟩
  cases course with
  | reused _ asked => exact granted asked
  | failed => exact iff_of_false nofun nofun
  | renewed _ _ asked => exact granted asked

/-- Calls of a client one after another, from one session which is kept to another. -/
inductive Calls : Option SessionRef → List Call → Option SessionRef → Prop
  /-- There are none. -/
  | none (kept : Option SessionRef) : Calls kept [] kept
  /-- A call, and others behind it. -/
  | next (call : Call) {calls : List Call} {last : Option SessionRef} (makes : client.Makes call)
      (later : Calls call.after calls last) : Calls call.before (call :: calls) last

end Client
end Tunnel
end TunnelProxy
