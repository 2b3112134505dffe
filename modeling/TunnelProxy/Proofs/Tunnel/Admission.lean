import TunnelProxy.Proofs.Tunnel.Handshake

/-!
# How a tunnel session is admitted

What has to have happened before a session of the tunnel server judges a client, answers it, takes
streams of it or closes.  Nothing of this depends on the other side: it holds of every run.
-/

namespace TunnelProxy
namespace Tunnel
namespace Server

variable (server : Server) (session : SessionRef) (peer : Net.SocketAddress)

/-! ## What has to have happened -/

/-- A whole greeting which asks for traffic in both directions was read from the first stream. -/
structure Greeted (past : List Exchange) (control : StreamRef) (hello : ClientHello) : Prop where
  /-- The stream is the first one. -/
  first : (⟨.accept session (some server.greetingLimit), .ok control⟩ : Exchange) ∈ past
  /-- The bytes which were read are the greeting. -/
  complete : hello.layout = .ok (heard control past)
  /-- The client wants to send. -/
  sending : hello.rate.send ≠ 0
  /-- The client wants to receive. -/
  receiving : hello.rate.recv ≠ 0

/-- A judgement of the client was written to a stream in full. -/
structure Answered (past : List Exchange) (control : StreamRef) (token : Bytes) (rate : Rate)
    (verdict : Verdict) : Prop where
  /-- The client was judged so. -/
  judged : (⟨.judge peer token rate, verdict⟩ : Exchange) ∈ past
  /-- The judgement and its text were written. -/
  written : ∃ bytes, ServerHello.layout ⟨verdict.accepted, rate, verdict.message⟩ = .ok bytes ∧
    (⟨.send control bytes, .ok ()⟩ : Exchange) ∈ past

theorem answered_iff (past : List Exchange) (control : StreamRef) (token : Bytes) (rate : Rate)
    (verdict : Verdict) :
    Answered peer past control token rate verdict ↔
      (⟨.judge peer token rate, verdict⟩ : Exchange) ∈ past ∧
        ∃ bytes, ServerHello.layout ⟨verdict.accepted, rate, verdict.message⟩ = .ok bytes ∧
          (⟨.send control bytes, .ok ()⟩ : Exchange) ∈ past :=
  ⟨fun answered => ⟨answered.judged, answered.written⟩, fun ⟨judged, written⟩ => ⟨judged, written⟩⟩

/-- The client was refused and told so. -/
def Rejected (past : List Exchange) : Prop :=
  ∃ control token rate verdict, Answered peer past control token rate verdict ∧
    verdict.accepted = false

/-- The client was let in and told so, and the session is paced. -/
def Admitted (past : List Exchange) : Prop :=
  ∃ control token rate verdict, Answered peer past control token rate verdict ∧
    verdict.accepted = true ∧ (⟨.pace session rate.send, .ok ()⟩ : Exchange) ∈ past

/-- Whether something asks for a judgement. -/
def isJudge : Request → Bool
  | .judge .. => true
  | _ => false

/-- Whether something takes streams of the client until there are no more. -/
def isServe : Request → Bool
  | .serve .. => true
  | _ => false

/-- Whether something closes a session. -/
def isClose : Request → Bool
  | .close .. => true
  | _ => false

/-- What has to have happened before the thread with the greetings asks for something. -/
def Proper (past : List Exchange) : Exchange → Prop
  | ⟨.judge client token rate, _⟩ =>
      client = peer ∧ ¬ Asked isJudge past ∧ ∃ control hello,
        server.Greeted session past control hello ∧ hello.token = token ∧
          hello.rate.negotiate? server.ceiling = some rate
  | ⟨.send stream bytes, _⟩ =>
      (⟨.accept session (some server.greetingLimit), .ok stream⟩ : Exchange) ∈ past ∧
        ∃ token rate, ∃ verdict : Verdict, (⟨.judge peer token rate, verdict⟩ : Exchange) ∈ past ∧
          ServerHello.layout ⟨verdict.accepted, rate, verdict.message⟩ = .ok bytes
  | ⟨.serve served client _, _⟩ =>
      served = session ∧ client = peer ∧ Admitted session peer past
  | ⟨.close closed code _, _⟩ =>
      closed = session ∧ ¬ Asked isClose past ∧ (code = .auth ↔ Rejected peer past) ∧
        (code = .generic ↔ Asked isServe past) ∧
        (code = .protocol ↔ ¬ Rejected peer past ∧ ¬ Asked isServe past)
  | ⟨.release .., _⟩ =>
      Asked isJudge past ↔ ∃ control hello, server.Greeted session past control hello
  | ⟨.limit .., _⟩ | ⟨.receive .., _⟩ | ⟨.accept .., _⟩ | ⟨.pace .., _⟩ => True
  | _ => False

/-! ## The greetings -/

/-- What has become clear once the greetings are over. -/
structure Settled (past : List Exchange) (outcome : Except Error Admission) : Prop where
  /-- Each exchange was preceded by what it needs. -/
  proper : Throughout (server.Proper session peer) [] past
  /-- The client was judged exactly if it sent a whole greeting which asks for traffic. -/
  judged : Asked isJudge past ↔ ∃ control hello, server.Greeted session past control hello
  /-- The client was refused and told so exactly if the greetings ended with that. -/
  rejected : Rejected peer past ↔ ∃ message, outcome = .ok (.rejected message)
  /-- A client which is let in was told so. -/
  admitted : ∀ token, outcome = .ok (.admitted token) → Admitted session peer past
  /-- No stream was taken. -/
  outside : ¬ Asked isServe past
  /-- The session was not closed. -/
  unclosed : ¬ Asked isClose past

theorem proper_of_onlyReads {reads : List Exchange} (only : OnlyReads reads) (past : List Exchange) :
    Throughout (server.Proper session peer) past reads := by
  induction reads generalizing past with
  | nil => trivial
  | cons exchange reads ih =>
      refine ⟨?_, ih (fun later member => only later (List.mem_cons_of_mem _ member)) _⟩
      obtain ⟨stream, count, deadline, same⟩ := only exchange List.mem_cons_self
      obtain ⟨request, reply⟩ := exchange
      cases same
      trivial

/-- What reads nothing and takes no stream does not change what was greeted. -/
theorem greeted_append {front back : List Exchange} {control : StreamRef} {hello : ClientHello}
    (mute : heard control back = [])
    (last : (⟨.accept session (some server.greetingLimit), .ok control⟩ : Exchange) ∉ back) :
    server.Greeted session (front ++ back) control hello ↔
      server.Greeted session front control hello := by
  have bytes : heard control (front ++ back) = heard control front := by
    rw [heard_append, mute, List.append_nil]
  constructor
  · rintro ⟨taken, complete, sending, receiving⟩
    exact ⟨(List.mem_append.mp taken).resolve_right last, bytes ▸ complete, sending, receiving⟩
  · rintro ⟨taken, complete, sending, receiving⟩
    exact ⟨List.mem_append_left _ taken, bytes ▸ complete, sending, receiving⟩

theorem negotiate?_eq_none_iff (rate : Rate) (ceiling : RateCeiling) :
    rate.negotiate? ceiling = none ↔ rate.send = 0 ∨ rate.recv = 0 := by
  rw [Rate.negotiate?]
  split <;> simp_all

/-- What happens on the first stream until the greeting has been read or can not be. -/
def opening (control : StreamRef) (reads : List Exchange) : List Exchange :=
  ⟨.accept session (some server.greetingLimit), .ok control⟩ ::
    ⟨.limit control (some server.greetingLimit), .ok ()⟩ :: reads

section Opening

variable {server session peer}
variable {control : StreamRef} {reads tail : List Exchange} {result : Except Error ClientHello}

/-- What asks for nothing that the opening asks for is found behind the opening only. -/
theorem mem_opening_append (only : OnlyReads reads) {exchange : Exchange}
    (quiet : ∀ stream count deadline, exchange.request ≠ .receive stream count deadline)
    (later : ∀ session time, exchange.request ≠ .accept session time)
    (unlimited : ∀ stream time, exchange.request ≠ .limit stream time) :
    exchange ∈ server.opening session control reads ++ tail ↔ exchange ∈ tail := by
  simp only [opening, List.cons_append, List.mem_cons, List.mem_append, only.not_mem quiet]
  constructor
  · rintro (rfl | rfl | impossible | member)
    · exact absurd rfl (later session (some server.greetingLimit))
    · exact absurd rfl (unlimited control (some server.greetingLimit))
    · exact impossible.elim
    · exact member
  · intro member
    exact .inr (.inr (.inr member))

theorem asked_opening_append (only : OnlyReads reads) {kind : Request → Bool}
    (quiet : ∀ stream count deadline, ¬ kind (.receive stream count deadline))
    (later : ∀ session time, ¬ kind (.accept session time))
    (unlimited : ∀ stream time, ¬ kind (.limit stream time)) :
    Asked kind (server.opening session control reads ++ tail) ↔ Asked kind tail := by
  simp [opening, only.not_asked quiet, later, unlimited]

theorem answered_opening_append (only : OnlyReads reads) (stream : StreamRef) (token : Bytes)
    (rate : Rate) (verdict : Verdict) :
    Answered peer (server.opening session control reads ++ tail) stream token rate verdict ↔
      Answered peer tail stream token rate verdict := by
  simp [answered_iff, mem_opening_append only]

/-- A whole greeting was read exactly if reading it succeeded. -/
theorem greeted_opening
    (reading : Talk.Run (Talk.read control none ClientHello.reader) reads result)
    (stream : StreamRef) (hello : ClientHello) :
    server.Greeted session (server.opening session control reads) stream hello ↔
      stream = control ∧ result = .ok hello ∧ hello.rate.negotiate? server.ceiling ≠ none := by
  have only := Talk.onlyReads_of_run reading
  have whole : result = .ok hello ↔ hello.layout = .ok (heard control reads) := by
    rw [(Talk.run_read reading).2, ClientHello.run_reader_iff]
    simp
  have bytes : heard control (server.opening session control reads) = heard control reads := by
    simp [opening, heard, Exchange.heard]
  rw [Ne, negotiate?_eq_none_iff, not_or, whole]
  constructor
  · rintro ⟨first, complete, sending, receiving⟩
    have same : stream = control := by simpa [opening, only.not_mem] using first
    subst same
    exact ⟨rfl, bytes ▸ complete, sending, receiving⟩
  · rintro ⟨rfl, complete, sending, receiving⟩
    exact ⟨by simp [opening], bytes ▸ complete, sending, receiving⟩

theorem opening_proper (only : OnlyReads reads) :
    Throughout (server.Proper session peer) [] (server.opening session control reads) :=
  ⟨trivial, trivial, server.proper_of_onlyReads session peer only _⟩

/-- The client may be judged once its greeting has been read. -/
theorem judge_proper {hello : ClientHello} {rate : Rate}
    (reading : Talk.Run (Talk.read control none ClientHello.reader) reads (.ok hello))
    (agreed : hello.rate.negotiate? server.ceiling = some rate) (verdict : Verdict) :
    server.Proper session peer (server.opening session control reads)
      ⟨.judge peer hello.token rate, verdict⟩ := by
  have only := Talk.onlyReads_of_run reading
  refine ⟨rfl, ?_, control, hello, ?_, rfl, agreed⟩
  · have unread : ¬ Asked isJudge reads := only.not_asked (by simp [isJudge])
    simp [opening, isJudge, unread]
  · exact (greeted_opening reading control hello).mpr ⟨rfl, rfl, by simp [agreed]⟩

/-- The judgement may be written to the first stream. -/
theorem answer_proper {token : Bytes} {rate : Rate} {verdict : Verdict} {bytes : Bytes}
    (layout : ServerHello.layout ⟨verdict.accepted, rate, verdict.message⟩ = .ok bytes)
    (reply : Except IoError Unit) :
    server.Proper session peer
      (server.opening session control reads ++ [⟨.judge peer token rate, verdict⟩])
      ⟨.send control bytes, reply⟩ :=
  ⟨by simp [opening], token, rate, verdict, by simp, layout⟩

/-- The greetings are settled by what is done once the greeting has been read or can not be. -/
theorem settled_opening_append {outcome : Except Error Admission}
    (reading : Talk.Run (Talk.read control none ClientHello.reader) reads result)
    (mute : ∀ stream, heard stream tail = [])
    (last : ∀ stream, (⟨.accept session (some server.greetingLimit), .ok stream⟩ : Exchange) ∉ tail)
    (proper : Throughout (server.Proper session peer) (server.opening session control reads) tail)
    (judged : Asked isJudge tail ↔
      ∃ hello, result = .ok hello ∧ hello.rate.negotiate? server.ceiling ≠ none)
    (rejected : Rejected peer tail ↔ ∃ message, outcome = .ok (.rejected message))
    (admitted : ∀ token, outcome = .ok (.admitted token) → Admitted session peer tail)
    (outside : ¬ Asked isServe tail) (unclosed : ¬ Asked isClose tail) :
    server.Settled session peer (server.opening session control reads ++ tail) outcome := by
  have only := Talk.onlyReads_of_run reading
  constructor
  · exact (throughout_append ..).mpr ⟨opening_proper only, proper⟩
  · rw [asked_opening_append only (by simp [isJudge]) (by simp [isJudge]) (by simp [isJudge]), judged]
    simp [greeted_append, mute, last, greeted_opening reading]
  · rw [← rejected]
    simp only [Rejected, answered_opening_append only]
  · intro token ended
    obtain ⟨stream, token, rate, verdict, answered, accepted, paced⟩ := admitted token ended
    exact ⟨stream, token, rate, verdict, (answered_opening_append only ..).mpr answered, accepted,
      List.mem_append_right _ paced⟩
  · rwa [asked_opening_append only (by simp [isServe]) (by simp [isServe]) (by simp [isServe])]
  · rwa [asked_opening_append only (by simp [isClose]) (by simp [isClose]) (by simp [isClose])]

end Opening

theorem layout_ne_nil (hello : ClientHello) : hello.layout ≠ .ok [] := by
  rw [ClientHello.layout]
  cases Wire.long hello.token with
  | error error => simp [bind, Except.bind]
  | ok token => simp [bind, Except.bind, pure, Except.pure]

theorem settled_of_greeting {control : StreamRef} {front : List Exchange}
    {outcome : Except Error Admission}
    (greeting : server.Greeting session peer control front outcome) :
    server.Settled session peer
      (⟨.accept session (some server.greetingLimit), .ok control⟩ :: front) outcome := by
  cases greeting with
  | unlimited error =>
      constructor
      · exact ⟨trivial, trivial, trivial⟩
      · have unread : ∀ stream hello, ¬ server.Greeted session
            [⟨.accept session (some server.greetingLimit), .ok control⟩,
              ⟨.limit control (some server.greetingLimit), .error error⟩] stream hello := by
          intro stream hello greeted
          exact layout_ne_nil hello greeted.complete
        simpa [isJudge] using unread
      · simp [Rejected, answered_iff]
      · simp
      · simp [isServe]
      · simp [isClose]
  | unread reading =>
      rw [← List.append_nil (_ :: _)]
      refine settled_opening_append reading (fun _ => rfl) (by simp) trivial ?_ ?_ ?_ ?_ ?_ <;>
        simp [Rejected, answered_iff]
  | standstill reading refused =>
      rw [← List.append_nil (_ :: _)]
      refine settled_opening_append reading (fun _ => rfl) (by simp) trivial ?_ ?_ ?_ ?_ ?_ <;>
        simp [Rejected, answered_iff, refused]
  | unanswerable verdict reading agreed layout =>
      refine settled_opening_append reading (fun _ => rfl) (by simp)
        ⟨judge_proper reading agreed verdict, trivial⟩ ?_ ?_ ?_ ?_ ?_ <;>
        simp [isJudge, isServe, isClose, Rejected, answered_iff, agreed]
  | unwritten verdict cause reading agreed layout =>
      refine settled_opening_append reading (fun _ => rfl) (by simp)
        ⟨judge_proper reading agreed verdict, answer_proper layout _, trivial⟩ ?_ ?_ ?_ ?_ ?_ <;>
        simp [isJudge, isServe, isClose, Rejected, answered_iff, agreed]
  | rejected verdict reading agreed layout refused =>
      refine settled_opening_append reading (fun _ => rfl) (by simp)
        ⟨judge_proper reading agreed verdict, answer_proper layout _, trivial⟩ ?_ ?_ ?_ ?_ ?_
      · simp [isJudge, agreed]
      · simpa [Rejected, answered_iff, refused] using layout
      · simp
      · simp [isServe]
      · simp [isClose]
  | @accepted _ hello rate _ verdict paced reading agreed layout granted =>
      refine settled_opening_append reading (fun _ => rfl) (by simp)
        ⟨judge_proper reading agreed verdict, answer_proper layout _, trivial, trivial⟩
          ?_ ?_ ?_ ?_ ?_
      · simp [isJudge, agreed]
      · cases paced <;> simp [Rejected, answered_iff, granted, Except.map]
      · intro token ended
        cases paced with
        | error error => simp [Except.map] at ended
        | ok _ =>
            exact ⟨control, hello.token, rate, verdict, ⟨by simp, _, layout, by simp⟩, granted, by simp⟩
      · simp [isServe]
      · simp [isClose]

theorem Admitted.append {past : List Exchange} (admitted : Admitted session peer past)
    (later : List Exchange) : Admitted session peer (past ++ later) := by
  obtain ⟨control, token, rate, verdict, ⟨judged, bytes, layout, written⟩, accepted, paced⟩ := admitted
  exact ⟨control, token, rate, verdict, ⟨List.mem_append_left _ judged, bytes, layout,
    List.mem_append_left _ written⟩, accepted, List.mem_append_left _ paced⟩

/-- Giving a stream up settles nothing. -/
theorem Settled.release {past : List Exchange} {outcome : Except Error Admission}
    (settled : server.Settled session peer past outcome) (stream : StreamRef) :
    server.Settled session peer (past ++ [⟨.release stream, ()⟩]) outcome := by
  have greeted : ∀ control hello,
      server.Greeted session (past ++ [⟨.release stream, ()⟩]) control hello ↔
        server.Greeted session past control hello :=
    fun control hello => server.greeted_append session rfl (by simp)
  constructor
  · exact (throughout_append ..).mpr ⟨settled.proper, settled.judged, trivial⟩
  · simpa [isJudge, greeted] using settled.judged
  · simpa [Rejected, answered_iff] using settled.rejected
  · exact fun token ended => (settled.admitted token ended).append session peer _
  · simpa [isServe] using settled.outside
  · simpa [isClose] using settled.unclosed

theorem settled_of_welcome {exchanges : List Exchange} {outcome : Except Error Admission}
    (welcome : server.Welcome session peer exchanges outcome) :
    server.Settled session peer exchanges outcome := by
  cases welcome with
  | @greeted control _ _ greeting =>
      exact (server.settled_of_greeting session peer greeting).release server session peer control
  | missing error =>
      constructor
      · exact ⟨trivial, trivial⟩
      · have unread : ∀ stream hello, ¬ server.Greeted session
            [⟨.accept session (some server.greetingLimit), .error error⟩] stream hello := by
          intro stream hello greeted
          exact layout_ne_nil hello greeted.complete
        simpa [isJudge] using unread
      · simp [Rejected, answered_iff]
      · simp
      · simp [isServe]
      · simp [isClose]

/-! ## The thread with the greetings -/

/-- What holds of every run of the thread with the greetings. -/
structure Orderly (exchanges : List Exchange) : Prop where
  /-- Each exchange was preceded by what it needs. -/
  proper : Throughout (server.Proper session peer) [] exchanges
  /-- The client was judged exactly if it sent a whole greeting which asks for traffic. -/
  judged : Asked isJudge exchanges ↔ ∃ control hello, server.Greeted session exchanges control hello
  /-- The session was closed. -/
  closed : Asked isClose exchanges

/-- Each way to end a session has the code which belongs to it. -/
theorem ending_proper {front : List Exchange} {outcome : Except Error Admission}
    (settled : server.Settled session peer front outcome) :
    Throughout (server.Proper session peer) front (ending session peer outcome) := by
  obtain ⟨-, -, rejected, admitted, outside, unclosed⟩ := settled
  rcases outcome with error | token | message
  · exact ⟨⟨rfl, unclosed, by simp [rejected], by simp [outside], by simp [rejected, outside]⟩, trivial⟩
  · have entered := admitted token rfl
    refine ⟨⟨rfl, rfl, entered⟩, ⟨rfl, ?_, ?_, ?_, ?_⟩, trivial⟩
    · simp [unclosed, isClose]
    · have unrejected : ¬ Rejected peer front := by simp [rejected]
      simpa [Rejected, answered_iff] using unrejected
    · simp [isServe]
    · simp [isServe]
  · exact ⟨⟨rfl, unclosed, by simp [rejected], by simp [outside], by simp [rejected]⟩, trivial⟩

theorem orderly_of_run {exchanges : List Exchange} {result : Except Error Unit}
    (run : Talk.Run (server.handle session peer) exchanges result) :
    server.Orderly session peer exchanges := by
  obtain ⟨front, outcome, rfl, welcome⟩ := server.welcome_of_run_handle session peer run
  have settled := server.settled_of_welcome session peer welcome
  have last : ¬ Asked isJudge (ending session peer outcome) ∧
      Asked isClose (ending session peer outcome) := by
    rcases outcome with error | token | message <;> simp [ending, isJudge, isClose]
  have greeted : ∀ control hello, server.Greeted session
      (front ++ ending session peer outcome) control hello ↔
        server.Greeted session front control hello := by
    intro control hello
    refine server.greeted_append session ?_ ?_ <;>
      rcases outcome with error | token | message <;> simp [ending, heard, Exchange.heard]
  constructor
  · exact (throughout_append ..).mpr ⟨settled.proper, server.ending_proper session peer settled⟩
  · simp only [greeted, asked_append, last.1, or_false, settled.judged]
  · exact (asked_append ..).mpr (.inr last.2)

theorem countP_eq_zero_of_not_asked {kind : Request → Bool} {past : List Exchange}
    (never : ¬ Asked kind past) : past.countP (fun exchange => kind exchange.request) = 0 := by
  rw [List.countP_eq_zero]
  exact fun exchange member asked => never ⟨exchange, member, asked⟩

theorem judge_count_le_one {exchanges : List Exchange}
    (proper : Throughout (server.Proper session peer) [] exchanges) :
    exchanges.countP (fun exchange => isJudge exchange.request) ≤ 1 := by
  refine countP_le_one _ (proper.mono fun past exchange holds judge => ?_)
  obtain ⟨request, reply⟩ := exchange
  cases request with
  | judge => exact countP_eq_zero_of_not_asked holds.2.1
  | _ => simp [isJudge] at judge

theorem close_count_le_one {exchanges : List Exchange}
    (proper : Throughout (server.Proper session peer) [] exchanges) :
    exchanges.countP (fun exchange => isClose exchange.request) ≤ 1 := by
  refine countP_le_one _ (proper.mono fun past exchange holds close => ?_)
  obtain ⟨request, reply⟩ := exchange
  cases request with
  | close => exact countP_eq_zero_of_not_asked holds.2.1
  | _ => simp [isClose] at close

/-- Whatever the first thread has done so far was preceded by what it needs. -/
theorem proper_of_after {exchanges : List Exchange} {rest : Program (Except Error Unit)}
    (after : Program.After (server.handle session peer).run exchanges rest) :
    Throughout (server.Proper session peer) [] exchanges := by
  obtain ⟨later, result, run⟩ := rest.exists_run
  have orderly := server.orderly_of_run session peer (after.run_append run)
  exact ((throughout_append ..).mp orderly.proper).1

end Server
end Tunnel
end TunnelProxy
