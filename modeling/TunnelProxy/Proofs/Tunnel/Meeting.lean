import Mathlib.Logic.Relation
import TunnelProxy.Proofs.Tunnel.Admission

/-!
# Two programs which meet

Two programs talk to each other over one session, which neither loses nor changes anything: what one
side has written before it left arrives at the other one, and reading fails only if nothing more can
come.  The programs go on in any order.  Since what can happen to one of them does not depend on what
the other one does meanwhile, it is enough to look at one order.
-/

namespace TunnelProxy

open Tunnel.Server (isClose)
open Wire (Reader)

/-! ## Programs in front of others -/

theorem Program.bind_assoc {α β γ : Type} (program : Program α) (next : α → Program β)
    (last : β → Program γ) :
    (program.bind next).bind last = program.bind fun value => (next value).bind last := by
  induction program with
  | done value => rfl
  | ask request following ih => simp only [bind, ih]

theorem Program.bind_done {α : Type} (program : Program α) : program.bind .done = program := by
  induction program with
  | done value => rfl
  | ask request following ih => simp only [bind, ih]

namespace Talk

variable {α β γ : Type}

/-- Go on behind something unless it failed. -/
def following (next : α → Talk β) (last : Except Error β → Program γ) :
    Except Error α → Program γ
  | .ok value => (next value).run.bind last
  | .error error => last (.error error)

theorem run_bind_bind (talk : Talk α) (next : α → Talk β) (last : Except Error β → Program γ) :
    (talk >>= next).run.bind last = talk.run.bind (following next last) := by
  change (talk.run.bind (ExceptT.bindCont next)).bind last = _
  rw [Program.bind_assoc]
  congr 1
  funext result
  cases result <;> rfl

theorem run_write_bind (stream : StreamRef) (bytes : Bytes) (last : Except Error Unit → Program γ) :
    (write stream (.ok bytes)).run.bind last =
      .ask (.send stream bytes) fun reply => last (reply.mapError Error.io) := rfl

theorem run_judge_bind (peer : Net.SocketAddress) (token : Bytes) (rate : Rate)
    (last : Except Error Tunnel.Verdict → Program γ) :
    (judge peer token rate).run.bind last =
      .ask (.judge peer token rate) fun verdict => last (.ok verdict) := rfl

theorem run_attempt_bind (talk : Talk α) (last : Except Error (Except Error α) → Program γ) :
    (attempt talk).run.bind last = talk.run.bind fun result => last (.ok result) := by
  rw [attempt, ExceptT.run_mk, Program.bind_assoc]
  rfl

theorem run_releasing_bind (stream : StreamRef) (talk : Talk α)
    (last : Except Error α → Program γ) :
    (releasing stream talk).run.bind last =
      talk.run.bind fun result => .ask (.release stream) fun _ => last result := by
  rw [releasing, ExceptT.run_mk, Program.bind_assoc]
  rfl

end Talk

/-! ## What reaches the other side -/

/-- Whether nothing of a stream reaches the other side any more. -/
def leaves (stream : StreamRef) : Request → Bool
  | .release given => given = stream
  | .close .. => true
  | _ => false

/-- The exchanges before something of a kind was asked for. -/
def before (kind : Request → Bool) (past : List Exchange) : List Exchange :=
  past.takeWhile fun exchange => !kind exchange.request

/-- The bytes of a stream which reach the other side. -/
def sent (stream : StreamRef) (past : List Exchange) : Bytes :=
  (messages stream (before (leaves stream) past)).flatten

/-- The stream which an exchange opened. -/
def Exchange.opened : Exchange → List StreamRef
  | ⟨.openStream _, (reply : Except Error StreamRef)⟩ => reply.toOption.toList
  | _ => []

/-- The stream which an exchange took from the other side. -/
def Exchange.taken : Exchange → List StreamRef
  | ⟨.accept .., (reply : Except Error StreamRef)⟩ => reply.toOption.toList
  | _ => []

/-- The streams which reach the other side. -/
def opened (past : List Exchange) : List StreamRef :=
  (before isClose past).flatMap Exchange.opened

/-- The streams which were taken from the other side. -/
def taken (past : List Exchange) : List StreamRef :=
  past.flatMap Exchange.taken

theorem before_append (kind : Request → Bool) (past more : List Exchange) :
    (Asked kind past ∧ before kind (past ++ more) = before kind past) ∨
      (¬ Asked kind past ∧ before kind past = past ∧
        before kind (past ++ more) = past ++ before kind more) := by
  induction past with
  | nil => simp [before]
  | cons exchange past ih =>
      cases asked : kind exchange.request <;> simp_all [before]

theorem before_mono (kind : Request → Bool) (past more : List Exchange) :
    before kind past <+: before kind (past ++ more) := by
  rcases before_append kind past more with ⟨-, same⟩ | ⟨-, whole, longer⟩
  · exact ⟨[], by rw [List.append_nil, same]⟩
  · rw [whole, longer]
    exact List.prefix_append ..

theorem before_append_of_asked {kind : Request → Bool} {past : List Exchange}
    (asked : Asked kind past) (more : List Exchange) :
    before kind (past ++ more) = before kind past := by
  rcases before_append kind past more with ⟨-, same⟩ | ⟨unasked, -⟩
  · exact same
  · exact absurd asked unasked

theorem sent_mono (stream : StreamRef) (past more : List Exchange) :
    sent stream past <+: sent stream (past ++ more) := by
  obtain ⟨rest, whole⟩ := before_mono (leaves stream) past more
  rw [sent, sent, ← whole, messages_append, List.flatten_append]
  exact List.prefix_append ..

theorem opened_mono (past more : List Exchange) : opened past <+: opened (past ++ more) := by
  obtain ⟨rest, whole⟩ := before_mono isClose past more
  rw [opened, opened, ← whole, List.flatMap_append]
  exact List.prefix_append ..

/-- What was written before a stream was given up reaches the other side. -/
theorem sent_append {stream : StreamRef} {front : List Exchange}
    (stays : ¬ Asked (leaves stream) front) (back : List Exchange) :
    sent stream (front ++ back) = (messages stream front).flatten ++ sent stream back := by
  rcases before_append (leaves stream) front back with ⟨left, -⟩ | ⟨-, -, whole⟩
  · exact absurd left stays
  · rw [sent, whole, messages_append, List.flatten_append, sent]

/-! ## What a side gets -/

/-- The replies which a side can get, when it and the other side have come so far.  Clients are judged
by a fixed judge, and streams are served until the other side closes the session. -/
def Carried (judge : Tunnel.Judge) (near far : List Exchange) : Exchange → Prop
  | ⟨.limit .., (reply : Except Error Unit)⟩ => reply = .ok ()
  | ⟨.receive stream count _, (reply : Except IoError Bytes)⟩ =>
      match reply with
      | .ok bytes => heard stream near ++ bytes <+: sent stream far
      | .error _ => Asked (leaves stream) far ∧
          (sent stream far).length < (heard stream near).length + count
  | ⟨.send .., (reply : Except IoError Unit)⟩ => reply = .ok ()
  | ⟨.judge peer token rate, (verdict : Tunnel.Verdict)⟩ => verdict = judge peer token rate
  | ⟨.connect, (reply : Except Error SessionRef)⟩ => ∃ session, reply = .ok session
  | ⟨.accept .., (reply : Except Error StreamRef)⟩ =>
      match reply with
      | .ok stream => taken near ++ [stream] <+: opened far
      | .error _ => Asked isClose far ∧ (opened far).length ≤ (taken near).length
  | ⟨.openStream _, (reply : Except Error StreamRef)⟩ => ∃ stream, reply = .ok stream
  | ⟨.pace .., (reply : Except Error Unit)⟩ => reply = .ok ()
  | ⟨.serve .., _⟩ => Asked isClose far
  | _ => True

/-- What comes can come still if the other side has gone on. -/
theorem Carried.append {judge : Tunnel.Judge} {near far : List Exchange} {exchange : Exchange}
    (carried : Carried judge near far exchange) (more : List Exchange) :
    Carried judge near (far ++ more) exchange := by
  obtain ⟨request, reply⟩ := exchange
  cases request with
  | receive stream count deadline =>
      cases reply with
      | ok bytes => exact carried.trans (sent_mono ..)
      | error cause =>
          obtain ⟨left, short⟩ := carried
          refine ⟨(asked_append ..).mpr (.inl left), ?_⟩
          rwa [sent, before_append_of_asked left]
  | accept session time =>
      cases reply with
      | ok stream => exact carried.trans (opened_mono ..)
      | error error =>
          obtain ⟨closed, none⟩ := carried
          refine ⟨(asked_append ..).mpr (.inl closed), ?_⟩
          rwa [opened, before_append_of_asked closed]
  | serve session peer token => exact (asked_append ..).mpr (.inl carried)
  | _ => exact carried

/-- Two lists which go on equally far in another one are the same. -/
theorem eq_of_append_prefix {α : Type} {past list list' whole : List α} (length : list.length = list'.length)
    (first : past ++ list <+: whole) (second : past ++ list' <+: whole) : list = list' := by
  have same := List.prefix_of_prefix_length_le first second (by simp [length])
  exact List.append_cancel_left (same.eq_of_length (by simp [length]))

/-- The next stream comes and nothing else. -/
theorem carried_accept_iff {judge : Tunnel.Judge} {near far : List Exchange} {stream : StreamRef}
    (first : taken near ++ [stream] <+: opened far) (session : SessionRef) (time : Option Nat)
    (reply : Except Error StreamRef) :
    Carried judge near far ⟨.accept session time, reply⟩ ↔ reply = .ok stream := by
  constructor
  · intro carried
    cases reply with
    | ok other =>
        have same : [other] = [stream] := eq_of_append_prefix rfl carried first
        cases same
        rfl
    | error error =>
        have none := carried.2
        have some := first.length_le
        rw [List.length_append, List.length_singleton] at some
        omega
  · rintro rfl
    exact first

/-- If a request can be answered, then no other answers become possible. -/
theorem Carried.of_append {judge : Tunnel.Judge} {near far more : List Exchange} {request : Request}
    {reply other : request.Reply} (admissible : Exchange.Admissible ⟨request, reply⟩)
    (carried : Carried judge near far ⟨request, reply⟩)
    (admissible' : Exchange.Admissible ⟨request, other⟩)
    (later : Carried judge near (far ++ more) ⟨request, other⟩) :
    Carried judge near far ⟨request, other⟩ := by
  -- What has arrived stays there, and once the other side has left nothing arrives any more.
  cases request with
  | receive stream count deadline =>
      cases reply with
      | ok bytes =>
          have arrived := carried.trans (sent_mono stream far more)
          cases other with
          | ok bytes' =>
              have length : bytes.length = bytes'.length := Eq.trans admissible (Eq.symm admissible')
              rw [← eq_of_append_prefix length arrived later]
              exact carried
          | error cause =>
              have short := later.2
              have long := arrived.length_le
              have length : bytes.length = count := admissible
              rw [List.length_append] at long
              omega
      | error cause =>
          have same : sent stream (far ++ more) = sent stream far := by
            rw [sent, before_append_of_asked carried.1, sent]
          cases other with
          | ok bytes' =>
              rw [Carried, same] at later
              exact later
          | error cause' => exact ⟨carried.1, carried.2⟩
  | accept session time =>
      cases reply with
      | ok stream =>
          have arrived := carried.trans (opened_mono far more)
          cases other with
          | ok stream' =>
              have same : [stream] = [stream'] := eq_of_append_prefix rfl arrived later
              cases same
              exact carried
          | error error =>
              have none := later.2
              have some := arrived.length_le
              rw [List.length_append, List.length_singleton] at some
              omega
      | error error =>
          have same : opened (far ++ more) = opened far := by
            rw [opened, before_append_of_asked carried.1, opened]
          cases other with
          | ok stream' =>
              rw [Carried, same] at later
              exact later
          | error error' => exact ⟨carried.1, carried.2⟩
  | serve session peer token => exact carried
  | _ => exact later

/-! ## Steps -/

/-- One side: what is left of its program, and what it has asked for. -/
structure Party (α : Type) where
  /-- What is left of the program. -/
  program : Program α
  /-- What the program has asked for, with the replies. -/
  past : List Exchange

/-- A side goes on while the other side has come so far. -/
inductive Party.Step {α : Type} (judge : Tunnel.Judge) (far : List Exchange) :
    Party α → Party α → Prop
  /-- A request is answered. -/
  | ask {request : Request} {next : request.Reply → Program α} {past : List Exchange}
      (reply : request.Reply) (admissible : Exchange.Admissible ⟨request, reply⟩)
      (carried : Carried judge past far ⟨request, reply⟩) :
      Step judge far ⟨.ask request next, past⟩ ⟨next reply, past ++ [⟨request, reply⟩]⟩

/-- Two sides. -/
structure Meeting (α β : Type) where
  /-- The one side. -/
  near : Party α
  /-- The other side. -/
  far : Party β

namespace Meeting

variable {α β : Type} {judge : Tunnel.Judge}

/-- One of the sides goes on. -/
inductive Step (judge : Tunnel.Judge) : Meeting α β → Meeting α β → Prop
  /-- The one side goes on. -/
  | near {near later : Party α} {far : Party β} (step : near.Step judge far.past later) :
      Step judge ⟨near, far⟩ ⟨later, far⟩
  /-- The other side goes on. -/
  | far {near : Party α} {far later : Party β} (step : far.Step judge near.past later) :
      Step judge ⟨near, far⟩ ⟨near, later⟩

/-- Both sides can not go on for ever, and when neither of them can go on any more, they have reached
what is to be reached. -/
inductive Ends (judge : Tunnel.Judge) (final : Meeting α β → Prop) : Meeting α β → Prop
  /-- It is so after each step, and now if there is none. -/
  | intro {meeting : Meeting α β} (stopped : (∀ later, ¬ Step judge meeting later) → final meeting)
      (further : ∀ later, Step judge meeting later → Ends judge final later) : Ends judge final meeting

variable {final : Meeting α β → Prop}

/-- Some order of steps leads to where they all lead. -/
theorem Ends.exists_final {meeting : Meeting α β} (ends : Ends judge final meeting) :
    ∃ last, Relation.ReflTransGen (Step judge) meeting last ∧ final last := by
  induction ends with
  | @intro meeting stopped further ih =>
      by_cases stuck : ∀ later, ¬ Step judge meeting later
      · exact ⟨meeting, .refl, stopped stuck⟩
      · obtain ⟨later, step⟩ := Classical.not_forall.mp stuck
        obtain ⟨last, path, reached⟩ := ih later (Classical.not_not.mp step)
        exact ⟨last, path.head (Classical.not_not.mp step), reached⟩

/-! ## The order of steps does not matter -/

/-- If one side can go on, it is enough to look at what it does next: whatever the other side does
meanwhile, the same replies come. -/
theorem Ends.of_near {near : Party α} {far : Party β}
    (possible : ∃ later, near.Step judge far.past later)
    (ends : ∀ later, near.Step judge far.past later → Ends judge final ⟨later, far⟩) :
    Ends judge final ⟨near, far⟩ := by
  obtain ⟨program, farPast⟩ := far
  -- Each step of the other side makes its program smaller, and the hypotheses stay true.
  induction program generalizing farPast with
  | done value =>
      refine .intro (fun stuck => ?_) fun later step => ?_
      · obtain ⟨later, step⟩ := possible
        exact absurd (.near step) (stuck _)
      · cases step with
        | near step => exact ends _ step
        | far step => cases step
  | ask request next ih =>
      obtain ⟨_, @⟨asked, following, past, reply, admissible, carried⟩⟩ := possible
      refine .intro (fun stuck => ?_) fun later step => ?_
      · exact absurd (.near (.ask reply admissible carried)) (stuck _)
      cases step with
      | near step => exact ends _ step
      | far step =>
          cases step with
          | ask farReply farAdmissible farCarried =>
              refine ih farReply _ ⟨_, .ask reply admissible (carried.append _)⟩ fun later step => ?_
              cases step with
              | ask other admissible' later =>
                  -- What comes after the step of the other side could have come before it.
                  have earlier := Carried.of_append admissible carried admissible' later
                  cases ends _ (.ask other admissible' earlier) with
                  | intro _ further =>
                      exact further _ (.far (.ask farReply farAdmissible (farCarried.append _)))

/-- What is to be reached is reached when neither side can go on. -/
theorem Ends.of_stuck {meeting : Meeting α β} (stuck : ∀ later, ¬ Step judge meeting later)
    (reached : final meeting) : Ends judge final meeting :=
  .intro (fun _ => reached) fun later step => absurd step (stuck later)

/-- Neither side can go on when both have ended. -/
theorem not_step_done (value : α) (value' : β) (past past' : List Exchange) (later : Meeting α β) :
    ¬ Step judge ⟨⟨.done value, past⟩, ⟨.done value', past'⟩⟩ later := by
  intro step
  cases step with
  | near step => cases step
  | far step => cases step

/-- Neither side can go on when one has ended and the other one serves streams, unless the session is
closed. -/
theorem not_step_serve (value : α) {session : SessionRef} {peer : Net.SocketAddress} {token : Bytes}
    {next : Unit → Program β} {past past' : List Exchange} (kept : ¬ Asked isClose past)
    (later : Meeting α β) :
    ¬ Step judge ⟨⟨.done value, past⟩, ⟨.ask (.serve session peer token) next, past'⟩⟩ later := by
  intro step
  cases step with
  | near step => cases step
  | far step =>
      cases step with
      | ask _ _ carried => exact kept carried

/-- The same with the sides exchanged. -/
def swap (meeting : Meeting α β) : Meeting β α := ⟨meeting.far, meeting.near⟩

theorem Step.swap {meeting later : Meeting α β} (step : Step judge meeting later) :
    Step judge meeting.swap later.swap := by
  cases step with
  | near step => exact .far step
  | far step => exact .near step

/-- Which side is called the one and which the other does not matter. -/
theorem Ends.swap {meeting : Meeting α β} (ends : Ends judge final meeting) :
    Ends judge (fun meeting => final meeting.swap) meeting.swap := by
  induction ends with
  | intro stopped _ ih =>
      exact .intro (fun stuck => stopped fun later step => stuck _ step.swap)
        fun later step => ih later.swap step.swap

/-- A request can be answered, and all answers to it end well. -/
theorem Ends.ask (request : Request) {next : request.Reply → Program α} {past : List Exchange}
    {far : Party β}
    (possible : ∃ reply, Exchange.Admissible ⟨request, reply⟩ ∧
      Carried judge past far.past ⟨request, reply⟩)
    (ends : ∀ reply, Exchange.Admissible ⟨request, reply⟩ →
      Carried judge past far.past ⟨request, reply⟩ →
        Ends judge final ⟨⟨next reply, past ++ [⟨request, reply⟩]⟩, far⟩) :
    Ends judge final ⟨⟨.ask request next, past⟩, far⟩ := by
  obtain ⟨reply, admissible, carried⟩ := possible
  refine .of_near ⟨_, .ask reply admissible carried⟩ fun later step => ?_
  cases step with
  | ask reply admissible carried => exact ends reply admissible carried

/-- A request has one answer, and that ends well. -/
theorem Ends.answer (request : Request) (reply : request.Reply)
    {next : request.Reply → Program α} {past : List Exchange} {far : Party β}
    (admissible : Exchange.Admissible ⟨request, reply⟩)
    (only : ∀ other, Carried judge past far.past ⟨request, other⟩ ↔ other = reply)
    (ends : Ends judge final ⟨⟨next reply, past ++ [⟨request, reply⟩]⟩, far⟩) :
    Ends judge final ⟨⟨.ask request next, past⟩, far⟩ := by
  refine .ask request ⟨reply, admissible, (only reply).mpr rfl⟩ fun other _ carried => ?_
  rw [(only other).mp carried]
  exact ends

theorem Ends.release {stream : StreamRef} {next : Unit → Program α} {past : List Exchange}
    {far : Party β} (ends : Ends judge final ⟨⟨next (), past ++ [⟨.release stream, ()⟩]⟩, far⟩) :
    Ends judge final ⟨⟨.ask (.release stream) next, past⟩, far⟩ :=
  .answer (.release stream) () trivial (fun _ => ⟨fun _ => rfl, fun _ => trivial⟩) ends

theorem Ends.close {session : SessionRef} {code : CloseCode} {reason : String}
    {next : Unit → Program α} {past : List Exchange} {far : Party β}
    (ends : Ends judge final ⟨⟨next (), past ++ [⟨.close session code reason, ()⟩]⟩, far⟩) :
    Ends judge final ⟨⟨.ask (.close session code reason) next, past⟩, far⟩ :=
  .answer (.close session code reason) () trivial (fun _ => ⟨fun _ => rfl, fun _ => trivial⟩) ends

/-- A message which has arrived is read. -/
theorem Ends.read {γ : Type} {stream : StreamRef} {deadline : Option Nat} {reader : Reader γ}
    {next : Except Error γ → Program α} {past : List Exchange} {far : Party β} {input rest : Bytes}
    {value : γ} (message : reader.run input = (.ok value, rest))
    (arrived : heard stream past ++ input <+: sent stream far.past)
    (ends : ∀ reads, Talk.Run (Talk.read stream deadline reader) reads (.ok value) →
      heard stream reads ++ rest = input →
        Ends judge final ⟨⟨next (.ok value), past ++ reads⟩, far⟩) :
    Ends judge final ⟨⟨(Talk.read stream deadline reader).run.bind next, past⟩, far⟩ := by
  -- What is left of the message goes on where the bytes end which were heard so far.
  induction reader generalizing input past with
  | done _ =>
      cases message
      have ended := ends [] (.start _) rfl
      rw [List.append_nil] at ended
      exact ended
  | fail error => cases message
  | take count following ih =>
      have enough : count ≤ input.length := by
        refine Nat.not_lt.mp fun short => ?_
        rw [Reader.run, if_neg (Nat.not_le.mpr short)] at message
        cases message
      rw [Reader.run, if_pos enough] at message
      have front : heard stream past ++ input.take count <+: sent stream far.past :=
        ((List.prefix_append_right_inj _).mpr (List.take_prefix ..)).trans arrived
      rw [Talk.read, ExceptT.run_mk, Program.bind]
      refine .ask (.receive stream count deadline)
        ⟨.ok (input.take count), List.length_take_of_le enough, front⟩ fun reply admissible carried => ?_
      cases reply with
      | error cause =>
          have short := carried.2
          have long := arrived.length_le
          rw [List.length_append] at long
          omega
      | ok bytes =>
          have length : bytes.length = (input.take count).length :=
            Eq.trans admissible (List.length_take_of_le enough).symm
          cases eq_of_append_prefix length carried front
          have exchange : heard stream (past ++ [⟨.receive stream count deadline,
              .ok (input.take count)⟩]) = heard stream past ++ input.take count := by
            simp [heard, Exchange.heard]
          refine ih _ message ?_ fun reads run whole => ?_
          · rw [exchange, List.append_assoc, List.take_append_drop]
            exact arrived
          · have taking : Talk.Run (Talk.read stream deadline (.take count following))
                (⟨.receive stream count deadline, .ok (input.take count)⟩ :: reads) (.ok value) := by
              rw [Talk.Run, Talk.read, ExceptT.run_mk]
              exact .ask admissible run
            rw [List.append_assoc]
            refine ends _ taking ?_
            rw [List.singleton_append, heard_cons, List.append_assoc, whole]
            simp [Exchange.heard]

/-- A message of which nothing comes before the other side leaves is not read. -/
theorem Ends.unread {γ : Type} {stream : StreamRef} {deadline : Option Nat} {count : Nat}
    {following : Bytes → Reader γ} {next : Except Error γ → Program α} {past : List Exchange}
    {far : Party β} (positive : 0 < count) (left : Asked (leaves stream) far.past)
    (silent : sent stream far.past = [])
    (ends : ∀ cause, Ends judge final
      ⟨⟨next (.error (.io cause)), past ++ [⟨.receive stream count deadline, .error cause⟩]⟩, far⟩) :
    Ends judge final
      ⟨⟨(Talk.read stream deadline (.take count following)).run.bind next, past⟩, far⟩ := by
  have short : (sent stream far.past).length < (heard stream past).length + count := by
    rw [silent, List.length_nil]
    omega
  rw [Talk.read, ExceptT.run_mk, Program.bind]
  refine .ask (.receive stream count deadline) ⟨.error default, positive, left, short⟩
    fun reply admissible carried => ?_
  cases reply with
  | error cause => exact ends cause
  | ok bytes =>
      have long := List.IsPrefix.length_le carried
      have length : bytes.length = count := admissible
      rw [List.length_append] at long
      omega

end Meeting
end TunnelProxy
