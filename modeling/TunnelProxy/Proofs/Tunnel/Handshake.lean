import TunnelProxy.Proofs.Session.Run
import TunnelProxy.Proofs.Wire.Layout
import TunnelProxy.Tunnel.Server

/-!
# The greetings of a tunnel session

Every run of a session of the tunnel server goes through one of the courses which are listed here.
From the list follows what has to have happened before the client is judged, before it gets an
answer, before its streams are served and before the session is closed.
-/

namespace TunnelProxy
namespace Tunnel
namespace Server

variable (server : Server) (session : SessionRef) (peer : Net.SocketAddress)

/-- How the greetings on a control stream can go until the stream is given up. -/
inductive Greeting (control : StreamRef) : List Exchange → Except Error Admission → Prop
  /-- The time of reads can not be limited. -/
  | unlimited (error : Error) :
      Greeting control [⟨.limit control (some server.greetingLimit), .error error⟩] (.error error)
  /-- No greeting is read. -/
  | unread {reads : List Exchange} {error : Error}
      (reading : Talk.Run (Talk.read control none ClientHello.reader) reads (.error error)) :
      Greeting control (⟨.limit control (some server.greetingLimit), .ok ()⟩ :: reads) (.error error)
  /-- The client asks for no traffic in a direction. -/
  | standstill {reads : List Exchange} {hello : ClientHello}
      (reading : Talk.Run (Talk.read control none ClientHello.reader) reads (.ok hello))
      (refused : hello.rate.negotiate? server.ceiling = none) :
      Greeting control (⟨.limit control (some server.greetingLimit), .ok ()⟩ :: reads)
        (.error (.invalidRate hello.rate))
  /-- The judgement has no layout. -/
  | unanswerable {reads : List Exchange} {hello : ClientHello} {rate : Rate} {error : Error}
      (verdict : Verdict)
      (reading : Talk.Run (Talk.read control none ClientHello.reader) reads (.ok hello))
      (agreed : hello.rate.negotiate? server.ceiling = some rate)
      (layout : ServerHello.layout ⟨verdict.accepted, rate, verdict.message⟩ = .error error) :
      Greeting control (⟨.limit control (some server.greetingLimit), .ok ()⟩ :: reads ++
        [⟨.judge peer hello.token rate, verdict⟩]) (.error error)
  /-- The judgement can not be written. -/
  | unwritten {reads : List Exchange} {hello : ClientHello} {rate : Rate} {bytes : Bytes}
      (verdict : Verdict) (cause : IoError)
      (reading : Talk.Run (Talk.read control none ClientHello.reader) reads (.ok hello))
      (agreed : hello.rate.negotiate? server.ceiling = some rate)
      (layout : ServerHello.layout ⟨verdict.accepted, rate, verdict.message⟩ = .ok bytes) :
      Greeting control (⟨.limit control (some server.greetingLimit), .ok ()⟩ :: reads ++
        [⟨.judge peer hello.token rate, verdict⟩, ⟨.send control bytes, .error cause⟩])
        (.error (.io cause))
  /-- The client is not let in. -/
  | rejected {reads : List Exchange} {hello : ClientHello} {rate : Rate} {bytes : Bytes}
      (verdict : Verdict)
      (reading : Talk.Run (Talk.read control none ClientHello.reader) reads (.ok hello))
      (agreed : hello.rate.negotiate? server.ceiling = some rate)
      (layout : ServerHello.layout ⟨verdict.accepted, rate, verdict.message⟩ = .ok bytes)
      (refused : verdict.accepted = false) :
      Greeting control (⟨.limit control (some server.greetingLimit), .ok ()⟩ :: reads ++
        [⟨.judge peer hello.token rate, verdict⟩, ⟨.send control bytes, .ok ()⟩])
        (.ok (.rejected verdict.message))
  /-- The client is let in, and the session can be paced or not. -/
  | accepted {reads : List Exchange} {hello : ClientHello} {rate : Rate} {bytes : Bytes}
      (verdict : Verdict) (paced : Except Error Unit)
      (reading : Talk.Run (Talk.read control none ClientHello.reader) reads (.ok hello))
      (agreed : hello.rate.negotiate? server.ceiling = some rate)
      (layout : ServerHello.layout ⟨verdict.accepted, rate, verdict.message⟩ = .ok bytes)
      (granted : verdict.accepted = true) :
      Greeting control (⟨.limit control (some server.greetingLimit), .ok ()⟩ :: reads ++
        [⟨.judge peer hello.token rate, verdict⟩, ⟨.send control bytes, .ok ()⟩,
          ⟨.pace session rate.send, paced⟩])
        (paced.map fun () => .admitted hello.token)

theorem admission_of_run {verdict : Verdict} {token : Bytes} {rate : Rate}
    {exchanges : List Exchange} {outcome : Except Error Admission}
    (run : Talk.Run (if verdict.accepted then do
        Talk.pace session rate.send
        return Admission.admitted token
      else return Admission.rejected verdict.message) exchanges outcome) :
    (verdict.accepted = false ∧ exchanges = [] ∧ outcome = .ok (.rejected verdict.message)) ∨
      (verdict.accepted = true ∧ ∃ paced : Except Error Unit,
        exchanges = [⟨.pace session rate.send, paced⟩] ∧
          outcome = paced.map fun () => .admitted token) := by
  cases granted : verdict.accepted with
  | false =>
      rw [granted] at run
      obtain ⟨rfl, rfl⟩ := (Talk.run_pure_iff ..).mp run
      exact .inl ⟨rfl, rfl, rfl⟩
  | true =>
      rw [granted] at run
      rcases (Talk.run_bind_iff ..).mp run with ⟨_, _, _, rfl, paced, ended⟩ | ⟨error, paced, rfl⟩
      · obtain ⟨rfl, -⟩ := (Program.run_request_iff (.pace ..) ..).mp paced
        obtain ⟨rfl, rfl⟩ := (Talk.run_pure_iff ..).mp ended
        exact .inr ⟨rfl, .ok (), rfl, rfl⟩
      · obtain ⟨rfl, -⟩ := (Program.run_request_iff (.pace ..) ..).mp paced
        exact .inr ⟨rfl, .error error, rfl, rfl⟩

/-- Once a whole greeting which asks for traffic has been read, the client is judged. -/
theorem greeting_of_judgement {control : StreamRef} {reads exchanges : List Exchange}
    {hello : ClientHello} {rate : Rate} {outcome : Except Error Admission}
    (reading : Talk.Run (Talk.read control none ClientHello.reader) reads (.ok hello))
    (agreed : hello.rate.negotiate? server.ceiling = some rate)
    (run : Talk.Run (do
      let verdict ← Talk.judge peer hello.token rate
      Talk.write control (ServerHello.layout ⟨verdict.accepted, rate, verdict.message⟩)
      if verdict.accepted then
        Talk.pace session rate.send
        return Admission.admitted hello.token
      else return Admission.rejected verdict.message) exchanges outcome) :
    server.Greeting session peer control
      (⟨.limit control (some server.greetingLimit), .ok ()⟩ :: reads ++ exchanges) outcome := by
  obtain ⟨verdict, _, rfl, writing⟩ := (Talk.run_judge_bind_iff ..).mp run
  cases layout : ServerHello.layout ⟨verdict.accepted, rate, verdict.message⟩ with
  | error error =>
      rw [layout] at writing
      rcases (Talk.run_bind_iff ..).mp writing with ⟨_, _, _, -, written, -⟩ | ⟨_, written, rfl⟩
      · cases ((Talk.run_write_error_iff ..).mp written).2
      · obtain ⟨rfl, same⟩ := (Talk.run_write_error_iff ..).mp written
        cases same
        exact .unanswerable verdict reading agreed layout
  | ok bytes =>
      rw [layout] at writing
      rcases (Talk.run_bind_iff ..).mp writing with
        ⟨_, _, _, rfl, written, deciding⟩ | ⟨_, written, rfl⟩
      · obtain ⟨reply, rfl, succeeded⟩ := (Talk.run_write_ok_iff ..).mp written
        cases reply with
        | error cause => cases succeeded
        | ok _ =>
            rcases admission_of_run session deciding with
              ⟨refused, rfl, rfl⟩ | ⟨granted, paced, rfl, rfl⟩
            · exact .rejected verdict reading agreed layout refused
            · exact .accepted verdict paced reading agreed layout granted
      · obtain ⟨reply, rfl, failed⟩ := (Talk.run_write_ok_iff ..).mp written
        cases reply with
        | ok _ => cases failed
        | error cause =>
            cases failed
            exact .unwritten verdict cause reading agreed layout

theorem greeting_of_run {control : StreamRef} {exchanges : List Exchange}
    {outcome : Except Error Admission}
    (greeted : Talk.Run (server.greet session peer control) exchanges outcome) :
    ∃ front, exchanges = front ++ [⟨.release control, ()⟩] ∧
      server.Greeting session peer control front outcome := by
  obtain ⟨front, rfl, body⟩ := (Talk.run_releasing_iff ..).mp greeted
  refine ⟨front, rfl, ?_⟩
  rcases (Talk.run_bind_iff ..).mp body with
    ⟨_, _, _, rfl, limited, listening⟩ | ⟨error, limited, rfl⟩
  swap
  · obtain ⟨rfl, -⟩ := (Program.run_request_iff (.limit ..) ..).mp limited
    exact .unlimited error
  obtain ⟨rfl, -⟩ := (Program.run_request_iff (.limit ..) ..).mp limited
  rcases (Talk.run_bind_iff ..).mp listening with
    ⟨reads, hello, _, rfl, reading, answering⟩ | ⟨error, reading, rfl⟩
  swap
  · exact .unread reading
  cases agreed : hello.rate.negotiate? server.ceiling with
  | none =>
      rw [agreed] at answering
      obtain ⟨rfl, rfl⟩ := (Talk.run_throw_iff ..).mp answering
      rw [List.append_nil]
      exact .standstill reading agreed
  | some rate =>
      rw [agreed] at answering
      have greeting := server.greeting_of_judgement session peer reading agreed answering
      exact greeting

/-- How a session can go until it is known whether the client is let in. -/
inductive Welcome : List Exchange → Except Error Admission → Prop
  /-- No stream comes. -/
  | missing (error : Error) :
      Welcome [⟨.accept session (some server.greetingLimit), .error error⟩] (.error error)
  /-- Greetings are exchanged on the first stream. -/
  | greeted {control : StreamRef} {front : List Exchange} {outcome : Except Error Admission}
      (greeting : server.Greeting session peer control front outcome) :
      Welcome (⟨.accept session (some server.greetingLimit), .ok control⟩ :: front ++
        [⟨.release control, ()⟩]) outcome

theorem welcome_of_run {exchanges : List Exchange} {outcome : Except Error Admission}
    (run : Talk.Run (server.welcome session peer) exchanges outcome) :
    server.Welcome session peer exchanges outcome := by
  rcases (Talk.run_bind_iff ..).mp run with ⟨_, control, _, rfl, accepted, greeted⟩ | ⟨error, accepted, rfl⟩
  · obtain ⟨rfl, -⟩ := (Program.run_request_iff (.accept ..) ..).mp accepted
    obtain ⟨front, rfl, greeting⟩ := server.greeting_of_run session peer greeted
    exact .greeted greeting
  · obtain ⟨rfl, -⟩ := (Program.run_request_iff (.accept ..) ..).mp accepted
    exact .missing error

/-- What a session does once it is known whether the client is let in. -/
def ending : Except Error Admission → List Exchange
  | .ok (.admitted token) =>
      [⟨.serve session peer token, ()⟩, ⟨.close session .generic "", ()⟩]
  | .ok (.rejected _) => [⟨.close session .auth "auth error", ()⟩]
  | .error _ => [⟨.close session .protocol "protocol error", ()⟩]

/-- A session is a welcome and the ending which belongs to it. -/
theorem welcome_of_run_handle {exchanges : List Exchange} {result : Except Error Unit}
    (run : Talk.Run (server.handle session peer) exchanges result) :
    ∃ front outcome, exchanges = front ++ ending session peer outcome ∧
      server.Welcome session peer front outcome := by
  obtain ⟨front, outcome, back, rfl, welcomed, last⟩ := (Talk.run_attempt_bind_iff ..).mp run
  refine ⟨front, outcome, ?_, server.welcome_of_run session peer welcomed⟩
  rcases outcome with error | token | message
  · obtain ⟨_, rfl, -, -⟩ := (Talk.run_request_iff ..).mp last
    rfl
  · obtain ⟨_, _, rfl, -, closing⟩ := (Program.run_ask_iff ..).mp last
    obtain ⟨_, rfl, -, -⟩ := (Talk.run_request_iff ..).mp closing
    rfl
  · obtain ⟨_, rfl, -, -⟩ := (Talk.run_request_iff ..).mp last
    rfl

end Server
end Tunnel
end TunnelProxy
