import TunnelProxy.Proofs.Socks.Dispatch
import TunnelProxy.Proofs.Tunnel.Response

/-!
# Courses of the front-end

Every run of the front-end, provided that the client gets what is written to it, goes through one of
the courses which are listed here: first those of the negotiation, then those of a request, and then
those of connecting to a destination.
-/

namespace TunnelProxy
namespace Socks

open Tunnel.Server (Delivered)

/-! ## Courses of the negotiation -/

section Negotiation

variable (access : Access) (client : StreamRef) (deadline : Option Nat)

/-- Writing messages in full. -/
def telling (messages : List Bytes) : List Exchange :=
  messages.map fun bytes => ⟨.send client bytes, .ok ()⟩

/-- How checking a client can go. -/
inductive Authorization : List Exchange → Except Error Unit → Prop
  /-- Everybody is let in. -/
  | unasked (free : access = .everybody) : Authorization [] (.ok ())
  /-- No credentials are read. -/
  | unread {expected : Credentials} {reads : List Exchange} {error : Error}
      (required : access = .user expected)
      (reading : Talk.Run (Talk.read client deadline Credentials.reader) reads (.error error)) :
      Authorization reads (.error error)
  /-- The credentials are those of the user. -/
  | accepted {expected : Credentials} {reads : List Exchange} (required : access = .user expected)
      (reading : Talk.Run (Talk.read client deadline Credentials.reader) reads (.ok expected)) :
      Authorization (reads ++ telling client [[1, 0]]) (.ok ())
  /-- The credentials are others. -/
  | rejected {expected given : Credentials} {reads : List Exchange}
      (required : access = .user expected)
      (reading : Talk.Run (Talk.read client deadline Credentials.reader) reads (.ok given))
      (different : given ≠ expected) :
      Authorization (reads ++ telling client [[1, 1]]) (.error .unrecognizedUsernamePassword)

/-- What a client is told about the methods which it offers. -/
def choices (offer : MethodOffer) : List Bytes :=
  (if access.method ∈ offer.methods then [] else [[5, 0xFF]]) ++ [[5, access.method.byte]]

/-- How agreeing on a method and checking a client can go. -/
inductive Negotiation : List Exchange → Except Error Unit → Prop
  /-- No greeting is read. -/
  | unread {reads : List Exchange} {error : Error}
      (reading : Talk.Run (Talk.read client deadline MethodOffer.reader) reads (.error error)) :
      Negotiation reads (.error error)
  /-- A method is chosen. -/
  | chosen {reads rest : List Exchange} {offer : MethodOffer} {outcome : Except Error Unit}
      (reading : Talk.Run (Talk.read client deadline MethodOffer.reader) reads (.ok offer))
      (checked : Authorization access client deadline rest outcome) :
      Negotiation (reads ++ telling client (choices access offer) ++ rest) outcome

variable {access client deadline}

theorem run_write_delivered {bytes : Bytes} {exchanges : List Exchange} {outcome : Except Error Unit}
    (run : Talk.Run (Talk.write client (.ok bytes)) exchanges outcome)
    (delivered : Delivered client exchanges) :
    exchanges = telling client [bytes] ∧ outcome = .ok () := by
  obtain ⟨reply, rfl, rfl⟩ := (Talk.run_write_ok_iff ..).mp run
  cases delivered bytes reply List.mem_cons_self
  exact ⟨rfl, rfl⟩

/-- Where a message is written in full, it goes on behind it. -/
theorem run_write_bind_delivered {α : Type} {bytes : Bytes} {next : Unit → Talk α}
    {exchanges : List Exchange} {outcome : Except Error α}
    (run : Talk.Run (Talk.write client (.ok bytes) >>= next) exchanges outcome)
    (delivered : Delivered client exchanges) :
    ∃ rest, exchanges = telling client [bytes] ++ rest ∧ Talk.Run (next ()) rest outcome := by
  rcases (Talk.run_write_bind_iff ..).mp run with ⟨rest, rfl, following⟩ | ⟨cause, rfl, -⟩
  · exact ⟨rest, rfl, following⟩
  · cases delivered bytes (.error cause) List.mem_cons_self

theorem authorization_of_run {exchanges : List Exchange} {outcome : Except Error Unit}
    (run : Talk.Run (access.authorize client deadline) exchanges outcome)
    (delivered : Delivered client exchanges) :
    Authorization access client deadline exchanges outcome := by
  cases required : access with
  | everybody =>
      rw [required] at run
      obtain ⟨rfl, rfl⟩ := (Talk.run_pure_iff ..).mp run
      exact .unasked rfl
  | user expected =>
      rw [required] at run
      rcases (Talk.run_bind_iff ..).mp run with
        ⟨reads, given, rest, rfl, reading, judging⟩ | ⟨error, reading, rfl⟩
      swap
      · exact .unread rfl reading
      replace delivered := delivered.sublist (List.subset_append_right reads rest)
      split at judging
      · rename_i same
        subst same
        obtain ⟨rfl, rfl⟩ := run_write_delivered judging delivered
        exact .accepted rfl reading
      · rename_i different
        obtain ⟨_, rfl, failing⟩ := run_write_bind_delivered judging delivered
        obtain ⟨rfl, rfl⟩ := (Talk.run_throw_iff ..).mp failing
        exact .rejected rfl reading different

theorem negotiation_of_run {exchanges : List Exchange} {outcome : Except Error Unit}
    (run : Talk.Run (access.negotiate client deadline) exchanges outcome)
    (delivered : Delivered client exchanges) :
    Negotiation access client deadline exchanges outcome := by
  rcases (Talk.run_bind_iff ..).mp run with
    ⟨reads, offer, rest, rfl, reading, choosing⟩ | ⟨error, reading, rfl⟩
  swap
  · exact .unread reading
  replace delivered := delivered.sublist (List.subset_append_right reads rest)
  have chosen : ∃ last, rest = telling client (choices access offer) ++ last ∧
      Talk.Run (access.authorize client deadline) last outcome := by
    rw [choices]
    split at choosing
    · rename_i missing
      obtain ⟨more, rfl, repeating⟩ := run_write_bind_delivered choosing delivered
      obtain ⟨last, rfl, authorizing⟩ := run_write_bind_delivered repeating
        (delivered.sublist (List.subset_append_right _ more))
      rw [if_neg missing]
      exact ⟨last, rfl, authorizing⟩
    · rename_i offered
      obtain ⟨last, rfl, authorizing⟩ := run_write_bind_delivered choosing delivered
      rw [if_pos (by simpa using offered)]
      exact ⟨last, rfl, authorizing⟩
  obtain ⟨last, rfl, authorizing⟩ := chosen
  rw [← List.append_assoc]
  exact .chosen reading (authorization_of_run authorizing
    (delivered.sublist (List.subset_append_right _ last)))

end Negotiation

/-! ## Courses of a request -/

/-- A reply in bytes. -/
def replyBytes (outcome : Outcome) : Bytes := [5, outcome.byte, 0, 1, 0, 0, 0, 0, 0, 0]

theorem Reply.layout_ofOutcome (outcome : Outcome) :
    (Reply.ofOutcome outcome).layout = .ok (replyBytes outcome) := by
  have port : Wire.word16 0 = [0, 0] := by decide
  change Except.ok ([5, outcome.byte, 0] ++ (1 :: [0, 0, 0, 0] ++ Wire.word16 0)) = _
  rw [port]
  rfl

theorem FrontEnd.run_reply {client : StreamRef} {outcome : Outcome} {exchanges : List Exchange}
    {result : Except Error Unit} (run : Talk.Run (reply client outcome) exchanges result)
    (delivered : Delivered client exchanges) :
    exchanges = telling client [replyBytes outcome] ∧ result = .ok () := by
  rw [reply, Reply.layout_ofOutcome] at run
  exact run_write_delivered run delivered

namespace FrontEnd

variable (frontEnd : FrontEnd) (client : StreamRef)

/-- How reading what a client asks for can go. -/
inductive Asking : List Exchange → Except Error Net.Address → Prop
  /-- No request is read. -/
  | unread {reads : List Exchange} {error : Error}
      (reading : Talk.Run (Talk.read client frontEnd.timeout Request.reader) reads (.error error))
      (malformed : ∀ code, error ≠ .unknownCommand code) : Asking reads (.error error)
  /-- A request with an unknown command is read. -/
  | unknown {reads : List Exchange} {code : UInt8}
      (reading : Talk.Run (Talk.read client frontEnd.timeout Request.reader) reads
        (.error (.unknownCommand code))) :
      Asking (reads ++ telling client [replyBytes (.refused .commandNotSupported)])
        (.error (.unknownCommand code))
  /-- Something else than a connection is asked for. -/
  | unsupported {reads : List Exchange} {request : Request}
      (reading : Talk.Run (Talk.read client frontEnd.timeout Request.reader) reads (.ok request))
      (other : request.command ≠ .connect) :
      Asking (reads ++ telling client [replyBytes (.refused .commandNotSupported)])
        (.error (.commandNotSupported request.command))
  /-- A connection is asked for. -/
  | connection {reads : List Exchange} {request : Request}
      (reading : Talk.Run (Talk.read client frontEnd.timeout Request.reader) reads (.ok request))
      (connect : request.command = .connect) : Asking reads (.ok request.target)

/-- How acting on a decision about a destination can go. -/
inductive Connecting (target : Net.Address) (decision : Acl.Decision) :
    List Exchange → Except Error Unit → Prop
  /-- The decision does not lead to a destination. -/
  | ruledOut {error : Error} (routed : decision.route target = .error error) :
      Connecting target decision (telling client [replyBytes (.refused error.refusal)])
        (.error error)
  /-- The destination is not reached. -/
  | unreached {route : Acl.Route} (error : Error) (routed : decision.route target = .ok route) :
      Connecting target decision
        (⟨.dial route, .error error⟩ :: telling client [replyBytes (.refused error.refusal)])
        (.error error)
  /-- The destination is reached. -/
  | reached {route : Acl.Route} (destination : StreamRef) (outcome : Except Error Unit)
      (routed : decision.route target = .ok route) :
      Connecting target decision
        (⟨.dial route, .ok destination⟩ :: telling client [replyBytes .granted] ++
          [⟨.relay client destination frontEnd.timeout, outcome⟩, ⟨.release destination, ()⟩])
        outcome

/-- How serving a client can go. -/
inductive Course (peer : Net.SocketAddress) : List Exchange → Except Error Unit → Prop
  /-- The client does not get access. -/
  | denied {front : List Exchange} {error : Error}
      (negotiated : Negotiation frontEnd.access client frontEnd.timeout front (.error error)) :
      Course peer (front ++ [⟨.release client, ()⟩]) (.error error)
  /-- The client does not ask for a connection. -/
  | unasked {front asking : List Exchange} {error : Error}
      (negotiated : Negotiation frontEnd.access client frontEnd.timeout front (.ok ()))
      (asked : frontEnd.Asking client asking (.error error)) :
      Course peer (front ++ asking ++ [⟨.release client, ()⟩]) (.error error)
  /-- The client asks for a connection. -/
  | served {front asking connecting : List Exchange} {target : Net.Address}
      {outcome : Except Error Unit}
      (negotiated : Negotiation frontEnd.access client frontEnd.timeout front (.ok ()))
      (asked : frontEnd.Asking client asking (.ok target))
      (connected : frontEnd.Connecting client target (frontEnd.dispatcher.decide target) connecting
        outcome) :
      Course peer
        (front ++ (asking ++ frontEnd.service peer target connecting outcome) ++
          [⟨.release client, ()⟩])
        outcome

variable {frontEnd client}

theorem run_refuse {α : Type} {error : Error} {exchanges : List Exchange} {outcome : Except Error α}
    (run : Talk.Run (refuse client error) exchanges outcome)
    (delivered : Delivered client exchanges) :
    exchanges = telling client [replyBytes (.refused error.refusal)] ∧ outcome = .error error := by
  rcases (Talk.run_bind_iff ..).mp run with ⟨tried, _, _, rfl, trying, failing⟩ | ⟨_, trying, -⟩
  · obtain ⟨rfl, rfl⟩ := (Talk.run_throw_iff ..).mp failing
    rw [List.append_nil] at delivered ⊢
    obtain ⟨_, attempted, -⟩ := (Talk.run_map_iff ..).mp trying
    obtain ⟨_, wrote, -⟩ := (Talk.run_attempt_iff ..).mp attempted
    exact ⟨(run_reply wrote delivered).1, rfl⟩
  · obtain ⟨_, attempted, failed⟩ := (Talk.run_map_iff ..).mp trying
    obtain ⟨_, -, rfl⟩ := (Talk.run_attempt_iff ..).mp attempted
    cases failed

theorem asking_of_run {exchanges : List Exchange} {outcome : Except Error Net.Address}
    (run : Talk.Run (frontEnd.request client) exchanges outcome)
    (delivered : Delivered client exchanges) : frontEnd.Asking client exchanges outcome := by
  obtain ⟨reads, result, rest, rfl, reading, ending⟩ := (Talk.run_attempt_bind_iff ..).mp run
  replace delivered := delivered.sublist (List.subset_append_right reads rest)
  split at ending
  · obtain ⟨rfl, rfl⟩ := run_refuse ending delivered
    exact .unknown reading
  · rename_i error malformed
    obtain ⟨rfl, rfl⟩ := (Talk.run_throw_iff ..).mp ending
    rw [List.append_nil]
    exact .unread reading malformed
  · rename_i request
    split at ending
    · rename_i connect
      obtain ⟨rfl, rfl⟩ := (Talk.run_pure_iff ..).mp ending
      rw [List.append_nil]
      exact .connection reading connect
    · rename_i other
      obtain ⟨rfl, rfl⟩ := run_refuse ending delivered
      exact .unsupported reading other

theorem connecting_of_run {target : Net.Address} {decision : Acl.Decision}
    {exchanges : List Exchange} {outcome : Except Error Unit}
    (run : Talk.Run (frontEnd.connect client target decision) exchanges outcome)
    (delivered : Delivered client exchanges) :
    frontEnd.Connecting client target decision exchanges outcome := by
  obtain ⟨dialing, result, rest, rfl, dialed, ending⟩ := (Talk.run_attempt_bind_iff ..).mp run
  replace delivered := delivered.sublist (List.subset_append_right dialing rest)
  cases routed : decision.route target with
  | error error =>
      rw [routed] at dialed
      obtain ⟨rfl, rfl⟩ := (Program.run_done_iff ..).mp dialed
      obtain ⟨rfl, rfl⟩ := run_refuse ending delivered
      exact .ruledOut routed
  | ok route =>
      rw [routed] at dialed
      obtain ⟨rfl, -⟩ := (Program.run_request_iff (.dial ..) ..).mp dialed
      cases result with
      | error error =>
          obtain ⟨rfl, rfl⟩ := run_refuse ending delivered
          exact .unreached error routed
      | ok destination =>
          obtain ⟨front, rfl, body⟩ := (Talk.run_releasing_iff ..).mp ending
          rw [reply, Reply.layout_ofOutcome] at body
          obtain ⟨last, rfl, relaying⟩ := run_write_bind_delivered body
            (delivered.sublist (List.subset_append_left front _))
          obtain ⟨rfl, -⟩ := (Program.run_request_iff (.relay ..) ..).mp relaying
          exact .reached destination outcome routed

theorem course_of_run {peer : Net.SocketAddress} {exchanges : List Exchange}
    {outcome : Except Error Unit} (run : Talk.Run (frontEnd.handle peer client) exchanges outcome)
    (delivered : Delivered client exchanges) : frontEnd.Course client peer exchanges outcome := by
  cases handling_of_run run with
  | denied negotiated =>
      exact .denied (negotiation_of_run negotiated (delivered.sublist (by simp)))
  | unasked negotiated requested =>
      exact .unasked (negotiation_of_run negotiated (delivered.sublist (by simp)))
        (asking_of_run requested (delivered.sublist (by simp)))
  | dispatching negotiated requested connected =>
      exact .served (negotiation_of_run negotiated (delivered.sublist (by simp)))
        (asking_of_run requested (delivered.sublist (by simp)))
        (connecting_of_run connected
          (delivered.sublist fun exchange member => by simp [service, member]))

end FrontEnd
end Socks
end TunnelProxy
