import TunnelProxy.Proofs.Session.Passage
import TunnelProxy.Proofs.Socks.Conversation

/-!
# Openings of sessions

The front-end and the tunnel server relay for their clients behind an opening: a greeting, perhaps
credentials, and a request are answered one after the other.  Both read the opening and nothing else
before they relay, so what a client sends behind it is passed on.
-/

namespace TunnelProxy

section Talks

variable {client : StreamRef}

/-- A destination is reached, or the opening fails. -/
inductive Dials (answers : Bytes) : Stage → Except Error StreamRef → Prop
  /-- A destination is reached. -/
  | reached (destination : StreamRef) :
      Dials answers (.opening (some destination) [] answers) (.ok destination)
  /-- No destination is reached. -/
  | failed (error : Error) : Dials answers .spoiled (.error error)

theorem leads_dial (answers : Bytes) (routing : Except Error Acl.Route)
    (route : Acl.Route → Acl.Route) :
    Leads client (Dials answers) (.opening none [] answers)
      (do let found ← routing; Talk.dial (route found) : Talk StreamRef).run := by
  cases routing with
  | error error => exact .abandoned (.done (.failed error))
  | ok found =>
      exact .dial (fun destination => .done (.reached destination)) fun error =>
        .done (.failed error)

/-- The last answer is written, and bytes are relayed behind it. -/
theorem leads_serve {layout : Except Error Bytes} {answer : Bytes} (granted : layout = .ok answer)
    (destination : StreamRef) (idle : Option Nat) :
    Leads client Stage.IsPast (.opening (some destination) [] answer)
      (Talk.releasing destination do
        Talk.write client layout
        Talk.relay client destination idle).run := by
  subst granted
  have writes : Leads client (Attains (.opening (some destination) [] []) ())
      (.opening (some destination) [] (answer ++ [])) (Talk.write client (.ok answer)).run :=
    leads_write ..
  rw [List.append_nil] at writes
  have serves : Leads client Stage.IsPast (.opening (some destination) [] answer)
      (do
        Talk.write client (.ok answer)
        Talk.relay client destination idle : Talk Unit).run :=
    writes.talk_bind (.relay fun reply => .done trivial) fun error => trivial
  exact serves.releasing destination

end Talks

namespace Socks

variable {access : Access} {client : StreamRef} {offer : MethodOffer}

theorem Access.leads_negotiate {greeting rest answers : Bytes} {last : Stage}
    (deadline : Option Nat) (greets : MethodOffer.reader.run greeting = (.ok offer, []))
    (authorizes : Leads client (Attains last ()) (.opening none rest answers)
      (access.authorize client deadline).run) :
    Leads client (Attains last ())
      (.opening none (greeting ++ rest) ((choices access offer).flatten ++ answers))
      (access.negotiate client deadline).run := by
  refine .talk_bind (leads_read _ deadline (Wire.Reader.run_append greets rest)) ?_ .failed
  have chosen : Leads client (Attains last ())
      (.opening none rest ([5, access.method.byte] ++ answers)) (do
        Talk.write client (.ok (MethodChoice.layout ⟨version, access.method⟩))
        access.authorize client deadline : Talk Unit).run :=
    .talk_bind (leads_write ..) authorizes .failed
  by_cases offered : access.method ∈ offer.methods
  · rw [choices, if_pos offered, if_neg (not_not.mpr offered)]
    exact chosen
  · rw [choices, if_neg offered, if_pos offered]
    exact .talk_bind (leads_write none rest [5, 0xFF] _) chosen .failed

theorem Access.leads_authorize_everybody (rest answers : Bytes) (deadline : Option Nat) :
    Leads client (Attains (.opening none rest answers) ()) (.opening none rest answers)
      (Access.everybody.authorize client deadline).run :=
  .done .succeeded

theorem Access.leads_authorize_user {expected : Credentials} {presenting : Bytes}
    (rest answers : Bytes) (deadline : Option Nat)
    (presents : Credentials.reader.run presenting = (.ok expected, [])) :
    Leads client (Attains (.opening none rest answers) ())
      (.opening none (presenting ++ rest) ([1, 0] ++ answers))
      ((Access.user expected).authorize client deadline).run := by
  refine .talk_bind (leads_read _ deadline (Wire.Reader.run_append presents rest)) ?_ .failed
  rw [if_pos rfl]
  exact leads_write none rest [1, 0] answers

namespace FrontEnd

variable {frontEnd : FrontEnd}

theorem leads_refuse {α : Type} {ends : Stage → Except Error α → Prop}
    (ended : ∀ error, ends .spoiled (.error error)) (error : Error) :
    Leads client ends .spoiled (refuse client error : Talk α).run := by
  rw [refuse, reply, Reply.layout_ofOutcome]
  exact .spoiled (fun _ same => by cases same) fun _ => .done (ended error)

theorem leads_request {asking answers : Bytes} {request : Request}
    (asks : Request.reader.run asking = (.ok request, [])) (connects : request.command = .connect) :
    Leads client (Attains (.opening none [] answers) request.target) (.opening none asking answers)
      (frontEnd.request client).run := by
  refine .attempt_bind (leads_read answers frontEnd.timeout asks) fun stage result attains => ?_
  cases attains with
  | succeeded =>
      dsimp only
      rw [if_pos connects]
      exact .done .succeeded
  | failed error =>
      split
      · exact leads_refuse .failed _
      · exact .done (.failed _)
      · contradiction

theorem leads_connect (target : Net.Address) (decision : Acl.Decision) :
    Leads client Stage.IsPast (.opening none [] (replyBytes .granted))
      (frontEnd.connect client target decision).run := by
  refine .attempt_bind (leads_dial _ (decision.route target) id) fun stage result dials => ?_
  cases dials with
  | reached destination => exact leads_serve (Reply.layout_ofOutcome .granted) destination _
  | failed error => exact leads_refuse (fun _ => trivial) error

theorem leads_handle {preamble asking answers : Bytes} {request : Request} (peer : Net.SocketAddress)
    (negotiates : Leads client (Attains (.opening none asking (replyBytes .granted)) ())
      (.opening none preamble answers) (frontEnd.access.negotiate client frontEnd.timeout).run)
    (asks : Request.reader.run asking = (.ok request, [])) (connects : request.command = .connect) :
    Leads client Stage.IsPast (.opening none preamble answers) (frontEnd.handle peer client).run := by
  refine .releasing ?_ client
  refine .talk_bind negotiates ?_ fun error => trivial
  refine .talk_bind (leads_request asks connects) ?_ fun error => trivial
  refine .quiet rfl fun _ => ?_
  refine .attempt_bind (leads_connect request.target _) fun stage result past => ?_
  cases result with
  | ok _ => exact .quiet rfl fun _ => .done past
  | error error => exact .quiet rfl fun _ => .done past

end FrontEnd
end Socks

namespace Tunnel
namespace Server

variable {server : Server} {client : StreamRef} {answer : Bytes}

theorem leads_refuse {α : Type} {ends : Stage → Except Error α → Prop} (message : String)
    (error : Error) (ended : ends .spoiled (.error error)) :
    Leads client ends .spoiled (refuse client message error : Talk α).run := by
  rw [refuse]
  cases (StreamResponse.refused message).layout with
  | ok bytes => exact .spoiled (fun _ same => by cases same) fun _ => .done ended
  | error error => exact .done ended

theorem leads_connect (info : RequestInfo) (granted : StreamResponse.granted.layout = .ok answer) :
    Leads client Stage.IsPast (.opening none [] answer) (server.connect info client).run := by
  refine .releasing ?_ client
  cases Net.Address.parse? info.address with
  | none => exact .abandoned (leads_refuse _ _ trivial)
  | some target =>
      refine .quiet rfl fun _ => ?_
      refine .attempt_bind (leads_dial answer _ _) fun stage result dials => ?_
      cases dials with
      | reached destination => exact leads_serve granted destination _
      | failed error => exact leads_refuse _ _ trivial

theorem leads_handleStream {asking : Bytes} {request : StreamRequest} (peer : Net.SocketAddress)
    (token : Bytes) (asks : StreamRequest.reader.run asking = (.ok request, []))
    (connection : request.datagrams = false)
    (granted : StreamResponse.granted.layout = .ok answer) :
    Leads client Stage.IsPast (.opening none asking answer)
      (server.handleStream peer token client) := by
  refine (leads_read answer none asks).bind fun stage result attains => ?_
  cases attains with
  | failed error => exact .quiet rfl fun _ => .done trivial
  | succeeded =>
      dsimp only
      rw [if_neg (by simp [connection])]
      refine (leads_connect _ granted).bind fun stage result past => ?_
      cases result with
      | ok _ => exact .quiet rfl fun _ => .done past
      | error error => exact .quiet rfl fun _ => .done past

end Server
end Tunnel

/-! ## Whole sessions -/

open Socks (Access Credentials MethodOffer choices replyBytes)

/-- A session which relays for a client, what the client sends for that and what it is answered. -/
inductive Opening (client : StreamRef) : {α : Type} → Program α → Bytes → Bytes → Prop
  /-- The front-end is asked for a connection by somebody. -/
  | everybody {frontEnd : Socks.FrontEnd} {greeting asking : Bytes} {offer : MethodOffer}
      {request : Socks.Request} (peer : Net.SocketAddress) (free : frontEnd.access = .everybody)
      (greets : MethodOffer.reader.run greeting = (.ok offer, []))
      (asks : Socks.Request.reader.run asking = (.ok request, []))
      (connects : request.command = .connect) :
      Opening client (frontEnd.handle peer client).run (greeting ++ asking)
        ((choices frontEnd.access offer).flatten ++ replyBytes .granted)
  /-- The front-end is asked for a connection by its user. -/
  | user {frontEnd : Socks.FrontEnd} {greeting presenting asking : Bytes} {offer : MethodOffer}
      {credentials : Credentials} {request : Socks.Request} (peer : Net.SocketAddress)
      (required : frontEnd.access = .user credentials)
      (greets : MethodOffer.reader.run greeting = (.ok offer, []))
      (presents : Credentials.reader.run presenting = (.ok credentials, []))
      (asks : Socks.Request.reader.run asking = (.ok request, []))
      (connects : request.command = .connect) :
      Opening client (frontEnd.handle peer client).run (greeting ++ (presenting ++ asking))
        ((choices frontEnd.access offer).flatten ++ ([1, 0] ++ replyBytes .granted))
  /-- The tunnel server is asked for a connection by a stream. -/
  | stream {server : Tunnel.Server} {asking answer : Bytes} {request : Tunnel.StreamRequest}
      (peer : Net.SocketAddress) (token : Bytes)
      (asks : Tunnel.StreamRequest.reader.run asking = (.ok request, []))
      (connection : request.datagrams = false)
      (granted : Tunnel.StreamResponse.granted.layout = .ok answer) :
      Opening client (server.handleStream peer token client) asking answer

theorem Opening.leads {α : Type} {client : StreamRef} {program : Program α}
    {preamble answers : Bytes} (opening : Opening client program preamble answers) :
    Leads client Stage.IsPast (.opening none preamble answers) program := by
  cases opening with
  | @everybody frontEnd _ _ _ _ peer free greets asks connects =>
      refine Socks.FrontEnd.leads_handle peer ?_ asks connects
      refine Access.leads_negotiate _ greets ?_
      rw [free]
      exact Access.leads_authorize_everybody ..
  | user peer required greets presents asks connects =>
      refine Socks.FrontEnd.leads_handle peer ?_ asks connects
      refine Access.leads_negotiate _ greets ?_
      rw [required]
      exact Access.leads_authorize_user _ _ _ presents
  | stream peer token asks connection granted =>
      exact Tunnel.Server.leads_handleStream peer token asks connection granted

/-- Whatever the pieces are in which the streams of a session give and take bytes, the destination gets
nothing but what the client sends behind its opening, and the client gets the answers to its opening and
nothing but what the destination sends behind them.  The destination is another stream than the client,
and the client does not refuse its answers. -/
theorem passage_of_reaches {α : Type} {client destination : StreamRef} {program : Program α}
    {preamble payload answers : Bytes} {log : List Deed} {progress : Progress α}
    (opening : Opening client program preamble answers)
    (reached : Progress.Reaches (.running program) log progress)
    (delivers : Delivers client (preamble ++ payload) log) (heeded : Heeds client log)
    (dialed : destination ∈ destinations log) (fresh : client ∉ destinations log) :
    Passage client destination payload answers log progress :=
  passage_of_leads opening.leads reached delivers heeded dialed fresh

/-- A client sends its payload together with its request, which comes in two pieces.  The destination
takes the payload in two pieces and sends a byte, and the client ends its stream. -/
theorem passage_of_early_payload :
    let frontEnd : Socks.FrontEnd := ⟨.everybody, .frontEnd .none, none⟩
    let client : StreamRef := .connection 0
    let destination : StreamRef := .connection 1
    let route : Acl.Route := ⟨.proxy, .ip (.v4 ⟨1, 2, 3, 4⟩) 80⟩
    let info : RequestInfo := ⟨default, none, route.address.text⟩
    let decision := frontEnd.dispatcher.decide route.address
    let events : List Relay.Event := [
      .read .outbound 0 (.ok [7, 8, 9]), .write .outbound [7, 8, 9] (.ok 2),
      .read .incoming 0 (.ok [4]), .write .outbound [9] (.ok 1), .flush .outbound 0 (.ok ()),
      .write .incoming [4] (.ok 1), .flush .incoming 0 (.ok ()), .read .outbound 0 (.ok []),
      .lastFlush .outbound (.ok ()), .closeNear, .closeFar,
      .read .incoming 0 (.error (.ofKind .brokenPipe))]
    let parts : List (List Deed) := [
      [.read client 1 (.ok [5])], [.read client 1 (.ok [1])], [.read client 1 (.ok [0])],
      [.write client [5, 0] (.ok 2)],
      [.read client 1 (.ok [5])], [.read client 1 (.ok [1])], [.read client 1 (.ok [0])],
      [.read client 1 (.ok [1])], [.read client 4 (.ok [1, 2]), .read client 2 (.ok [3, 4])],
      [.read client 2 (.ok [0, 80])],
      [.asked ⟨.observe (.request info decision), ()⟩], [.asked ⟨.dial route, .ok destination⟩],
      [.write client [5, 0, 0, 1, 0, 0, 0, 0, 0, 0] (.ok 10)],
      .prepared client destination (.ok 0) :: events.map (.relayed client destination),
      [.asked ⟨.release destination, ()⟩], [.asked ⟨.observe (.finished info none), ()⟩],
      [.asked ⟨.release client, ()⟩]]
    let log := parts.flatten
    let progress : Progress (Except Error Unit) := .running (.done (.ok ()))
    Progress.Reaches (.running (frontEnd.handle default client).run) log progress ∧
      Delivers client ([5, 1, 0] ++ [5, 1, 0, 1, 1, 2, 3, 4, 0, 80] ++ [7, 8, 9]) log ∧
      Heeds client log ∧ destination ∈ destinations log ∧ client ∉ destinations log ∧
      Passage client destination [7, 8, 9] ([5, 0] ++ replyBytes .granted) log progress := by
  intro frontEnd client destination route info decision events parts log progress
  let exchanges : List Exchange := [
    ⟨.receive client 1 none, .ok [5]⟩, ⟨.receive client 1 none, .ok [1]⟩,
    ⟨.receive client 1 none, .ok [0]⟩, ⟨.send client [5, 0], .ok ()⟩,
    ⟨.receive client 1 none, .ok [5]⟩, ⟨.receive client 1 none, .ok [1]⟩,
    ⟨.receive client 1 none, .ok [0]⟩, ⟨.receive client 1 none, .ok [1]⟩,
    ⟨.receive client 4 none, .ok [1, 2, 3, 4]⟩, ⟨.receive client 2 none, .ok [0, 80]⟩,
    ⟨.observe (.request info decision), ()⟩, ⟨.dial route, .ok destination⟩,
    ⟨.send client [5, 0, 0, 1, 0, 0, 0, 0, 0, 0], .ok ()⟩,
    ⟨.relay client destination none, .ok ()⟩, ⟨.release destination, ()⟩,
    ⟨.observe (.finished info none), ()⟩, ⟨.release client, ()⟩]
  have run : Talk.Run (frontEnd.handle default client) exchanges (.ok ()) :=
    Program.run_of_replay? (by cbv)
  -- The relay, event by event.
  have began : Relay.Reaches none 0 [] _ := .start
  have read := began.step (.read .outbound 0 (.ok [7, 8, 9]) rfl (by rintro _ ⟨⟩; decide))
  have front := read.step (.write .outbound (.ok 2) rfl (by rintro _ ⟨⟩; decide))
  have heard := front.step (.read .incoming 0 (.ok [4]) rfl (by rintro _ ⟨⟩; decide))
  have back := heard.step (.write .outbound (.ok 1) rfl (by rintro _ ⟨⟩; decide))
  have flushed := back.step (.flush .outbound 0 (.ok ()) rfl)
  have told := flushed.step (.write .incoming (.ok 1) rfl (by rintro _ ⟨⟩; decide))
  have quiet := told.step (.flush .incoming 0 (.ok ()) rfl)
  have met := quiet.step (.read .outbound 0 (.ok []) rfl (by rintro _ ⟨⟩; decide))
  have reported := met.step (.lastFlush .outbound (.ok ()) rfl)
  have closed := (reported.step (.closeNear rfl)).step (.closeFar rfl)
  have ended := closed.step (.read .incoming 0 (.error (.ofKind .brokenPipe)) rfl (by rintro _ ⟨⟩))
  have relayed : Progress.Realizes ⟨.relay client destination none, .ok ()⟩
      (.prepared client destination (.ok 0) :: events.map (.relayed client destination)) :=
    Progress.realizes_relay client destination ended rfl
  have byte (value : UInt8) : Progress.Realizes ⟨.receive client 1 none, .ok [value]⟩
      [.read client 1 (.ok [value])] :=
    Progress.realizes_receive client none [[value]] (by simp)
  have realized : List.Forall₂ Progress.Realizes exchanges parts :=
    .cons (byte 5) <| .cons (byte 1) <| .cons (byte 0) <|
      .cons (Progress.realizes_send client [[5, 0]] (by simp)) <|
      .cons (byte 5) <| .cons (byte 1) <| .cons (byte 0) <| .cons (byte 1) <|
      .cons (Progress.realizes_receive client none [[1, 2], [3, 4]] (by simp)) <|
      .cons (Progress.realizes_receive client none [[0, 80]] (by simp)) <|
      .cons (Progress.realizes_ask rfl _) <| .cons (Progress.realizes_ask rfl _) <|
      .cons (Progress.realizes_send client [[5, 0, 0, 1, 0, 0, 0, 0, 0, 0]] (by simp)) <|
      .cons relayed <| .cons (Progress.realizes_ask rfl _) <|
      .cons (Progress.realizes_ask rfl _) <| .cons (Progress.realizes_ask rfl _) .nil
  have reached := Progress.reaches_of_after run realized
  have delivers : Delivers client ([5, 1, 0] ++ [5, 1, 0, 1, 1, 2, 3, 4, 0, 80] ++ [7, 8, 9]) log := by
    decide
  have heeded : Heeds client log := by decide
  have dialed : destination ∈ destinations log := by decide
  have fresh : client ∉ destinations log := by decide
  refine ⟨reached, delivers, heeded, dialed, fresh, ?_⟩
  exact passage_of_reaches
    (.everybody default rfl (show MethodOffer.reader.run [5, 1, 0] = (.ok ⟨5, [.noAuth]⟩, []) by rfl)
      (show Socks.Request.reader.run [5, 1, 0, 1, 1, 2, 3, 4, 0, 80] =
        (.ok ⟨5, .connect, route.address⟩, []) by rfl) rfl)
    reached delivers heeded dialed fresh

end TunnelProxy
