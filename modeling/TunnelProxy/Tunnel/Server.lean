import TunnelProxy.Acl.Rules
import TunnelProxy.Session.Program
import TunnelProxy.Tunnel.Record

/-!
# The tunnel server

The first stream of a session carries the greetings.  Only if they end with the client being let in,
further streams are served: each begins with a request for a connection, gets one answer and is then
connected to the destination.
-/

namespace TunnelProxy
namespace Tunnel

/-- A tunnel server. -/
structure Server where
  /-- Bounds of the rates of each session. -/
  ceiling : RateCeiling
  /-- What to do about destinations. -/
  dispatcher : Acl.Dispatcher
  /-- The time limit of relays without traffic, in milliseconds. -/
  idle : Option Nat := none
  /-- The time limit for the first stream to come and for each read of the greeting, in
  milliseconds. -/
  greetingLimit : Nat := 10000

/-- How the greetings ended. -/
inductive Admission where
  /-- The client with this token is let in. -/
  | admitted (token : Bytes)
  /-- The client is not let in. -/
  | rejected (message : String)
  deriving DecidableEq, Inhabited

namespace Server

/-- Answer the greeting of a client. -/
def greet (server : Server) (session : SessionRef) (peer : Net.SocketAddress)
    (control : StreamRef) : Talk Admission :=
  Talk.releasing control do
    Talk.limit control (some server.greetingLimit)
    let hello ← Talk.read control none ClientHello.reader
    match hello.rate.negotiate? server.ceiling with
    | none => throw (.invalidRate hello.rate)
    | some rate =>
        let verdict ← Talk.judge peer hello.token rate
        Talk.write control (ServerHello.layout ⟨verdict.accepted, rate, verdict.message⟩)
        if verdict.accepted then
          Talk.pace session rate.send
          return .admitted hello.token
        else return .rejected verdict.message

/-- Wait for the first stream of a client and answer its greeting. -/
def welcome (server : Server) (session : SessionRef) (peer : Net.SocketAddress) :
    Talk Admission := do
  let control ← Talk.accept session (some server.greetingLimit)
  server.greet session peer control

/-- Close a session and end. -/
def closing (session : SessionRef) (code : CloseCode) (reason : String)
    (result : Except Error Unit) : Talk Unit :=
  ExceptT.mk (.ask (.close session code reason) fun _ => .done result)

/-- Serve a session. -/
def handle (server : Server) (session : SessionRef) (peer : Net.SocketAddress) : Talk Unit := do
  match ← Talk.attempt (server.welcome session peer) with
  | .ok (.admitted token) =>
      ExceptT.mk (.ask (.serve session peer token) fun _ =>
        (closing session .generic "" (.ok ())).run)
  | .ok (.rejected message) => closing session .auth "auth error" (.error (.authRejected message))
  | .error error => closing session .protocol "protocol error" (.error error)

/-- What a client is told about a failed request. -/
def refusal : Error → String
  | .blocked _ => "blocked by ACL"
  | .unknownAction _ => "ACL error"
  | error => error.message

/-- Tell the client as far as possible that its request fails, and fail. -/
def refuse {α : Type} (stream : StreamRef) (message : String) (error : Error) : Talk α := do
  discard <| Talk.attempt (Talk.write stream (StreamResponse.refused message).layout)
  throw error

/-- Connect to a destination; the server has no tunnel of its own, so every way is the direct
one. -/
def dial (decision : Acl.Decision) (target : Net.Address) : Talk StreamRef := do
  let route ← decision.route target
  Talk.dial ⟨.direct, route.address⟩

/-- Serve a request for a connection. -/
def connect (server : Server) (info : RequestInfo) (stream : StreamRef) : Talk Unit :=
  Talk.releasing stream do
    match Net.Address.parse? info.address with
    | none => refuse stream "invalid address" (.invalidAddress info.address)
    | some target =>
        let decision := server.dispatcher.decide target
        Talk.observe (.request info decision)
        match ← Talk.attempt (dial decision target) with
        | .error error => refuse stream (refusal error) error
        | .ok destination =>
            Talk.releasing destination do
              Talk.write stream StreamResponse.granted.layout
              Talk.relay stream destination server.idle

/-- Serve a stream of a client which has been let in.  Requests for datagrams are not served. -/
def handleStream (server : Server) (peer : Net.SocketAddress) (token : Bytes)
    (stream : StreamRef) : Program Unit := do
  match ← (Talk.read stream none StreamRequest.reader).run with
  | .error _ => Program.request (.release stream)
  | .ok request =>
      if request.datagrams then Program.request (.release stream)
      else
        let info : RequestInfo := { peer, token := some token, address := request.address }
        match ← (server.connect info stream).run with
        | .ok () => Program.request (.observe (.finished info none))
        | .error error => Program.request (.observe (.finished info (some error)))

end Server
end Tunnel
end TunnelProxy
