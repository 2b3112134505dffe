import TunnelProxy.Acl.Rules
import TunnelProxy.Session.Program
import TunnelProxy.Socks.Access

/-!
# The SOCKS front-end

A client negotiates its access, asks for a connection, gets one reply and is then connected to the
destination.  The configured method is chosen whatever the client offers; a client which does not
offer it is told so first and may go on regardless.
-/

namespace TunnelProxy
namespace Socks

/-- A front-end. -/
structure FrontEnd where
  /-- Who may use it. -/
  access : Access
  /-- What to do about destinations. -/
  dispatcher : Acl.Dispatcher
  /-- The time limit of negotiations and of relays without traffic, in milliseconds. -/
  timeout : Option Nat

namespace Access

/-- Check a client after the method has been chosen. -/
def authorize (access : Access) (client : StreamRef) (deadline : Option Nat) : Talk Unit := do
  match access with
  | everybody => return ()
  | user expected =>
      let given ← Talk.read client deadline Credentials.reader
      if given = expected then
        Talk.write client (.ok (Credentials.verdict true))
      else
        Talk.write client (.ok (Credentials.verdict false))
        throw .unrecognizedUsernamePassword

/-- Agree on a method with a client and check the client. -/
def negotiate (access : Access) (client : StreamRef) (deadline : Option Nat) : Talk Unit := do
  let offer ← Talk.read client deadline MethodOffer.reader
  if access.method ∉ offer.methods then
    Talk.write client (.ok (MethodChoice.layout ⟨version, .noMethods⟩))
  Talk.write client (.ok (MethodChoice.layout ⟨version, access.method⟩))
  access.authorize client deadline

end Access

namespace FrontEnd

/-- Send a reply. -/
def reply (client : StreamRef) (outcome : Outcome) : Talk Unit :=
  Talk.write client (Reply.ofOutcome outcome).layout

/-- Tell the client as far as possible that its request fails, and fail. -/
def refuse {α : Type} (client : StreamRef) (error : Error) : Talk α := do
  discard <| Talk.attempt (reply client (.refused error.refusal))
  throw error

/-- Read what a client asks for, which has to be a connection. -/
def request (frontEnd : FrontEnd) (client : StreamRef) : Talk Net.Address := do
  match ← Talk.attempt (Talk.read client frontEnd.timeout Request.reader) with
  | .error (.unknownCommand code) => refuse client (.unknownCommand code)
  | .error error => throw error
  | .ok request =>
      if request.command = .connect then return request.target
      else refuse client (.commandNotSupported request.command)

/-- Act on the decision about a destination. -/
def connect (frontEnd : FrontEnd) (client : StreamRef) (target : Net.Address)
    (decision : Acl.Decision) : Talk Unit := do
  let dialed : Talk StreamRef := do
    let route ← decision.route target
    Talk.dial route
  match ← Talk.attempt dialed with
  | .error error => refuse client error
  | .ok destination =>
      Talk.releasing destination do
        reply client .granted
        Talk.relay client destination frontEnd.timeout

/-- Serve a client. -/
def handle (frontEnd : FrontEnd) (peer : Net.SocketAddress) (client : StreamRef) : Talk Unit :=
  Talk.releasing client do
    frontEnd.access.negotiate client frontEnd.timeout
    let target ← frontEnd.request client
    let info : RequestInfo := { peer, token := none, address := target.text }
    let decision := frontEnd.dispatcher.decide target
    Talk.observe (.request info decision)
    let result ← Talk.attempt (frontEnd.connect client target decision)
    match result with
    | .ok () => Talk.observe (.finished info none)
    | .error error =>
        Talk.observe (.finished info (some error))
        throw error

end FrontEnd
end Socks
end TunnelProxy
