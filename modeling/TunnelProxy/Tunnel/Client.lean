import TunnelProxy.Session.Program
import TunnelProxy.Tunnel.Record

/-!
# The tunnel client

A tunnel client keeps one session to the tunnel server and opens a stream of it for each connection.
A session which has been closed, or on which no stream can be opened, is replaced by a new one.
-/

namespace TunnelProxy
namespace Tunnel

/-- The time limit of greetings, in milliseconds. -/
def greetingLimit : Nat := 10000

/-- A tunnel client. -/
structure Client where
  /-- The rates to ask for. -/
  rate : Rate
  /-- The token to present. -/
  token : Bytes
  deriving DecidableEq, Inhabited

namespace Client

/-- Exchange greetings on the first stream of a session. -/
def greet (client : Client) (session : SessionRef) : Talk Unit := do
  let control ← Talk.openStream session
  Talk.releasing control do
    Talk.limit control (some greetingLimit)
    Talk.write control (ClientHello.layout ⟨client.rate, client.token⟩)
    let hello ← Talk.read control none ServerHello.reader
    if hello.accepted then Talk.pace session hello.rate.recv
    else throw (.authRejected hello.message)

/-- The code with which a session is closed after a failure of the greetings. -/
def failureCode : Error → CloseCode
  | .authRejected _ => .generic
  | _ => .protocol

/-- Make a session which the server has accepted. -/
def establish (client : Client) : Talk SessionRef := do
  let session ← Talk.connect
  match ← Talk.attempt (client.greet session) with
  | .ok () => return session
  | .error error =>
      ExceptT.mk (.ask (.close session (failureCode error) "") fun _ => .done (.error error))

/-- Open a stream on a session which has not been closed. -/
def reuse? (session : SessionRef) : Program (Option StreamRef) := do
  if ← Program.request (.isClosed session) then return none
  else
    match ← Program.request (.openStream session) with
    | .ok stream => return some stream
    | .error _ => return none

/-- Open a stream on a new session. -/
def renew (client : Client) : Talk (StreamRef × SessionRef) := do
  let session ← client.establish
  let stream ← Talk.openStream session
  return (stream, session)

/-- Open a stream, on the session which is kept if that is possible and otherwise on a new one,
which is kept from now on.  The second component is the session which is kept. -/
def openStream (client : Client) (kept : Option SessionRef) :
    Program (Except Error StreamRef × Option SessionRef) := do
  let reused ←
    match kept with
    | some session => reuse? session
    | none => pure none
  match reused with
  | some stream => return (.ok stream, kept)
  | none =>
      match ← client.renew.run with
      | .ok (stream, session) => return (.ok stream, some session)
      | .error error => return (.error error, kept)

/-- Ask on a new stream for a connection to a destination. -/
def requestStream (target : Net.Address) (stream : StreamRef) : Talk StreamRef := do
  let answer ← Talk.attempt do
    Talk.write stream (StreamRequest.connection target).layout
    let response ← Talk.read stream none StreamResponse.reader
    if response.accepted then return () else throw (.streamRejected response.message)
  match answer with
  | .ok () => return stream
  | .error error => Talk.releasing stream (throw error)

/-- Connect to a destination through the tunnel.  The second component is the session which is
kept afterwards. -/
def dial (client : Client) (kept : Option SessionRef) (target : Net.Address) :
    Program (Except Error StreamRef × Option SessionRef) := do
  let (opened, kept) ← client.openStream kept
  match opened with
  | .error error => return (.error error, kept)
  | .ok stream => return (← (requestStream target stream).run, kept)

/-- Give a client up: the session which is kept is closed. -/
def finish (kept : Option SessionRef) : Program Unit :=
  match kept with
  | some session => Program.request (.close session .generic "")
  | none => .done ()

end Client
end Tunnel
end TunnelProxy
