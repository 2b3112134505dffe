import TunnelProxy.Observation
import TunnelProxy.Session.CloseCode
import TunnelProxy.Tunnel.Judge
import TunnelProxy.Wire.Reader

/-!
# Programs of sessions

A session is a program which asks its surroundings for one thing after another and goes on with the
replies.  It says nothing about how long a request takes or which replies are possible, so whatever
holds of a program for all replies holds for every network, every peer and every timing.
-/

namespace TunnelProxy

/-- A stream of bytes in both directions. -/
inductive StreamRef where
  /-- A connection of its own. -/
  | connection (number : Nat)
  /-- A stream of a session which many streams share. -/
  | shared (session : Nat) (id : UInt32)
  deriving DecidableEq, Inhabited

/-- A session between a tunnel client and a tunnel server. -/
structure SessionRef where
  /-- Number of the session. -/
  number : Nat
  deriving DecidableEq, Inhabited

/-- What a program may ask for.  Times are in milliseconds. -/
inductive Request where
  /-- Limit the time of every later read of a stream. -/
  | limit (stream : StreamRef) (time : Option Nat)
  /-- Read exactly so many bytes.  A deadline bounds the time of all reads with that deadline
  together. -/
  | receive (stream : StreamRef) (count : Nat) (deadline : Option Nat)
  /-- Write all bytes. -/
  | send (stream : StreamRef) (bytes : Bytes)
  /-- Give a stream up. -/
  | release (stream : StreamRef)
  /-- Connect to a destination. -/
  | dial (route : Acl.Route)
  /-- Copy bytes between two streams in both directions until one direction ends. -/
  | relay (near far : StreamRef) (idle : Option Nat)
  /-- Tell the observer. -/
  | observe (observation : Observation)
  /-- Judge a tunnel client. -/
  | judge (peer : Net.SocketAddress) (token : Bytes) (rate : Rate)
  /-- Connect to the tunnel server. -/
  | connect
  /-- Take the next stream which the other side opened. -/
  | accept (session : SessionRef) (time : Option Nat)
  /-- Open a stream to the other side. -/
  | openStream (session : SessionRef)
  /-- Pace what a session sends at a rate. -/
  | pace (session : SessionRef) (bps : UInt64)
  /-- Close a session and tell the other side why. -/
  | close (session : SessionRef) (code : CloseCode) (reason : String)
  /-- Ask whether a session has been closed. -/
  | isClosed (session : SessionRef)
  /-- Serve the streams which the other side opens, until none can come any more. -/
  | serve (session : SessionRef) (peer : Net.SocketAddress) (token : Bytes)
  deriving DecidableEq, Inhabited

/-- What a request is answered with. -/
abbrev Request.Reply : Request → Type
  | .limit .. => Except Error Unit
  | .receive .. => Except IoError Bytes
  | .send .. => Except IoError Unit
  | .release .. => Unit
  | .dial .. => Except Error StreamRef
  | .relay .. => Except Error Unit
  | .observe .. => Unit
  | .judge .. => Tunnel.Verdict
  | .connect => Except Error SessionRef
  | .accept .. => Except Error StreamRef
  | .openStream .. => Except Error StreamRef
  | .pace .. => Except Error Unit
  | .close .. => Unit
  | .isClosed .. => Bool
  | .serve .. => Unit

/-- A program which ends with a value. -/
inductive Program (α : Type) where
  /-- The end. -/
  | done (value : α)
  /-- Ask for something and go on with the reply. -/
  | ask (request : Request) (next : request.Reply → Program α)

namespace Program

/-- One program after another. -/
def bind {α β : Type} : Program α → (α → Program β) → Program β
  | done value, f => f value
  | ask request next, f => ask request fun reply => (next reply).bind f

instance : Monad Program where
  pure := done
  bind := bind

/-- Ask for one thing. -/
def request (request : Request) : Program request.Reply := ask request done

end Program

/-- A program which may fail. -/
abbrev Talk := ExceptT Error Program

namespace Talk

open Wire (Reader)

variable {α : Type}

/-- Read a message from a stream. -/
def read (stream : StreamRef) (deadline : Option Nat) : Reader α → Talk α
  | .done value => ExceptT.mk (.done (.ok value))
  | .fail error => ExceptT.mk (.done (.error error))
  | .take count next =>
      ExceptT.mk (.ask (.receive stream count deadline) fun reply =>
        match reply with
        | .ok bytes => (read stream deadline (next bytes)).run
        | .error cause => .done (.error (.io cause)))

/-- Write a message with a layout; nothing is written if there is none. -/
def write (stream : StreamRef) (layout : Except Error Bytes) : Talk Unit :=
  match layout with
  | .ok bytes =>
      ExceptT.mk (.ask (.send stream bytes) fun reply => .done (reply.mapError Error.io))
  | .error error => ExceptT.mk (.done (.error error))

/-- Limit the time of reads. -/
def limit (stream : StreamRef) (time : Option Nat) : Talk Unit :=
  ExceptT.mk (.request (.limit stream time))

/-- Connect to a destination. -/
def dial (route : Acl.Route) : Talk StreamRef :=
  ExceptT.mk (.request (.dial route))

/-- Copy bytes between two streams. -/
def relay (near far : StreamRef) (idle : Option Nat) : Talk Unit :=
  ExceptT.mk (.request (.relay near far idle))

/-- Connect to the tunnel server. -/
def connect : Talk SessionRef :=
  ExceptT.mk (.request .connect)

/-- Take the next stream which the other side opened. -/
def accept (session : SessionRef) (time : Option Nat) : Talk StreamRef :=
  ExceptT.mk (.request (.accept session time))

/-- Open a stream to the other side. -/
def openStream (session : SessionRef) : Talk StreamRef :=
  ExceptT.mk (.request (.openStream session))

/-- Pace a session. -/
def pace (session : SessionRef) (bps : UInt64) : Talk Unit :=
  ExceptT.mk (.request (.pace session bps))

/-- Tell the observer. -/
def observe (observation : Observation) : Talk Unit :=
  ExceptT.mk (.ask (.observe observation) fun _ => .done (.ok ()))

/-- Judge a tunnel client. -/
def judge (peer : Net.SocketAddress) (token : Bytes) (rate : Rate) : Talk Tunnel.Verdict :=
  ExceptT.mk (.ask (.judge peer token rate) fun verdict => .done (.ok verdict))

/-- Go on whether something fails or not. -/
def attempt (talk : Talk α) : Talk (Except Error α) :=
  ExceptT.mk (talk.run.bind fun result => .done (.ok result))

/-- Give a stream up once something is over, whether it failed or not. -/
def releasing (stream : StreamRef) (talk : Talk α) : Talk α :=
  ExceptT.mk (talk.run.bind fun result => .ask (.release stream) fun _ => .done result)

end Talk
end TunnelProxy
