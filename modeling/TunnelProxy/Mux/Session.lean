import TunnelProxy.Mux.Table
import TunnelProxy.Obfuscation.Stream

/-!
# Multiplexed sessions

A session is a stream table together with the connection on which its frames travel.  What users do
is one step of the table and, where the other side has to know, one frame after it.  Whatever arrives
is cut into frames again and applied to the table in order.
-/

namespace TunnelProxy
namespace Mux

/-- One side of a session. -/
structure Session where
  /-- The address of the other side. -/
  remote : Net.SocketAddress
  /-- The streams. -/
  table : Table
  /-- The connection; only its writing side is used. -/
  link : Endpoint := {}
  /-- The obfuscation of the connection. -/
  mask : Option ObfuscatedStream := none
  /-- Whether frames are still read. -/
  reading : Bool := true
  /-- The start of a frame which is not complete. -/
  unread : Bytes := []
  /-- The sizes of the payloads which were paced, most recent first. -/
  paced : List Nat := []

namespace Session

/-- A new session on a connection. -/
def start (remote : Net.SocketAddress) (dialed : Bool) (keystream : Option Keystream)
    (link : Endpoint := {}) : Session :=
  { remote
    table := .initial dialed
    link
    mask := keystream.map fun keystream => { keystream } }

/-- Close the connection.  Nothing is read from it any more. -/
def closeLink (session : Session) : Session :=
  { session with link := session.link.close.2, reading := false, unread := [] }

/-- Close the session without telling the other side. -/
def fail (session : Session) (code : CloseCode) (reason : String) : Session :=
  { session with table := session.table.markClosed code reason }.closeLink

/-- Write bytes to the connection.  A connection on which writes are interrupted for ever counts as
failed. -/
def transmit (session : Session) (bytes : Bytes) : Except IoError Unit × Session :=
  match session.mask with
  | none =>
      match session.link.send bytes with
      | some (result, link) => (result, { session with link })
      | none => (.error (.ofKind .interrupted), session)
  | some mask =>
      match mask.send bytes session.link with
      | some (result, mask, link) => (result, { session with link, mask := some mask })
      | none => (.error (.ofKind .interrupted), session)

/-- Send a frame.  If that fails, the session is closed. -/
def emit (session : Session) (frame : Frame) : Except Error Unit × Session :=
  match session.transmit frame.layout with
  | (.ok (), after) => (.ok (), after)
  | (.error cause, after) =>
      (.error (.io cause), after.fail .generic s!"write error: {(Error.io cause).message}")

/-- Bytes have arrived. -/
def arrive (session : Session) (bytes : Bytes) : Session :=
  if session.reading then
    let (clear, mask) :=
      match session.mask with
      | none => (bytes, none)
      | some mask =>
          (mask.keystream.apply mask.readPosition bytes,
            some { mask with readPosition := mask.readPosition + bytes.length })
    let (table, unread, ended) := session.table.receiveAll (session.unread ++ clear)
    let after := { session with table, unread, mask }
    if ended then after.closeLink else after
  else session

/-- Nothing more arrives, because the connection ended or failed. -/
def lose (session : Session) (cause : IoError) : Session :=
  if session.reading then
    if cause.kind = .interrupted then session
    else session.fail .generic s!"connection lost: {(Error.io cause).message}"
  else session

/-- The connection has ended. -/
def endOfInput (session : Session) : Session := session.lose .truncated

/-- Take the bytes which have been written to the connection since the last time. -/
def takeOutput (session : Session) : Bytes × Session :=
  (session.link.written, { session with link := { session.link with pieces := [] } })

/-- Open a stream. -/
def openStream (session : Session) : Except Error UInt32 × Session :=
  let (reserved, table) := session.table.reserve
  let session := { session with table }
  match reserved with
  | .error error => (.error error, session)
  | .ok id =>
      let (sent, session) := session.emit { kind := .opening, id }
      (sent.map fun () => id, session)

/-- Take the oldest stream which the other side opened. -/
def accept (session : Session) : Option (Except Error UInt32) × Session :=
  let (accepted, table) := session.table.accept
  (accepted, { session with table })

/-- Read from a stream. -/
def read (session : Session) (id : UInt32) (count : Nat) :
    Option (Except IoError Bytes) × Session :=
  let (result, table) := session.table.read id count
  (result, { session with table })

/-- Read exactly so many bytes from a stream. -/
def readExactly (session : Session) (id : UInt32) (count : Nat) :
    Option (Except IoError Bytes) × Session :=
  let (result, table) := session.table.readExactly id count
  (result, { session with table })

/-- Write once to a stream.  A single write takes at most one payload.  Pacing is told how much leaves;
it decides when, and nothing else. -/
def write (session : Session) (id : UInt32) (bytes : Bytes) : Except IoError Nat × Session :=
  match session.table.checkWrite id with
  | .error error => (.error error, session)
  | .ok () =>
      let payload := bytes.take maximumPayload
      let size := payload.length
      let session := { session with paced := size :: session.paced }
      let (sent, session) := session.emit { kind := .data, id, payload }
      match sent with
      | .ok () => (.ok size, session)
      | .error error => (.error error.toIo, session)

/-- Write all bytes to a stream.  A stream on which writes are interrupted for ever counts as
failed. -/
def send (session : Session) (id : UInt32) (bytes : Bytes) : Except IoError Unit × Session :=
  match sendAll (fun session bytes => session.write id bytes) session bytes with
  | some result => result
  | none => (.error (.ofKind .interrupted), session)

/-- Close a stream. -/
def closeStream (session : Session) (id : UInt32) : Except Error Unit × Session :=
  let (tell, table) := session.table.closeStream id
  let session := { session with table }
  if tell then session.emit { kind := .fin, id } else (.ok (), session)

/-- Limit the time of reads of a stream. -/
def setLimit (session : Session) (id : UInt32) (limit : Option Nat) : Session :=
  { session with table := session.table.setLimit id limit }

/-- Close the session and tell the other side why, unless the session is closed already. -/
def close (session : Session) (code : CloseCode) (reason : String) : Session :=
  match session.table.closed with
  | some _ => session
  | none =>
      let session := { session with table := session.table.markClosed code reason }
      (session.emit (.closing code reason)).2.closeLink

/-- Close the session because the server stops. -/
def interrupt (session : Session) : Session := session.close .generic "server shutdown"

/-- Whether the session has been closed. -/
def isClosed (session : Session) : Bool := session.table.closed.isSome

/-- The text of a session. -/
def text (session : Session) : String := s!"MuxSession({session.remote.text})"

/-- The text of a stream. -/
def streamText (session : Session) (id : UInt32) : String :=
  s!"MuxStream({session.remote.text}, {id.toNat})"

end Session
end Mux
end TunnelProxy
