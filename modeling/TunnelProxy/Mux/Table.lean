import TunnelProxy.Mux.Frame

/-!
# Stream tables

The state which the users of a session and its reader share: the streams with the bytes that have
arrived for them, the streams which have not been accepted yet, the number of the next stream to
open, and why the session was closed.  Every function here is one indivisible step.
-/

namespace TunnelProxy
namespace Mux

/-- What is known about a stream. -/
structure StreamEntry where
  /-- Bytes which have arrived and have not been read. -/
  data : Bytes := []
  /-- Whether the other side has sent everything. -/
  finished : Bool := false
  /-- Whether this side has closed the stream. -/
  closedHere : Bool := false
  /-- The time limit of reads, in milliseconds. -/
  limit : Option Nat := none
  deriving DecidableEq, Inhabited

/-- The shared state of a session. -/
structure Table where
  /-- The streams by their numbers. -/
  entries : List (UInt32 × StreamEntry) := []
  /-- The streams which the other side opened and nobody has accepted, oldest first. -/
  queue : List UInt32 := []
  /-- The number of the next stream which is opened here. -/
  nextId : UInt32
  /-- Why the session was closed. -/
  closed : Option (CloseCode × String) := none
  deriving DecidableEq, Inhabited

namespace Table

/-- The state of a new session.  The side which dialed opens streams with odd numbers, the other one
streams with even numbers. -/
def initial (dialed : Bool) : Table := { nextId := if dialed then 1 else 2 }

/-- The entry of a stream. -/
def find? (table : Table) (id : UInt32) : Option StreamEntry :=
  (table.entries.find? fun entry => entry.1 = id).map Prod.snd

/-- Forget a stream. -/
def erase (table : Table) (id : UInt32) : Table :=
  { table with entries := table.entries.filter fun entry => entry.1 ≠ id }

/-- Put an entry in place of the one a stream may have. -/
def insert (table : Table) (id : UInt32) (entry : StreamEntry) : Table :=
  { table with entries := (id, entry) :: (table.erase id).entries }

/-- Change the entry of a stream, if it has one. -/
def modify (table : Table) (id : UInt32) (change : StreamEntry → StreamEntry) : Table :=
  match table.find? id with
  | some entry => table.insert id (change entry)
  | none => table

/-- The failure of whatever needs an open session, once it has been closed. -/
def closedError? (table : Table) : Option Error :=
  table.closed.map fun (code, reason) => .sessionClosed code reason

/-- Close the session; only the first reason counts. -/
def markClosed (table : Table) (code : CloseCode) (reason : String) : Table :=
  match table.closed with
  | some _ => table
  | none => { table with closed := some (code, reason) }

/-- A frame of a known kind which does not end the session has arrived.  Bytes for a stream which is
not known are lost. -/
def receive (table : Table) (kind : FrameKind) (id : UInt32) (payload : Bytes) : Table :=
  match kind with
  | .opening => { table.insert id {} with queue := table.queue ++ [id] }
  | .data =>
      table.modify id fun entry =>
        if entry.closedHere then entry else { entry with data := entry.data ++ payload }
  | .fin => table.modify id fun entry => { entry with finished := true }
  | .close => table

/-- Whether bytes may be sent on a stream. -/
def checkWrite (table : Table) (id : UInt32) : Except IoError Unit :=
  match table.closedError? with
  | some error => .error ⟨.brokenPipe, error.message⟩
  | none =>
      match table.find? id with
      | some entry => if entry.closedHere then .error (.ofKind .brokenPipe) else .ok ()
      | none => .error (.ofKind .brokenPipe)

/-- Read at most `count` bytes of a stream; no bytes mean the end of the stream.  There is no answer
while bytes may still arrive. -/
def read (table : Table) (id : UInt32) (count : Nat) :
    Option (Except IoError Bytes) × Table :=
  match table.find? id with
  | none => (some (.ok []), table)
  | some entry =>
      if !entry.data.isEmpty then
        (some (.ok (entry.data.take count)),
          table.insert id { entry with data := entry.data.drop count })
      else if count = 0 || entry.finished || entry.closedHere then (some (.ok []), table)
      else
        match table.closedError? with
        | some error => (some (.error ⟨.connectionAborted, error.message⟩), table)
        | none => (none, table)

/-- Read exactly `count` bytes of a stream, which are those of as many reads as it takes.  There is no
answer while some of them may still arrive; if they can not, those which have arrived are lost. -/
def readExactly (table : Table) (id : UInt32) (count : Nat) :
    Option (Except IoError Bytes) × Table :=
  match table.find? id with
  | none => (some (if count = 0 then .ok [] else .error .truncated), table)
  | some entry =>
      let emptied := table.insert id { entry with data := [] }
      if count ≤ entry.data.length then
        (some (.ok (entry.data.take count)),
          table.insert id { entry with data := entry.data.drop count })
      else if entry.finished || entry.closedHere then (some (.error .truncated), emptied)
      else
        match table.closedError? with
        | some error => (some (.error ⟨.connectionAborted, error.message⟩), emptied)
        | none => (none, table)

/-- Close a stream on this side.  The first component tells whether the other side has to be told. -/
def closeStream (table : Table) (id : UInt32) : Bool × Table :=
  let live := (table.find? id).any fun entry => !entry.closedHere
  (live && table.closed.isNone, table.erase id)

/-- Take the oldest stream which the other side opened.  There is no answer while one may still
arrive. -/
def accept (table : Table) : Option (Except Error UInt32) × Table :=
  match table.queue with
  | id :: queue => (some (.ok id), { table with queue })
  | [] => (table.closedError?.map .error, table)

/-- Give a number to a new stream. -/
def reserve (table : Table) : Except Error UInt32 × Table :=
  match table.closedError? with
  | some error => (.error error, table)
  | none =>
      let id := table.nextId
      (.ok id, { table.insert id {} with nextId := id + 2 })

/-- Limit the time of reads of a stream. -/
def setLimit (table : Table) (id : UInt32) (limit : Option Nat) : Table :=
  table.modify id fun entry => { entry with limit }

end Table

namespace RawFrame

/-- Why a frame ends the session of the side at which it arrives, if it does. -/
def ending? (frame : RawFrame) : Option (CloseCode × String) :=
  match FrameKind.ofByte? frame.kind with
  | none =>
      let cause := Error.messageFormat s!"unknown frame kind: {frame.kind.toNat}"
      some (.protocol, cause.message)
  | some .close =>
      match frame.payload with
      | high :: low :: reason =>
          some (.ofCode (UInt16.ofNat (Wire.ofBigEndian [high, low])), Text.Utf8.decode reason)
      | _ => some (.protocol, (Error.messageFormat "short close frame").message)
  | some _ => none

end RawFrame

namespace Table

/-- Apply the complete frames at the start of a byte sequence.  The components of the result are what
is left of the sequence, and whether a frame has ended the session. -/
def receiveAll (table : Table) (bytes : Bytes) : Table × Bytes × Bool :=
  match _taken : RawFrame.split? bytes with
  | none => (table, bytes, false)
  | some (frame, rest) =>
      match frame.ending? with
      | some (code, reason) => (table.markClosed code reason, rest, true)
      | none =>
          match FrameKind.ofByte? frame.kind with
          | some kind => receiveAll (table.receive kind frame.id frame.payload) rest
          | none => receiveAll table rest
termination_by bytes.length
decreasing_by all_goals exact RawFrame.length_lt_of_split? _taken

end Table
end Mux
end TunnelProxy
