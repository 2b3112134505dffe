/-!
# Input and output failures

A failed read, write, dial or lookup is described by its kind and a text.
-/

namespace TunnelProxy

/-- What went wrong with an input or output operation. -/
inductive IoKind where
  /-- The named thing does not exist. -/
  | notFound
  /-- The operation is not permitted. -/
  | permissionDenied
  /-- The remote host refused the connection. -/
  | connectionRefused
  /-- The remote host reset the connection. -/
  | connectionReset
  /-- The connection was given up. -/
  | connectionAborted
  /-- There is no connection yet. -/
  | notConnected
  /-- The local address is taken. -/
  | addressInUse
  /-- The local address does not exist. -/
  | addressNotAvailable
  /-- Nobody reads what is written. -/
  | brokenPipe
  /-- The thing to be made exists. -/
  | alreadyExists
  /-- The operation would have to wait. -/
  | wouldBlock
  /-- A parameter is malformed. -/
  | invalidInput
  /-- The data is malformed. -/
  | invalidData
  /-- The operation took too long. -/
  | timedOut
  /-- A write took no byte. -/
  | writeZero
  /-- The operation was interrupted and may be tried again. -/
  | interrupted
  /-- The operation does not exist here. -/
  | unsupported
  /-- The data ended too early. -/
  | unexpectedEof
  /-- There is not enough memory. -/
  | outOfMemory
  /-- Any other failure. -/
  | other
  deriving DecidableEq, Inhabited

namespace IoKind

/-- All kinds. -/
def all : List IoKind :=
  [notFound, permissionDenied, connectionRefused, connectionReset, connectionAborted,
    notConnected, addressInUse, addressNotAvailable, brokenPipe, alreadyExists, wouldBlock,
    invalidInput, invalidData, timedOut, writeZero, interrupted, unsupported, unexpectedEof,
    outOfMemory, other]

/-- The name of a kind. -/
def name : IoKind → String
  | notFound => "NotFound"
  | permissionDenied => "PermissionDenied"
  | connectionRefused => "ConnectionRefused"
  | connectionReset => "ConnectionReset"
  | connectionAborted => "ConnectionAborted"
  | notConnected => "NotConnected"
  | addressInUse => "AddrInUse"
  | addressNotAvailable => "AddrNotAvailable"
  | brokenPipe => "BrokenPipe"
  | alreadyExists => "AlreadyExists"
  | wouldBlock => "WouldBlock"
  | invalidInput => "InvalidInput"
  | invalidData => "InvalidData"
  | timedOut => "TimedOut"
  | writeZero => "WriteZero"
  | interrupted => "Interrupted"
  | unsupported => "Unsupported"
  | unexpectedEof => "UnexpectedEof"
  | outOfMemory => "OutOfMemory"
  | other => "Other"

/-- The kind with a name. -/
def ofName? (name : String) : Option IoKind :=
  all.find? fun kind => kind.name = name

/-- The text of a failure about which only its kind is known. -/
def text : IoKind → String
  | notFound => "entity not found"
  | permissionDenied => "permission denied"
  | connectionRefused => "connection refused"
  | connectionReset => "connection reset"
  | connectionAborted => "connection aborted"
  | notConnected => "not connected"
  | addressInUse => "address in use"
  | addressNotAvailable => "address not available"
  | brokenPipe => "broken pipe"
  | alreadyExists => "entity already exists"
  | wouldBlock => "operation would block"
  | invalidInput => "invalid input parameter"
  | invalidData => "invalid data"
  | timedOut => "timed out"
  | writeZero => "write zero"
  | interrupted => "operation interrupted"
  | unsupported => "unsupported"
  | unexpectedEof => "unexpected end of file"
  | outOfMemory => "out of memory"
  | other => "other error"

/-- A read with a deadline reports its passing by either of two kinds. -/
def isTimeout (kind : IoKind) : Bool :=
  kind = wouldBlock || kind = timedOut

end IoKind

/-- A failed input or output operation. -/
structure IoError where
  /-- What went wrong. -/
  kind : IoKind
  /-- The text shown to a reader. -/
  message : String
  deriving DecidableEq, Inhabited

namespace IoError

/-- A failure about which only its kind is known. -/
def ofKind (kind : IoKind) : IoError := ⟨kind, kind.text⟩

/-- A reader needed more bytes than there were. -/
def truncated : IoError := ⟨.unexpectedEof, "failed to fill whole buffer"⟩

/-- A writer had bytes left and the stream took none. -/
def stuck : IoError := ⟨.writeZero, "failed to write whole buffer"⟩

end IoError
end TunnelProxy
