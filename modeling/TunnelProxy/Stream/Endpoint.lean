import TunnelProxy.Stream.Transfer

/-!
# Scripted endpoints

An endpoint is one end of a byte stream whose behaviour is fixed beforehand: what arrives and in
which pieces, when a read fails, how many bytes a write takes and when writes begin to fail.  It
remembers what was done to it.  Reads and writes of a closed endpoint are over at once.
-/

namespace TunnelProxy

/-- What the next read of an endpoint meets. -/
inductive Arrival where
  /-- Bytes which are handed out as far as asked for, the rest by later reads. -/
  | data (bytes : Bytes)
  /-- Nothing arrives until that many bytes have been written. -/
  | await (written : Nat)
  /-- One read fails. -/
  | fail (kind : IoKind)
  /-- Every read from here on is at the end of the stream. -/
  | endOfStream
  /-- Nothing arrives until the endpoint is closed. -/
  | silence
  deriving DecidableEq, Inhabited

/-- One end of a byte stream. -/
structure Endpoint where
  /-- What reads will meet, in this order; afterwards the stream is at its end. -/
  arrivals : List Arrival := []
  /-- The most bytes which one write takes. -/
  cap : Option Nat := none
  /-- Writes fail with this kind once that many bytes have been written. -/
  writeFailure : Option (Nat × IoKind) := none
  /-- The failure of splitting the stream. -/
  splitFailure : Option IoKind := none
  /-- The failure which closing reports. -/
  closeFailure : Option IoKind := none
  /-- The failure of setting a time limit. -/
  timeoutFailure : Option IoKind := none
  /-- The pieces written so far, most recent first. -/
  pieces : List Bytes := []
  /-- The number of bytes written so far. -/
  writtenCount : Nat := 0
  /-- How often the endpoint was closed. -/
  closes : Nat := 0
  /-- The time limits which were set, most recent first, in milliseconds. -/
  limits : List (Option Nat) := []
  deriving DecidableEq, Inhabited

namespace Endpoint

/-- The bytes written so far. -/
def written (endpoint : Endpoint) : Bytes :=
  endpoint.pieces.reverse.flatten

/-- The time limits which were set so far. -/
def timeLimits (endpoint : Endpoint) : List (Option Nat) :=
  endpoint.limits.reverse

/-- Whether the endpoint has been closed. -/
def isClosed (endpoint : Endpoint) : Bool :=
  0 < endpoint.closes

/-- What a read of at most `count` bytes gives, and what later reads meet.  There is no answer
while nothing arrives. -/
def readFrom (written count : Nat) : List Arrival → Option (Except IoError Bytes × List Arrival)
  | [] => some (.ok [], [])
  | .data [] :: rest => readFrom written count rest
  | .data (byte :: bytes) :: rest =>
      some (.ok ((byte :: bytes).take count), .data ((byte :: bytes).drop count) :: rest)
  | .await needed :: rest =>
      if needed ≤ written then readFrom written count rest else none
  | .fail kind :: rest => some (.error (.ofKind kind), rest)
  | .endOfStream :: rest => some (.ok [], .endOfStream :: rest)
  | .silence :: _ => none

/-- Read at most `count` bytes; no bytes mean the end of the stream.  There is no answer while
nothing arrives. -/
def read (endpoint : Endpoint) (count : Nat) : Option (Except IoError Bytes × Endpoint) :=
  if endpoint.isClosed then some (.ok [], endpoint)
  else
    (readFrom endpoint.writtenCount count endpoint.arrivals).map fun (result, arrivals) =>
      (result, { endpoint with arrivals })

/-- Gather exactly `count` bytes, most recent piece first.  Interrupted reads are repeated; the
end of the stream and every other failure end the attempt, and what was read is lost. -/
def receiveFrom (written : Nat) (pieces : List Bytes) :
    Nat → List Arrival → Option (Except IoError Bytes × List Arrival)
  | 0, arrivals => some (.ok pieces.reverse.flatten, arrivals)
  | _ + 1, [] => some (.error .truncated, [])
  | missing + 1, .data bytes :: rest =>
      if missing + 1 < bytes.length then
        some (.ok (bytes.take (missing + 1) :: pieces).reverse.flatten,
          .data (bytes.drop (missing + 1)) :: rest)
      else
        receiveFrom written (bytes :: pieces) (missing + 1 - bytes.length) rest
  | missing + 1, .await needed :: rest =>
      if needed ≤ written then receiveFrom written pieces (missing + 1) rest else none
  | missing + 1, .fail kind :: rest =>
      if kind = .interrupted then receiveFrom written pieces (missing + 1) rest
      else some (.error (.ofKind kind), rest)
  | _ + 1, .endOfStream :: rest => some (.error .truncated, .endOfStream :: rest)
  | _ + 1, .silence :: _ => none
termination_by _ arrivals => arrivals.length

/-- Read exactly `count` bytes. -/
def receive (endpoint : Endpoint) (count : Nat) : Option (Except IoError Bytes × Endpoint) :=
  if endpoint.isClosed then
    some (if count = 0 then .ok [] else .error .truncated, endpoint)
  else
    (receiveFrom endpoint.writtenCount [] count endpoint.arrivals).map fun (result, arrivals) =>
      (result, { endpoint with arrivals })

/-- The most bytes which a single write takes, if there is a bound. -/
def room (endpoint : Endpoint) : Except IoError (Option Nat) :=
  if endpoint.isClosed then .error (.ofKind .brokenPipe)
  else
    match endpoint.writeFailure with
    | some (after, kind) =>
        if after ≤ endpoint.writtenCount then .error (.ofKind kind)
        else
          let left := after - endpoint.writtenCount
          .ok (some (min left (endpoint.cap.getD left)))
    | none => .ok endpoint.cap

/-- Remember bytes which were written. -/
def remember (endpoint : Endpoint) (bytes : Bytes) : Endpoint :=
  { endpoint with
    pieces := bytes :: endpoint.pieces
    writtenCount := endpoint.writtenCount + bytes.length }

/-- Write once; the answer is the number of bytes taken. -/
def write (endpoint : Endpoint) (bytes : Bytes) : Except IoError Nat × Endpoint :=
  match endpoint.room with
  | .error error => (.error error, endpoint)
  | .ok bound =>
      let taken :=
        match bound with
        | some count => bytes.take count
        | none => bytes
      (.ok taken.length, endpoint.remember taken)

/-- Write all bytes. -/
def send (endpoint : Endpoint) (bytes : Bytes) : Option (Except IoError Unit × Endpoint) :=
  sendAll (fun endpoint => endpoint.write) endpoint bytes

/-- Make two independent halves of the stream. -/
def split (endpoint : Endpoint) : Except IoError Unit :=
  match endpoint.splitFailure with
  | some kind => .error (.ofKind kind)
  | none => .ok ()

/-- End both directions.  The endpoint is closed also when this is reported as a failure. -/
def close (endpoint : Endpoint) : Except IoError Unit × Endpoint :=
  (match endpoint.closeFailure with
    | some kind => .error (.ofKind kind)
    | none => .ok (),
    { endpoint with closes := endpoint.closes + 1 })

/-- Limit the time of every later read and write, in milliseconds. -/
def setTimeLimit (endpoint : Endpoint) (limit : Option Nat) : Except IoError Unit × Endpoint :=
  (match endpoint.timeoutFailure with
    | some kind => .error (.ofKind kind)
    | none => .ok (),
    { endpoint with limits := limit :: endpoint.limits })

end Endpoint
end TunnelProxy
