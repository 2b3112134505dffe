import TunnelProxy.Mux.Session

/-!
# Holders of streams

Whoever opens or accepts a stream of a session holds it until giving it up, which closes the stream
if that has not been done.  A stream which is held can be split; the halves may be used as long as
they are held themselves, whatever becomes of the stream, and giving them up closes nothing.
-/

namespace TunnelProxy
namespace Mux

/-- A stream which was opened or accepted. -/
structure Holding where
  /-- The number of the stream. -/
  id : UInt32
  /-- Whether the stream is still held. -/
  held : Bool := true
  /-- Whether halves of the stream are held. -/
  halved : Bool := false
  deriving DecidableEq, Inhabited

/-- A session and the streams which its user got from it, in order. -/
structure Holder where
  /-- The session. -/
  session : Session
  /-- The streams. -/
  holdings : Array Holding := #[]
  /-- How many writes had been paced when recording them began. -/
  recording : Option Nat := none

namespace Holder

/-- The number of a stream of which the user holds the whole or a half. -/
def id? (holder : Holder) (index : Nat) (half : Bool) : Option UInt32 :=
  match holder.holdings[index]? with
  | some holding =>
      if (if half then holding.halved else holding.held) then some holding.id else none
  | none => none

/-- Remember a stream which was opened or accepted. -/
def take (holder : Holder) (result : Except Error UInt32) : Holder :=
  match result with
  | .ok id => { holder with holdings := holder.holdings.push { id } }
  | .error _ => holder

/-- Open a stream. -/
def openStream (holder : Holder) : Except Error UInt32 × Holder :=
  let (result, session) := holder.session.openStream
  (result, { holder with session }.take result)

/-- Accept a stream.  There is no answer while none has been opened. -/
def accept (holder : Holder) : Option (Except Error UInt32) × Holder :=
  match holder.session.accept with
  | (none, session) => (none, { holder with session })
  | (some result, session) => (some result, { holder with session }.take result)

/-- Accept a stream, or fail if none has been opened. -/
def acceptNow (holder : Holder) : Except Error UInt32 × Holder :=
  let (result, holder) := holder.accept
  (result.getD (.error (.timeout "stream")), holder)

/-- Take the bytes which have been written to the connection since the last time. -/
def takeOutput (holder : Holder) : Bytes × Holder :=
  let (bytes, session) := holder.session.takeOutput
  (bytes, { holder with session })

/-- Begin to record the sizes of writes. -/
def record (holder : Holder) : Holder :=
  { holder with
    recording := holder.recording.orElse fun _ => some holder.session.paced.length }

/-- The sizes of the writes which were recorded. -/
def recorded (holder : Holder) : List Nat :=
  match holder.recording with
  | some before => holder.session.paced.reverse.drop before
  | none => []

/-- Do something to a stream of which the whole or a half is held. -/
def apply {α : Type} (holder : Holder) (index : Nat) (half : Bool)
    (action : Session → UInt32 → α × Session) : Option α × Holder :=
  match holder.id? index half with
  | none => (none, holder)
  | some id =>
      let (result, session) := action holder.session id
      (some result, { holder with session })

/-- Close a stream which is held. -/
def close (holder : Holder) (index : Nat) : Option (Except Error Unit) × Holder :=
  holder.apply index false Session.closeStream

/-- Give a stream up.  The first component tells whether it was held. -/
def release (holder : Holder) (index : Nat) : Bool × Holder :=
  let (closed, holder) := holder.close index
  (closed.isSome,
    { holder with
      holdings := holder.holdings.modify index fun holding => { holding with held := false } })

/-- Give all streams up, in the order in which they were got. -/
def releaseAll (holder : Holder) : Holder :=
  (List.range holder.holdings.size).foldl (fun holder index => (holder.release index).2) holder

/-- Split a stream which is held.  The first component tells whether it was. -/
def split (holder : Holder) (index : Nat) : Bool × Holder :=
  match holder.id? index false with
  | none => (false, holder)
  | some _ =>
      (true,
        { holder with
          holdings := holder.holdings.modify index fun holding => { holding with halved := true } })

/-- Give the halves of a stream up.  The first component tells whether there were any. -/
def releaseHalves (holder : Holder) (index : Nat) : Bool × Holder :=
  ((holder.id? index true).isSome,
    { holder with
      holdings := holder.holdings.modify index fun holding => { holding with halved := false } })

end Holder
end Mux
end TunnelProxy
