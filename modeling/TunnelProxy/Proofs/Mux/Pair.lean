import TunnelProxy.Proofs.Mux.Streams
import TunnelProxy.Proofs.Mux.Transmission

/-!
# Two sessions on one connection

The users and the reader of a session take turns: whatever one of them does without giving the others
a turn is a task, and the tasks of all of them interleave in any order.  What one side writes to its
connection arrives at the other side in order, in pieces of any size, as long as that side reads.
The operations of a session are those of one user whom nobody interrupts.
-/

namespace TunnelProxy
namespace Mux

/-- What a user or the reader of a session still has to do. -/
inductive Task where
  /-- Write a frame to the connection. -/
  | send (frame : Frame)
  /-- Mark the session as closed. -/
  | mark (code : CloseCode) (reason : String)
  /-- Close the connection. -/
  | unlink

/-- A session, those who use it, and what has happened in it. -/
structure Party where
  /-- The session. -/
  session : Session
  /-- The rest of everything which has begun. -/
  threads : List (List Task) := []
  /-- The streams which users have got. -/
  held : List UInt32 := []
  /-- The number of bytes which have arrived from the other side. -/
  taken : Nat := 0
  /-- The streams which were opened here, in order. -/
  opened : List UInt32 := []
  /-- The streams which were accepted here, in order. -/
  accepted : List UInt32 := []
  /-- The streams which were closed here. -/
  released : List UInt32 := []
  /-- The frames which were written completely, in order. -/
  sent : List Frame := []
  /-- The frames which were applied to the table, in order. -/
  processed : List Frame := []
  /-- The bytes which reads have handed out, in order, with their streams. -/
  reads : List (UInt32 × Bytes) := []

/-- What can happen at one side. -/
inductive Action where
  /-- A user begins to open a stream. -/
  | openStream
  /-- A user begins to write to a stream. -/
  | write (id : UInt32) (bytes : Bytes)
  /-- A user begins to close a stream. -/
  | closeStream (id : UInt32)
  /-- A user begins to close the session. -/
  | close (code : CloseCode) (reason : String)
  /-- What has begun goes on with its next task. -/
  | proceed (thread : Nat)
  /-- A user accepts a stream. -/
  | accept
  /-- A user reads from a stream. -/
  | read (id : UInt32) (count : Nat)
  /-- A user limits the time of reads of a stream. -/
  | setLimit (id : UInt32) (limit : Option Nat)
  /-- So many of the bytes which the other side has written arrive. -/
  | arrive (count : Nat)
  /-- The connection fails for the reader. -/
  | lose (cause : IoError)
  /-- The connection fails for writers after so many bytes more. -/
  | sever (count : Nat) (kind : IoKind)

/-- Bytes which have arrived, without the obfuscation. -/
def Session.clear (session : Session) (bytes : Bytes) : Bytes :=
  match session.mask with
  | none => bytes
  | some mask => mask.keystream.apply mask.readPosition bytes

/-- So many bytes are going to be sent. -/
def Session.pace (session : Session) (size : Nat) : Session :=
  { session with paced := size :: session.paced }

theorem Session.write_eq {session : Session} {id : UInt32}
    (possible : session.table.checkWrite id = .ok ()) (bytes : Bytes) :
    session.write id bytes =
      let payload := bytes.take maximumPayload
      match (session.pace payload.length).emit { kind := .data, id, payload } with
      | (.ok (), after) => (.ok payload.length, after)
      | (.error error, after) => (.error error.toIo, after) := by
  rw [write, possible]
  dsimp only
  rw [← pace]
  obtain ⟨result, after⟩ := (session.pace (bytes.take maximumPayload).length).emit
    { kind := .data, id, payload := bytes.take maximumPayload }
  cases result <;> rfl

/-- What arrives is freed from the obfuscation and cut into frames. -/
theorem Session.arrive_eq {session : Session} (reading : session.reading = true) (bytes : Bytes) :
    session.arrive bytes =
      let received := session.table.receiveAll (session.unread ++ session.clear bytes)
      let after :=
        { session with
          table := received.1
          unread := received.2.1
          mask := session.mask.map fun mask =>
            { mask with readPosition := mask.readPosition + bytes.length } }
      if received.2.2 then after.closeLink else after := by
  rw [arrive, if_pos reading, clear]
  cases session.mask <;> rfl

theorem Session.arrive_mask {session : Session} (reading : session.reading = true) (bytes : Bytes) :
    (session.arrive bytes).mask = session.mask.map fun mask =>
      { mask with readPosition := mask.readPosition + bytes.length } := by
  rw [arrive_eq reading]
  dsimp only
  split <;> rfl

namespace Party

variable (party : Party)

/-- Something begins. -/
def begin (tasks : List Task) : Party :=
  { party with threads := party.threads ++ [tasks] }

/-- Opening a stream takes a number first. -/
def openStream : Party :=
  match party.session.table.reserve with
  | (.ok id, table) =>
      { party with
        session := { party.session with table }
        opened := party.opened ++ [id] }.begin [.send { kind := .opening, id }]
  | (.error _, _) => party

/-- Writing to a stream looks first whether that is possible. -/
def write (id : UInt32) (bytes : Bytes) : Party :=
  if id ∈ party.held then
    match party.session.table.checkWrite id with
    | .ok () =>
        let payload := bytes.take maximumPayload
        { party with session := party.session.pace payload.length }.begin
          [.send { kind := .data, id, payload }]
    | .error _ => party
  else party

/-- Closing a stream forgets it first. -/
def closeStream (id : UInt32) : Party :=
  if id ∈ party.held then
    let (tell, table) := party.session.table.closeStream id
    { party with
      session := { party.session with table }
      released := party.released ++ [id] }.begin (if tell then [.send { kind := .fin, id }] else [])
  else party

/-- Closing the session marks it first. -/
def close (code : CloseCode) (reason : String) : Party :=
  match party.session.table.closed with
  | some _ => party
  | none =>
      { party with
        session := { party.session with table := party.session.table.markClosed code reason } }.begin
        [.send (.closing code reason), .unlink]

/-- A task is done.  A frame which is not written completely closes the session. -/
def perform (thread : Nat) (task : Task) (rest : List Task) : Party :=
  match task with
  | .send frame =>
      match party.session.transmit frame.layout with
      | (.ok (), session) =>
          { party with
            session
            held := if frame.kind = .opening then party.held ++ [frame.id] else party.held
            sent := party.sent ++ [frame]
            threads := party.threads.set thread rest }
      -- The others may go on before the session is marked and the connection is closed.
      | (.error cause, session) =>
          { party with
            session
            threads := party.threads.set thread
              (.mark .generic s!"write error: {(Error.io cause).message}" :: .unlink :: rest) }
  | .mark code reason =>
      { party with
        session := { party.session with table := party.session.table.markClosed code reason }
        threads := party.threads.set thread rest }
  | .unlink =>
      { party with
        session := party.session.closeLink
        threads := party.threads.set thread rest }

/-- What has begun goes on, unless it has ended. -/
def proceed (thread : Nat) : Party :=
  match party.threads[thread]? with
  | some (task :: rest) => party.perform thread task rest
  | _ => party

/-- A stream is accepted, if one waits. -/
def accept : Party :=
  match party.session.accept with
  | (some (.ok id), session) =>
      { party with session, accepted := party.accepted ++ [id], held := party.held ++ [id] }
  | (_, session) => { party with session }

/-- A stream is read. -/
def read (id : UInt32) (count : Nat) : Party :=
  let (result, session) := party.session.read id count
  { party with session, reads := party.reads ++ recorded id result }

/-- The reader has changed the session.  If it stops, the connection is closed only afterwards. -/
def settle (after : Session) : Party :=
  let party := { party with session := { after with link := party.session.link } }
  if after.reading then party else party.begin [.unlink]

/-- Bytes arrive, if the reader has not stopped. -/
def arrive (incoming : Bytes) (count : Nat) : Party :=
  if party.session.reading then
    let chunk := (incoming.drop party.taken).take count
    { party with
      taken := party.taken + chunk.length
      processed := party.processed ++ applied (party.session.unread ++ party.session.clear chunk)
      }.settle (party.session.arrive chunk)
  else party

/-- The connection fails, if the reader has not stopped. -/
def lose (cause : IoError) : Party :=
  if party.session.reading then party.settle (party.session.lose cause) else party

/-- One thing happens, after the other side has written some bytes. -/
def act (incoming : Bytes) : Action → Party
  | .openStream => party.openStream
  | .write id bytes => party.write id bytes
  | .closeStream id => party.closeStream id
  | .close code reason => party.close code reason
  | .proceed thread => party.proceed thread
  | .accept => party.accept
  | .read id count => party.read id count
  | .setLimit id limit => { party with session := party.session.setLimit id limit }
  | .arrive count => party.arrive incoming count
  | .lose cause => party.lose cause
  | .sever count kind =>
      { party with
        session := { party.session with link := party.session.link.sever count kind } }

/-- A new session, nothing of which has been used. -/
def start (remote : Net.SocketAddress) (dialed : Bool) (keystream : Option Keystream)
    (link : Endpoint) : Party where
  session := .start remote dialed keystream { link with pieces := [] }

end Party

/-- The two ends of a connection. -/
structure Pair where
  /-- The side which dialed. -/
  dialing : Party
  /-- The other side. -/
  listening : Party

namespace Pair

/-- One thing happens at the side which dialed, if that is said, or else at the other side. -/
def act (pair : Pair) : Bool × Action → Pair
  | (true, action) =>
      { pair with dialing := pair.dialing.act pair.listening.session.link.written action }
  | (false, action) =>
      { pair with listening := pair.listening.act pair.dialing.session.link.written action }

/-- Things happen one after another. -/
def run (pair : Pair) (actions : List (Bool × Action)) : Pair := actions.foldl act pair

/-- New sessions at the ends of a connection.  If it is obfuscated, both ends have the same key. -/
def start (keystream : Option Keystream) (dialingLink listeningLink : Endpoint)
    (dialingAddress listeningAddress : Net.SocketAddress) : Pair where
  dialing := .start listeningAddress true keystream dialingLink
  listening := .start dialingAddress false keystream listeningLink

end Pair

/-! ## Operations without interruption -/

namespace Party

variable (party : Party) (thread : Nat)

/-- What has begun goes on to its end, which is never more than four tasks away. -/
def finish : Party :=
  (((party.proceed thread).proceed thread).proceed thread).proceed thread

variable {party thread} {rest : List Task}

theorem proceed_task {task : Task} (found : party.threads[thread]? = some (task :: rest)) :
    party.proceed thread = party.perform thread task rest := by
  rw [proceed, found]

theorem proceed_over (idle : party.threads[thread]? = some [] ∨ party.threads[thread]? = none) :
    party.proceed thread = party := by
  rcases idle with idle | idle <;> rw [proceed, idle]

theorem finish_over (idle : party.threads[thread]? = some [] ∨ party.threads[thread]? = none) :
    party.finish thread = party := by
  simp only [finish, proceed_over idle]

theorem set_thread {tasks : List Task} (found : party.threads[thread]? = some tasks)
    (later : List Task) : (party.threads.set thread later)[thread]? = some later := by
  have bound := (List.getElem?_eq_some_iff.mp found).1
  exact List.getElem?_set_self bound

theorem proceed_written {frame : Frame} {after : Session}
    (found : party.threads[thread]? = some (.send frame :: rest))
    (written : party.session.transmit frame.layout = (.ok (), after)) :
    (party.proceed thread).session = after ∧ (party.proceed thread).sent = party.sent ++ [frame] ∧
      (party.proceed thread).threads[thread]? = some rest := by
  rw [proceed_task found, perform, written]
  exact ⟨rfl, rfl, set_thread found rest⟩

theorem proceed_broken {frame : Frame} {cause : IoError} {after : Session}
    (found : party.threads[thread]? = some (.send frame :: rest))
    (broken : party.session.transmit frame.layout = (.error cause, after)) :
    (party.proceed thread).session = after ∧ (party.proceed thread).sent = party.sent ∧
      (party.proceed thread).threads[thread]? = some
        (.mark .generic s!"write error: {(Error.io cause).message}" :: .unlink :: rest) := by
  rw [proceed_task found, perform, broken]
  exact ⟨rfl, rfl, set_thread found _⟩

theorem proceed_mark {code : CloseCode} {reason : String}
    (found : party.threads[thread]? = some (.mark code reason :: rest)) :
    (party.proceed thread).session =
        { party.session with table := party.session.table.markClosed code reason } ∧
      (party.proceed thread).sent = party.sent ∧
      (party.proceed thread).threads[thread]? = some rest := by
  rw [proceed_task found]
  exact ⟨rfl, rfl, set_thread found rest⟩

theorem proceed_unlink (found : party.threads[thread]? = some (.unlink :: rest)) :
    (party.proceed thread).session = party.session.closeLink ∧
      (party.proceed thread).sent = party.sent ∧
      (party.proceed thread).threads[thread]? = some rest := by
  rw [proceed_task found]
  exact ⟨rfl, rfl, set_thread found rest⟩

/-- Writing a frame without interruption. -/
theorem finish_send {frame : Frame} (found : party.threads[thread]? = some [.send frame]) :
    (party.finish thread).session = (party.session.emit frame).2 ∧
      (party.finish thread).sent =
        match (party.session.emit frame).1 with
        | .ok () => party.sent ++ [frame]
        | .error _ => party.sent := by
  rw [Session.emit]
  split
  · rename_i after written
    obtain ⟨session, sent, idle⟩ := proceed_written found written
    rw [finish, proceed_over (.inl idle), proceed_over (.inl idle), proceed_over (.inl idle)]
    exact ⟨session, sent⟩
  · rename_i cause after broken
    obtain ⟨session, sent, marks⟩ := proceed_broken found broken
    obtain ⟨marked, sent_marked, unlinks⟩ := proceed_mark marks
    obtain ⟨unlinked, sent_unlinked, idle⟩ := proceed_unlink unlinks
    rw [finish, proceed_over (.inl idle), unlinked, marked, session, sent_unlinked, sent_marked,
      sent]
    exact ⟨rfl, rfl⟩

/-- Writing a frame and closing the connection without interruption. -/
theorem finish_send_unlink {frame : Frame}
    (found : party.threads[thread]? = some [.send frame, .unlink]) :
    (party.finish thread).session = (party.session.emit frame).2.closeLink := by
  rw [Session.emit]
  split
  · rename_i after written
    obtain ⟨session, -, unlinks⟩ := proceed_written found written
    obtain ⟨unlinked, -, idle⟩ := proceed_unlink unlinks
    rw [finish, proceed_over (.inl idle), proceed_over (.inl idle), unlinked, session]
  · rename_i cause after broken
    obtain ⟨session, -, marks⟩ := proceed_broken found broken
    obtain ⟨marked, -, unlinks⟩ := proceed_mark marks
    obtain ⟨unlinked, -, unlinks_again⟩ := proceed_unlink unlinks
    obtain ⟨unlinked_again, -, _⟩ := proceed_unlink unlinks_again
    rw [finish, unlinked_again, unlinked, marked, session]
    rfl

theorem begin_thread (party : Party) (tasks : List Task) :
    (party.begin tasks).threads[party.threads.length]? = some tasks := by
  simp [begin]

theorem no_thread (party : Party) : party.threads[party.threads.length]? = none := by simp

/-- Opening a stream without interruption. -/
theorem openStream_finish (party : Party) :
    (party.openStream.finish party.threads.length).session = party.session.openStream.2 := by
  rw [openStream, Session.openStream]
  rcases party.session.table.reserve_cases with ⟨error, refused⟩ | reserved
  · rw [refused]
    exact congrArg session (finish_over (.inr party.no_thread))
  · rw [reserved]
    exact (finish_send (begin_thread _ _)).1

/-- Writing to a stream without interruption: the bytes which are taken are sent in one frame. -/
theorem write_finish {party : Party} {id : UInt32} (held : id ∈ party.held) (bytes : Bytes) :
    ((party.write id bytes).finish party.threads.length).session =
        (party.session.write id bytes).2 ∧
      ((party.write id bytes).finish party.threads.length).sent =
        match (party.session.write id bytes).1 with
        | .ok size => party.sent ++ [{ kind := .data, id, payload := bytes.take size }]
        | .error _ => party.sent := by
  rw [write, if_pos held]
  split
  · rename_i possible
    have size_eq : bytes.take (bytes.take maximumPayload).length = bytes.take maximumPayload := by
      rw [List.length_take, ← List.take_eq_take_min]
    obtain ⟨session, sent⟩ := finish_send (begin_thread
      { party with session := party.session.pace (bytes.take maximumPayload).length }
      [.send { kind := .data, id, payload := bytes.take maximumPayload }])
    rw [session, sent, Session.write_eq possible]
    simp only [begin]
    obtain ⟨result, after⟩ := (party.session.pace (bytes.take maximumPayload).length).emit
      { kind := .data, id, payload := bytes.take maximumPayload }
    cases result with
    | ok => exact ⟨rfl, by simp only [size_eq]⟩
    | error error => exact ⟨rfl, rfl⟩
  · rename_i error refused
    rw [finish_over (.inr party.no_thread), Session.write, refused]
    exact ⟨rfl, rfl⟩

/-- Closing a stream without interruption. -/
theorem closeStream_finish {party : Party} {id : UInt32} (held : id ∈ party.held) :
    ((party.closeStream id).finish party.threads.length).session =
      (party.session.closeStream id).2 := by
  rw [closeStream, if_pos held, Session.closeStream]
  obtain ⟨tell, table⟩ := party.session.table.closeStream id
  cases tell
  · exact congrArg session (finish_over (.inl (begin_thread _ _)))
  · exact (finish_send (begin_thread _ _)).1

/-- Closing the session without interruption. -/
theorem close_finish (party : Party) (code : CloseCode) (reason : String) :
    ((party.close code reason).finish party.threads.length).session =
      party.session.close code reason := by
  rw [close, Session.close]
  cases party.session.table.closed with
  | some _ => exact congrArg session (finish_over (.inr party.no_thread))
  | none => exact finish_send_unlink (begin_thread _ _)

/-- A reader which is not interrupted closes the connection as soon as it stops. -/
theorem settle_finish {party : Party} {after : Session}
    (change : (after.reading = true ∧ after.link = party.session.link) ∨
      ∃ before : Session, before.link = party.session.link ∧ after = before.closeLink) :
    ((party.settle after).finish party.threads.length).session = after := by
  rcases change with ⟨reading, link⟩ | ⟨before, link, rfl⟩
  · rw [settle, if_pos reading, finish_over (.inr (no_thread _)), ← link]
  · have stopped : ¬before.closeLink.reading = true := Bool.false_ne_true
    obtain ⟨unlinked, -, idle⟩ := proceed_unlink (begin_thread
      { party with session := { before.closeLink with link := party.session.link } } [.unlink])
    rw [settle, if_neg stopped, finish, proceed_over (.inl idle), proceed_over (.inl idle),
      proceed_over (.inl idle), unlinked, ← link]
    rfl

theorem arrive_finish {party : Party} (reading : party.session.reading = true) (incoming : Bytes)
    (count : Nat) :
    ((party.arrive incoming count).finish party.threads.length).session =
      party.session.arrive ((incoming.drop party.taken).take count) := by
  rw [arrive, if_pos reading]
  refine settle_finish ?_
  rw [Session.arrive_eq reading]
  dsimp only
  split
  · refine .inr ⟨_, ?_, rfl⟩
    rfl
  · exact .inl ⟨reading, rfl⟩

theorem lose_finish {party : Party} (reading : party.session.reading = true) (cause : IoError) :
    ((party.lose cause).finish party.threads.length).session = party.session.lose cause := by
  rw [lose, if_pos reading]
  refine settle_finish ?_
  rw [Session.lose, if_pos reading]
  split
  · exact .inl ⟨reading, rfl⟩
  · refine .inr ⟨_, ?_, rfl⟩
    rfl

end Party
end Mux
end TunnelProxy
