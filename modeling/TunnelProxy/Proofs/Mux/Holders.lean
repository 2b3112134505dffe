import TunnelProxy.Mux.Holder
import TunnelProxy.Proofs.Mux.Closing
import TunnelProxy.Proofs.Mux.Ends

/-!
# Streams and those who hold them

The table of an open session keeps a stream exactly as long as somebody can get it or has got it and
neither closed it nor given it up.  A stream is got once and finished once, however often it is closed
before it is given up, because the first time makes the table forget it.
-/

namespace TunnelProxy
namespace Mux

/-! ## Uses of a session -/

/-- What can be done to a stream as long as the whole or a half is held. -/
inductive StreamUse where
  /-- Bytes are read. -/
  | read (count : Nat)
  /-- Exactly so many bytes are read. -/
  | readExactly (count : Nat)
  /-- Bytes are written once. -/
  | write (bytes : Bytes)
  /-- Bytes are written completely. -/
  | send (bytes : Bytes)
  /-- The time of reads is limited. -/
  | setLimit (limit : Option Nat)

/-- What is done to a stream is done to the session. -/
def StreamUse.operation (id : UInt32) : StreamUse → Operation
  | .read count => .read id count
  | .readExactly count => .readExactly id count
  | .write bytes => .write id bytes
  | .send bytes => .send id bytes
  | .setLimit limit => .setLimit id limit

/-- What can happen to a session the streams of which are held. -/
inductive Use where
  /-- A stream is opened. -/
  | openStream
  /-- A stream is accepted. -/
  | accept
  /-- Something is done to a stream, through the whole or through a half. -/
  | stream (index : Nat) (half : Bool) (use : StreamUse)
  /-- A stream is closed and held further. -/
  | close (index : Nat)
  /-- A stream is given up. -/
  | release (index : Nat)
  /-- A stream is split. -/
  | split (index : Nat)
  /-- The halves of a stream are given up. -/
  | releaseHalves (index : Nat)
  /-- The session is paced, which changes when its frames leave and nothing else. -/
  | setPacing (pacing : Pacing)
  /-- The session is closed. -/
  | closeSession (code : CloseCode) (reason : String)
  /-- A frame has arrived. -/
  | receive (frame : RawFrame)
  /-- Nothing more arrives. -/
  | lose (cause : IoError)
  /-- The connection fails for writers after so many bytes more. -/
  | sever (count : Nat) (kind : IoKind)

namespace Holder

/-- The streams which were ever got, in order. -/
def got (holder : Holder) : List UInt32 := holder.holdings.toList.map Holding.id

/-- What a use does to the session, if it does anything. -/
def operation? (holder : Holder) : Use → Option Operation
  | .openStream => some .openStream
  | .accept => some .accept
  | .stream index half use => (holder.id? index half).map fun id => use.operation id
  | .close index | .release index => (holder.id? index false).map Operation.closeStream
  | .split _ | .releaseHalves _ => none
  | .setPacing pacing => some (.setPacing pacing)
  | .closeSession code reason => some (.close code reason)
  | .receive frame => some (.receive frame)
  | .lose cause => some (.lose cause)
  | .sever count kind => some (.sever count kind)

/-- What is held after a use. -/
def after (holder : Holder) : Use → Holder
  | .openStream => holder.openStream.2
  | .accept => holder.accept.2
  | .stream index half use =>
      match use with
      | .read count => (holder.apply index half fun session id => session.read id count).2
      | .readExactly count =>
          (holder.apply index half fun session id => session.readExactly id count).2
      | .write bytes => (holder.apply index half fun session id => session.write id bytes).2
      | .send bytes => (holder.apply index half fun session id => session.send id bytes).2
      | .setLimit limit =>
          (holder.apply index half fun session id => ((), session.setLimit id limit)).2
  | .close index => (holder.close index).2
  | .release index => (holder.release index).2
  | .split index => (holder.split index).2
  | .releaseHalves index => (holder.releaseHalves index).2
  | .setPacing _ => holder
  | .closeSession code reason => { holder with session := holder.session.close code reason }
  | .receive frame => { holder with session := holder.session.receive frame }
  | .lose cause => { holder with session := holder.session.lose cause }
  | .sever count kind =>
      { holder with session := { holder.session with link := holder.session.link.sever count kind } }

section Uses

variable {holder : Holder}

theorem got_modify (holder : Holder) (index : Nat) (change : Holding → Holding)
    (same : ∀ holding, (change holding).id = holding.id) :
    { holder with holdings := holder.holdings.modify index change }.got = holder.got := by
  refine List.ext_getElem? fun position => ?_
  simp only [got, Array.toList_modify, List.getElem?_map, List.getElem?_modify]
  cases holder.holdings.toList[position]? with
  | none => rfl
  | some holding =>
      by_cases here : index = position
      · simp [here, same]
      · simp [here]

theorem mem_got_of_id? {index : Nat} {half : Bool} {id : UInt32}
    (found : holder.id? index half = some id) : id ∈ holder.got := by
  rw [id?] at found
  cases there : holder.holdings[index]? with
  | none =>
      rw [there] at found
      cases found
  | some holding =>
      rw [there] at found
      simp only [Option.ite_none_right_eq_some, Option.some.injEq] at found
      have among := Array.mem_of_getElem? there
      exact List.mem_map.mpr ⟨holding, Array.mem_toList_iff.mpr among, found.2⟩

/-- Something is done to the session through a stream only if it is held. -/
theorem apply_snd {α : Type} (holder : Holder) (index : Nat) (half : Bool)
    (action : Session → UInt32 → α × Session) :
    (holder.apply index half action).2 = { holder with
      session := ((holder.id? index half).map fun id => (action holder.session id).2).getD
        holder.session } := by
  rw [apply]
  cases holder.id? index half <;> rfl

theorem take_ok (holder : Holder) (id : UInt32) :
    (holder.take (.ok id)).got = holder.got ++ [id] := by
  simp [take, got]

/-- A use does one thing to the session, or nothing. -/
theorem session_after (holder : Holder) (use : Use) :
    (holder.after use).session =
      ((holder.operation? use).map holder.session.after).getD holder.session := by
  have taken (holder : Holder) (result : Except Error UInt32) :
      (holder.take result).session = holder.session := by
    cases result <;> rfl
  cases use with
  | openStream => exact taken _ _
  | accept =>
      rw [after, accept, operation?, Option.map_some, Option.getD_some, Session.after]
      split <;> rename_i accepted <;> rw [accepted]
      exact taken _ _
  | stream index half use =>
      rw [operation?, Option.map_map]
      cases use <;> exact congrArg Holder.session (holder.apply_snd index half _)
  | close index =>
      rw [operation?, Option.map_map]
      exact congrArg Holder.session (holder.apply_snd index false _)
  | release index =>
      rw [operation?, Option.map_map]
      exact congrArg Holder.session (holder.apply_snd index false Session.closeStream)
  | split index =>
      rw [after, split]
      cases holder.id? index false <;> rfl
  | releaseHalves _ | setPacing _ | closeSession _ _ | receive _ | lose _ | sever _ _ => rfl

/-- Only opening and accepting give streams, and none is ever taken off the list. -/
theorem got_after (holder : Holder) (use : Use) :
    (holder.after use).got =
      holder.got ++ ((holder.operation? use).map holder.session.gets).getD [] := by
  have nothing {later : Holder} (same : later.got = holder.got) : later.got = holder.got ++ [] := by
    rw [same, List.append_nil]
  have acted {α : Type} (index : Nat) (half : Bool) (action : Session → UInt32 → α × Session) :
      (holder.apply index half action).2.got = holder.got := by
    rw [apply_snd]
    rfl
  cases use with
  | openStream =>
      rw [after, openStream, operation?, Option.map_some, Option.getD_some, Session.gets]
      rcases holder.session.openStream with ⟨id | error, session⟩
      · exact nothing rfl
      · exact take_ok _ _
  | accept =>
      rw [after, accept, operation?, Option.map_some, Option.getD_some, Session.gets]
      split
      · rename_i waiting
        rw [waiting]
        exact nothing rfl
      · rename_i result session accepted
        rw [accepted]
        cases result with
        | ok id => exact take_ok _ id
        | error error => exact nothing rfl
  | stream index half use =>
      have silent (id : UInt32) : holder.session.gets (use.operation id) = [] := by
        cases use <;> rfl
      have none_got : ((holder.operation? (.stream index half use)).map holder.session.gets).getD []
          = [] := by
        rw [operation?, Option.map_map]
        cases holder.id? index half with
        | none => rfl
        | some id => exact silent id
      rw [none_got]
      cases use <;> exact nothing (acted index half _)
  | close index =>
      rw [operation?, Option.map_map]
      cases holder.id? index false <;> exact nothing (acted index false _)
  | release index =>
      have released : (holder.after (.release index)).got = holder.got :=
        (got_modify (holder.close index).2 index (fun holding => { holding with held := false })
          fun _ => rfl).trans (acted index false Session.closeStream)
      rw [operation?, Option.map_map]
      cases holder.id? index false <;> exact nothing released
  | split index =>
      rw [after, split]
      cases holder.id? index false with
      | none => exact nothing rfl
      | some id => exact nothing (got_modify holder index _ fun _ => rfl)
  | releaseHalves index => exact nothing (got_modify holder index _ fun _ => rfl)
  | setPacing _ | closeSession _ _ | receive _ | lose _ | sever _ _ => exact nothing rfl

end Uses

end Holder

/-! ## What an open session has written -/

/-- The streams which some frames finish. -/
def finishes (frames : List Frame) : List UInt32 :=
  (frames.filter fun frame => frame.kind = .fin).map Frame.id

theorem finishes_append (first second : List Frame) :
    finishes (first ++ second) = finishes first ++ finishes second := by
  simp [finishes]

/-- The streams of which an operation tells the other side that they are finished. -/
def Table.tells (table : Table) : Operation → List UInt32
  | .closeStream id => if (table.closeStream id).1 then [id] else []
  | _ => []

theorem Table.closed_markClosed_ne_none (table : Table) (code : CloseCode) (reason : String) :
    (table.markClosed code reason).closed ≠ none := by
  rw [markClosed]
  cases closed : table.closed <;> simp [closed]

namespace Session

/-- As long as a session is open, what it adds to the connection are whole frames, which finish some
streams. -/
def Adds (keystream : Option Keystream) (finished : List UInt32) (before after : Session) : Prop :=
  after.table.closed = none →
    ∃ frames, (∀ frame ∈ frames, frame.Fits) ∧ finishes frames = finished ∧
      after.output keystream = before.output keystream ++ layouts frames

variable {keystream : Option Keystream} {taken : Nat} {session before after : Session}

theorem Adds.nothing (same : after.link.written = before.link.written) :
    Adds keystream [] before after := by
  refine fun _ => ⟨[], nofun, rfl, ?_⟩
  rw [output, output, same]
  exact (List.append_nil _).symm

theorem Adds.of_closed {finished : List UInt32} (closed : after.table.closed ≠ none) :
    Adds keystream finished before after :=
  fun opened => absurd opened closed

theorem Adds.trans {first second : List UInt32} {middle : Session}
    (near : Adds keystream first before middle) (far : Adds keystream second middle after)
    (opened : after.table.closed = none → middle.table.closed = none) :
    Adds keystream (first ++ second) before after := by
  intro still
  obtain ⟨front, front_fits, front_finishes, front_output⟩ := near (opened still)
  obtain ⟨back, back_fits, back_finishes, back_output⟩ := far still
  refine ⟨front ++ back, List.forall_mem_append.mpr ⟨front_fits, back_fits⟩, ?_, ?_⟩
  · rw [finishes_append, front_finishes, back_finishes]
  · rw [back_output, front_output, layouts, layouts, layouts, List.flatMap_append,
      List.append_assoc]

/-- A session which is open after an operation was open before. -/
theorem open_of_after (operation : Operation)
    (opened : (session.after operation).table.closed = none) : session.table.closed = none := by
  cases closed : session.table.closed with
  | none => rfl
  | some cause =>
      rw [(after_closed closed operation).1] at opened
      cases opened

theorem emit_of_open {frame : Frame} (opened : (session.emit frame).2.table.closed = none) :
    (session.emit frame).1 = .ok () := by
  rw [emit] at opened ⊢
  split at opened
  · rfl
  · exact absurd opened (Table.closed_markClosed_ne_none _ _ _)

/-- A stream is opened unless the session is closed, perhaps by announcing the stream. -/
theorem openStream_of_open (opened : session.openStream.2.table.closed = none) :
    session.openStream.1 = .ok session.table.nextId := by
  have before : session.table.closed = none := open_of_after .openStream opened
  rw [openStream, Table.reserve, Table.closedError?, before] at opened ⊢
  simp only [Option.map_none] at opened ⊢
  rw [emit_of_open opened]
  rfl

/-- A frame is written completely, or the session is closed. -/
theorem Aligned.emit_adds (aligned : session.Aligned keystream taken) {frame : Frame}
    (fits : frame.Fits) : Adds keystream (finishes [frame]) session (session.emit frame).2 := by
  obtain ⟨result, link, mask, transmitted, -, transmits⟩ :=
    transmit_spec aligned frame.layout_ne_nil
  rw [Session.emit, transmitted]
  cases transmits with
  | all _ _ written =>
      refine fun _ => ⟨[frame], List.forall_mem_singleton.mpr fits, rfl, written.trans ?_⟩
      rw [layouts, List.flatMap_singleton]
  | part error _ front back => exact .of_closed (Table.closed_markClosed_ne_none _ _ _)

theorem Aligned.write_adds (aligned : session.Aligned keystream taken) (id : UInt32)
    (bytes : Bytes) : Adds keystream [] session (session.write id bytes).2 := by
  cases possible : session.table.checkWrite id with
  | error error =>
      rw [Session.write, possible]
      exact .nothing rfl
  | ok _ =>
      have paced : (session.pace (bytes.take maximumPayload).length).Aligned keystream taken :=
        aligned
      have fits : Frame.Fits { kind := .data, id, payload := bytes.take maximumPayload } :=
        List.length_take_le _ _
      have emitted : Adds keystream [] session _ := paced.emit_adds fits
      rw [write_eq possible]
      dsimp only
      split <;> (rename_i sent; rw [sent] at emitted; exact emitted)

theorem Aligned.send_adds (aligned : session.Aligned keystream taken) (id : UInt32)
    (bytes : Bytes) : Adds keystream [] session (session.send id bytes).2 := by
  rw [Session.send]
  split
  · rename_i outcome sent
    refine (sendAll_keeps (fun state => state.Aligned keystream taken ∧ Adds keystream [] session state)
      (fun state bytes kept => ⟨kept.1.write id bytes, ?_⟩) ⟨aligned, .nothing rfl⟩ sent).2
    exact kept.2.trans (kept.1.write_adds id bytes) fun opened =>
      open_of_after (.write id bytes) opened
  · exact .nothing rfl

/-- Only closing a stream tells the other side that it is finished. -/
theorem Aligned.adds_after (aligned : session.Aligned keystream taken) (operation : Operation) :
    Adds keystream (session.table.tells operation) session (session.after operation) := by
  cases operation with
  | openStream =>
      rcases session.openStream_cases with ⟨cause, -, refused⟩ | ⟨-, opens⟩
      · rw [Session.after, refused]
        exact .nothing rfl
      · rw [Session.after, opens]
        exact (aligned.with_table _).emit_adds (Nat.zero_le _)
  | write id bytes => exact aligned.write_adds id bytes
  | send id bytes => exact aligned.send_adds id bytes
  | closeStream id =>
      rw [Session.after, closeStream, Table.tells]
      rcases session.table.closeStream id with ⟨_ | _, table⟩
      · exact .nothing rfl
      · exact (aligned.with_table table).emit_adds (Nat.zero_le _)
  | close code reason =>
      rw [Session.after]
      cases closed : session.table.closed with
      | none =>
          have marked := Table.closed_markClosed_ne_none session.table code reason
          rw [close_of_open session closed]
          refine .of_closed fun opened => ?_
          cases emit_breaks { session with table := session.table.markClosed code reason }
            (.closing code reason) with
          | same same => exact marked (same.symm.trans opened)
          | broken unmarked => exact marked unmarked
      | some cause =>
          obtain ⟨code, reason⟩ := cause
          rw [close_of_closed closed]
          exact .nothing rfl
  | receive frame =>
      rw [Session.after, receive]
      split
      · exact .nothing rfl
      · split <;> exact .nothing rfl
  | lose cause =>
      rw [Session.after, lose]
      split_ifs <;> exact .nothing rfl
  | accept | read _ _ | readExactly _ _ | setLimit _ _ | setPacing _ | sever _ _ =>
      exact .nothing rfl

end Session

/-! ## Histories of streams -/

/-- The streams of a session, those who hold them, and what has become of the streams. -/
structure Usage where
  /-- The session and the streams which were got. -/
  holder : Holder
  /-- The streams which were announced here, in order. -/
  opened : List UInt32 := []
  /-- The streams which the other side has announced, in order. -/
  received : List UInt32 := []
  /-- The streams which were closed or given up, in the order in which this was first done. -/
  returned : List UInt32 := []

namespace Usage

/-- A new session, nothing of which has been used. -/
def start (remote : Net.SocketAddress) (dialed : Bool) (keystream : Option Keystream)
    (link : Endpoint) : Usage where
  holder := { session := .start remote dialed keystream link }

/-- The streams which were got and have been neither closed nor given up. -/
def kept (usage : Usage) : List UInt32 := usage.holder.got.filter (· ∉ usage.returned)

/-- The streams which an operation returns for the first time. -/
def returns (usage : Usage) : Operation → List UInt32
  | .closeStream id => if id ∈ usage.returned then [] else [id]
  | _ => []

/-- What holds after a use. -/
def after (usage : Usage) (use : Use) : Usage :=
  match usage.holder.operation? use with
  | none => { usage with holder := usage.holder.after use }
  | some operation =>
      { holder := usage.holder.after use
        opened := usage.opened ++ usage.holder.session.table.opens operation
        received := usage.received ++ usage.holder.session.table.receives operation
        returned := usage.returned ++ usage.returns operation }

/-- What holds after some uses. -/
def run (usage : Usage) (uses : List Use) : Usage := uses.foldl after usage

theorem run_concat (usage : Usage) (uses : List Use) (use : Use) :
    usage.run (uses ++ [use]) = (usage.run uses).after use :=
  List.foldl_concat ..

end Usage

/-- What holds after an operation if streams which are closed are counted on. -/
def Users.retain (users : Users) (operation : Operation) : Users :=
  { users.after operation with handles := users.handles ++ users.session.gets operation }

namespace Users

variable {users : Users} {operation : Operation}

theorem retain_eq_after (kept : ∀ id, operation ≠ .closeStream id) :
    users.retain operation = users.after operation := by
  cases operation with
  | closeStream id => exact absurd rfl (kept id)
  | _ => rfl

theorem live_retain_closeStream (users : Users) (id : UInt32) :
    (users.retain (.closeStream id)).live = users.live := by
  have queue := (users.session.after_sameStreams (.closeStream id)).queue
  refine Eq.trans ?_ (congrArg (users.session.table.queue ++ ·) (List.append_nil users.handles))
  exact congrArg (· ++ (users.handles ++ [])) queue

theorem Counted.retain {dialed : Bool} (counted : users.Counted dialed) (operation : Operation) :
    (users.retain operation).Counted dialed := by
  have next := counted.after operation
  refine { next with live := fun id => ?_ }
  by_cases closes : ∃ stream, operation = .closeStream stream
  · obtain ⟨stream, rfl⟩ := closes
    have announced_eq : (users.retain (.closeStream stream)).opened ++
        (users.retain (.closeStream stream)).received =
          (users.opened ++ []) ++ (users.received ++ []) := rfl
    rw [live_retain_closeStream, announced_eq, List.append_nil, List.append_nil]
    exact counted.live id
  · rw [retain_eq_after fun stream same => closes ⟨stream, same⟩]
    exact next.live id

/-- What is announced comes into use as long as the session is open. -/
theorem brings_of_announced {id : UInt32}
    (opened : (users.session.after operation).table.closed = none)
    (announced : users.session.table.announces operation = some id) :
    id ∈ users.brings operation := by
  cases operation with
  | openStream =>
      rw [Table.announces] at announced
      split_ifs at announced
      rw [brings, Session.gets, Session.openStream_of_open opened]
      exact List.mem_singleton.mpr (Option.some.inj announced).symm
  | receive frame =>
      rw [brings, Table.receives, announced]
      exact List.mem_singleton_self id
  | _ => cases announced

end Users

namespace Usage

variable {dialed : Bool} {keystream : Option Keystream} {usage : Usage}

/-- The session and the streams which were got or announced. -/
def users (usage : Usage) : Users where
  session := usage.holder.session
  handles := usage.holder.got
  opened := usage.opened
  received := usage.received

theorem users_after (usage : Usage) (use : Use) :
    (usage.after use).users =
      ((usage.holder.operation? use).map usage.users.retain).getD usage.users := by
  have session := usage.holder.session_after use
  have got := usage.holder.got_after use
  rw [after]
  cases does : usage.holder.operation? use with
  | none =>
      rw [does] at session got
      simp only [users, session, got, Option.map_none, Option.getD_none, List.append_nil]
  | some operation =>
      rw [does] at session got
      simp only [users, session, got, Option.map_some, Option.getD_some]
      rfl

theorem returned_after (usage : Usage) (use : Use) :
    (usage.after use).returned =
      usage.returned ++ ((usage.holder.operation? use).map usage.returns).getD [] := by
  rw [after]
  cases usage.holder.operation? use with
  | none => exact (List.append_nil _).symm
  | some operation => rfl

theorem open_of_after {use : Use}
    (opened : (usage.after use).holder.session.table.closed = none) :
    usage.holder.session.table.closed = none := by
  have session : (usage.after use).holder.session = (usage.after use).users.session := rfl
  rw [session, users_after] at opened
  cases does : usage.holder.operation? use with
  | none =>
      rw [does] at opened
      exact opened
  | some operation =>
      rw [does] at opened
      exact Session.open_of_after operation opened

/-- What was announced stays so. -/
theorem nodup_announced_of_after {use : Use}
    (once : ((usage.after use).opened ++ (usage.after use).received).Nodup) :
    (usage.opened ++ usage.received).Nodup := by
  refine List.Nodup.sublist ?_ once
  rw [after]
  cases usage.holder.operation? use with
  | none => exact List.Sublist.refl _
  | some operation => exact (List.sublist_append_left _ _).append (List.sublist_append_left _ _)

/-- Only streams which were got are closed. -/
theorem mem_got_of_closes {use : Use} {id : UInt32}
    (closes : usage.holder.operation? use = some (.closeStream id)) : id ∈ usage.holder.got := by
  cases use with
  | close index | release index =>
      obtain ⟨stream, held, same⟩ := Option.map_eq_some_iff.mp closes
      cases same
      exact Holder.mem_got_of_id? held
  | stream index half use =>
      obtain ⟨stream, -, same⟩ := Option.map_eq_some_iff.mp closes
      cases use <;> cases same
  | _ => cases closes

/-- Only streams which were got are returned. -/
theorem returns_subset {use : Use} {operation : Operation}
    (does : usage.holder.operation? use = some operation) :
    usage.returns operation ⊆ usage.holder.got := by
  intro id now
  cases operation with
  | closeStream stream =>
      rw [returns] at now
      split_ifs at now
      · cases now
      · obtain rfl := List.mem_singleton.mp now
        exact mem_got_of_closes does
  | _ => cases now

/-- A stream is returned for the first time once. -/
theorem nodup_returned (once : usage.returned.Nodup) (operation : Operation) :
    (usage.returned ++ usage.returns operation).Nodup := by
  cases operation with
  | closeStream stream =>
      rw [returns]
      split_ifs with before
      · simpa using once
      · exact List.nodup_append.mpr ⟨once, List.nodup_singleton _, by grind⟩
  | _ => simpa [returns] using once

/-! ## What a history keeps -/

/-- What is known of every history. -/
structure Traced (dialed : Bool) (keystream : Option Keystream) (usage : Usage) : Prop where
  /-- What is kept, waits or was got had been announced. -/
  counted : usage.users.Counted dialed
  /-- The obfuscation of the connection is where the connection is. -/
  aligned : usage.holder.session.Aligned keystream 0
  /-- No stream which is kept was closed here. -/
  live : usage.holder.session.table.Live
  /-- What was returned had been got. -/
  returned : usage.returned ⊆ usage.holder.got
  /-- Nothing is returned for the first time twice. -/
  once : usage.returned.Nodup

theorem Traced.after (traced : usage.Traced dialed keystream) (use : Use) :
    (usage.after use).Traced dialed keystream := by
  have users := usage.users_after use
  have session : (usage.after use).holder.session = (usage.after use).users.session := rfl
  have got : (usage.after use).holder.got = (usage.after use).users.handles := rfl
  have returned := usage.returned_after use
  cases does : usage.holder.operation? use with
  | none =>
      simp only [does, Option.map_none, Option.getD_none, List.append_nil] at users returned
      constructor
      · exact users ▸ traced.counted
      · exact session ▸ users ▸ traced.aligned
      · exact session ▸ users ▸ traced.live
      · exact returned ▸ got ▸ users ▸ traced.returned
      · exact returned ▸ traced.once
  | some operation =>
      simp only [does, Option.map_some, Option.getD_some] at users returned
      constructor
      · exact users ▸ traced.counted.retain operation
      · exact session ▸ users ▸ traced.aligned.after operation
      · rw [session, users]
        exact (usage.holder.session.after_sameStreams operation).live (traced.live.after operation)
      · rw [returned, got, users]
        refine List.append_subset.mpr ⟨?_, ?_⟩
        · exact List.subset_append_of_subset_left _ traced.returned
        · exact List.subset_append_of_subset_left _ (returns_subset does)
      · rw [returned]
        exact nodup_returned traced.once operation

theorem Traced.run (traced : usage.Traced dialed keystream) (uses : List Use) :
    (usage.run uses).Traced dialed keystream := by
  induction uses generalizing usage with
  | nil => exact traced
  | cons use uses ih => exact ih (traced.after use)

/-- No stream waits twice, is got twice, or waits after it was got, if no number is announced twice. -/
theorem Traced.nodup_live (traced : usage.Traced dialed keystream)
    (once : (usage.opened ++ usage.received).Nodup) : usage.users.live.Nodup :=
  List.nodup_iff_count_le_one.mpr fun id =>
    Nat.le_trans (traced.counted.live id) (List.nodup_iff_count_le_one.mp once id)

theorem traced_start (remote : Net.SocketAddress) (dialed : Bool) (keystream : Option Keystream)
    {link : Endpoint} (unused : link.pieces = []) :
    (start remote dialed keystream link).Traced dialed keystream where
  counted := Users.counted_start remote dialed keystream link
  aligned := Session.aligned_start remote dialed keystream unused
  live := fun _ _ => nofun
  returned := List.nil_subset _
  once := List.nodup_nil

/-- What is known of a history as long as the session is open and no number was announced twice. -/
structure Settled (keystream : Option Keystream) (usage : Usage) : Prop where
  /-- A stream is kept exactly if it waits or was got, and was not returned. -/
  known : ∀ id, usage.holder.session.table.find? id ≠ none ↔
    id ∈ usage.users.live ∧ id ∉ usage.returned
  /-- The streams which were returned were finished. -/
  written : ∃ sent, (∀ frame ∈ sent, frame.Fits) ∧ finishes sent = usage.returned ∧
    usage.holder.session.output keystream = layouts sent

section Settling

variable {operation : Operation} {id : UInt32}

theorem mem_returned_closeStream (usage : Usage) (stream : UInt32) :
    id ∈ usage.returned ++ usage.returns (.closeStream stream) ↔
      id ∈ usage.returned ∨ id = stream := by
  rw [returns]
  split_ifs with before
  · grind
  · grind

theorem returns_eq_nil (usage : Usage) (kept : ∀ id, operation ≠ .closeStream id) :
    usage.returns operation = [] := by
  cases operation with
  | closeStream id => exact absurd rfl (kept id)
  | _ => rfl

/-- Streams which come into use are kept, and those which are returned are forgotten. -/
theorem Settled.known_after (settled : usage.Settled keystream)
    (traced : usage.Traced dialed keystream)
    (opened : (usage.holder.session.after operation).table.closed = none)
    (single : (usage.users.retain operation).live.Nodup) :
    (usage.holder.session.after operation).table.find? id ≠ none ↔
      id ∈ (usage.users.retain operation).live ∧ id ∉ usage.returned ++ usage.returns operation := by
  have before := settled.known id
  rw [(usage.holder.session.after_sameStreams operation).find?_eq]
  by_cases closes : ∃ stream, operation = .closeStream stream
  · obtain ⟨stream, rfl⟩ := closes
    rw [Users.live_retain_closeStream, mem_returned_closeStream, not_or, Table.after,
      Table.find?_erase, ← and_assoc, ← before]
    by_cases here : id = stream <;> simp [here]
  · have kept (stream : UInt32) : operation ≠ .closeStream stream :=
      fun same => closes ⟨stream, same⟩
    have live := usage.users.live_after kept
    rw [Users.retain_eq_after kept] at single ⊢
    rw [returns_eq_nil usage kept, List.append_nil, live.mem_iff, List.mem_append]
    rw [live.nodup_iff, List.nodup_append] at single
    by_cases announced : usage.holder.session.table.announces operation = some id
    · have brought : id ∈ usage.users.brings operation :=
        Users.brings_of_announced opened announced
      have unreturned : id ∉ usage.returned := fun returned =>
        single.2.2 id brought id (List.mem_append_right _ (traced.returned returned)) rfl
      rw [Table.find?_after_announced announced]
      simp [brought, unreturned]
    · have unbrought : id ∉ usage.users.brings operation := fun brought => announced <|
        Table.announces_iff.mpr ((usage.users.brings_sublist operation).subset brought)
      rw [or_iff_right unbrought, ← before]
      cases known : usage.holder.session.table.find? id with
      | none => simp [Table.find?_after_unknown known announced]
      | some entry => simp [Table.find?_after known announced (kept id)]

/-- The other side is told of a stream exactly when it is first returned. -/
theorem Settled.tells_eq_returns (settled : usage.Settled keystream)
    (live : usage.holder.session.table.Live) (opened : usage.holder.session.table.closed = none)
    (got : ∀ id, operation = .closeStream id → id ∈ usage.holder.got) :
    usage.holder.session.table.tells operation = usage.returns operation := by
  cases operation with
  | closeStream id =>
      have among : id ∈ usage.users.live := List.mem_append_right _ (got id rfl)
      have known := settled.known id
      rw [and_iff_right among] at known
      rw [Table.tells, returns, Table.closeStream, opened]
      cases found : usage.holder.session.table.find? id with
      | none => simp_all
      | some entry => simp_all [live id entry found]
  | _ => rfl

theorem Settled.after (settled : usage.Settled keystream) (traced : usage.Traced dialed keystream)
    {use : Use} (opened : (usage.after use).holder.session.table.closed = none)
    (once : ((usage.after use).opened ++ (usage.after use).received).Nodup) :
    (usage.after use).Settled keystream := by
  have single := (traced.after use).nodup_live once
  have users := usage.users_after use
  have returned := usage.returned_after use
  have session : (usage.after use).holder.session = (usage.after use).users.session := rfl
  cases does : usage.holder.operation? use with
  | none =>
      simp only [does, Option.map_none, Option.getD_none, List.append_nil] at users returned
      rw [users] at session
      constructor
      · rw [users, returned, session]
        exact settled.known
      · rw [returned, session]
        exact settled.written
  | some operation =>
      simp only [does, Option.map_some, Option.getD_some] at users returned
      rw [users] at session single
      rw [session] at opened
      constructor
      · rw [users, returned, session]
        exact fun id => settled.known_after traced opened single
      · obtain ⟨sent, fits, finishes_sent, written⟩ := settled.written
        obtain ⟨frames, frames_fit, finishes_frames, adds⟩ :=
          traced.aligned.adds_after operation opened
        have tells := settled.tells_eq_returns traced.live (Session.open_of_after operation opened)
          fun id closes => mem_got_of_closes (does.trans (congrArg some closes))
        refine ⟨sent ++ frames, List.forall_mem_append.mpr ⟨fits, frames_fit⟩, ?_, ?_⟩
        · rw [finishes_append, finishes_sent, finishes_frames, tells, returned]
        · rw [session]
          refine adds.trans ?_
          rw [written, layouts, layouts, layouts, List.flatMap_append]

end Settling

theorem settled_start (remote : Net.SocketAddress) (dialed : Bool) (keystream : Option Keystream)
    {link : Endpoint} (unused : link.pieces = []) :
    (start remote dialed keystream link).Settled keystream where
  known id := by
    simp [start, users, Users.live, Holder.got, Session.start, Table.initial, Table.find?]
  written := by
    have nothing : link.written = [] := by rw [Endpoint.written, unused]; rfl
    refine ⟨[], List.forall_mem_nil _, rfl, ?_⟩
    change veil keystream 0 link.written = []
    rw [nothing]
    exact List.length_eq_zero_iff.mp (veil_length keystream 0 [])

theorem settled_run {remote : Net.SocketAddress} {link : Endpoint} (unused : link.pieces = [])
    {uses : List Use}
    (opened : ((start remote dialed keystream link).run uses).holder.session.table.closed = none)
    (once : (((start remote dialed keystream link).run uses).opened ++
      ((start remote dialed keystream link).run uses).received).Nodup) :
    ((start remote dialed keystream link).run uses).Settled keystream := by
  have traced := (traced_start remote dialed keystream unused).run
  induction uses using List.reverseRecOn with
  | nil => exact settled_start remote dialed keystream unused
  | append_singleton front use ih =>
      rw [run_concat] at opened once ⊢
      have earlier := ih (open_of_after opened) (nodup_announced_of_after once)
      exact earlier.after (traced front) opened once

end Usage

/-! ## Operations on other streams -/

/-- The stream which an operation is about. -/
def Table.concerns (table : Table) : Operation → Option UInt32
  | .openStream => some table.nextId
  | .read id _ | .readExactly id _ | .write id _ | .send id _ | .closeStream id | .setLimit id _ =>
      some id
  | .receive frame => some frame.id
  | .accept | .setPacing _ | .close _ _ | .lose _ | .sever _ _ => none

/-- The stream which a use is about. -/
def Holder.concerns (holder : Holder) (use : Use) : Option UInt32 :=
  (holder.operation? use).bind holder.session.table.concerns

section Others

variable {table : Table} {operation : Operation} {id : UInt32}

theorem StreamEntry.after_other (entry : StreamEntry) (closed : Bool)
    (other : table.concerns operation ≠ some id) : entry.after id closed operation = entry := by
  cases operation with
  | read stream count | readExactly stream count | setLimit stream limit =>
      exact if_neg fun (here : stream = id) => other (congrArg some here)
  | receive frame =>
      have silent (kind : FrameKind) : ¬frame.Tells kind id := fun told =>
        other (congrArg some told.2)
      rw [StreamEntry.after, if_neg (silent .data), if_neg (silent .fin)]
  | _ => rfl

theorem Table.concerns_of_announces (announced : table.announces operation = some id) :
    table.concerns operation = some id := by
  cases operation with
  | openStream | receive frame =>
      rw [announces] at announced
      split_ifs at announced
      exact announced
  | _ => cases announced

/-- An operation leaves what is kept of other streams as it is. -/
theorem Table.find?_after_other (other : table.concerns operation ≠ some id) :
    (table.after operation).find? id = table.find? id := by
  have unannounced : table.announces operation ≠ some id := fun announced =>
    other (concerns_of_announces announced)
  have kept : operation ≠ .closeStream id := fun closes => other (closes ▸ rfl)
  cases known : table.find? id with
  | none => exact find?_after_unknown known unannounced
  | some entry => rw [find?_after known unannounced kept, entry.after_other _ other]

theorem Holder.find?_after_other {holder : Holder} {use : Use}
    (other : holder.concerns use ≠ some id) :
    (holder.after use).session.table.find? id = holder.session.table.find? id := by
  rw [Holder.session_after]
  rw [concerns] at other
  cases does : holder.operation? use with
  | none => rfl
  | some operation =>
      rw [does] at other
      exact ((holder.session.after_sameStreams operation).find?_eq id).trans
        (Table.find?_after_other other)

end Others

/-! ## Order -/

/-- How the streams of a session and those who hold them fit together. -/
structure Orderly (keystream : Option Keystream) (usage : Usage) : Prop where
  /-- No stream waits twice to be accepted. -/
  queue : usage.holder.session.table.queue.Nodup
  /-- No stream is got twice. -/
  got : usage.holder.got.Nodup
  /-- A stream is kept exactly if it waits to be accepted, or was got and neither closed nor given
  up. -/
  known : ∀ id, usage.holder.session.table.find? id ≠ none ↔
    id ∈ usage.holder.session.table.queue ∨ id ∈ usage.kept
  /-- A stream which waits has never been got. -/
  apart : ∀ id ∈ usage.holder.session.table.queue, id ∉ usage.holder.got
  /-- No stream which is kept was closed here. -/
  live : ∀ id entry, usage.holder.session.table.find? id = some entry → entry.closedHere = false
  /-- Exactly the streams which were closed or given up were finished, in this order. -/
  finished : ∃ sent, (∀ frame ∈ sent, frame.Fits) ∧ finishes sent = usage.returned ∧
    usage.holder.session.output keystream = layouts sent
  /-- Each of them was finished once. -/
  once : usage.returned.Nodup
  /-- A use leaves what is kept of other streams as it is. -/
  others : ∀ use id, usage.holder.concerns use ≠ some id →
    (usage.after use).holder.session.table.find? id = usage.holder.session.table.find? id

/-- **Holding.**  In every run of a session which is still open, whatever is done with its streams, if
there are no more streams than numbers, and the other side announces only numbers of its own, and each of
them once. -/
theorem orderly_of_uses (remote : Net.SocketAddress) (dialed : Bool) (keystream : Option Keystream)
    {link : Endpoint} (unused : link.pieces = []) {uses : List Use} {usage : Usage}
    (run : (Usage.start remote dialed keystream link).run uses = usage)
    (bound : usage.opened.length ≤ maximumStreams) (once : usage.received.Nodup)
    (theirs : ∀ id ∈ usage.received, id.toNat % 2 = if dialed then 0 else 1)
    (opened : usage.holder.session.table.closed = none) : Orderly keystream usage := by
  subst run
  have traced := (Usage.traced_start remote dialed keystream unused).run uses
  have different := traced.counted.nodup bound once theirs
  have settled := Usage.settled_run unused opened different
  have single := traced.nodup_live different
  generalize (Usage.start remote dialed keystream link).run uses = usage at *
  obtain ⟨queue, got, apart⟩ := List.nodup_append.mp single
  have separate (id : UInt32) (waits : id ∈ usage.holder.session.table.queue) :
      id ∉ usage.holder.got := fun among => apart id waits id among rfl
  refine ⟨queue, got, fun id => ?_, separate, traced.live, settled.written, traced.once,
    fun use id other => ?_⟩
  · have unreturned (waits : id ∈ usage.holder.session.table.queue) : id ∉ usage.returned :=
      fun returned => separate id waits (traced.returned returned)
    have live : id ∈ usage.users.live ↔
      id ∈ usage.holder.session.table.queue ∨ id ∈ usage.holder.got := List.mem_append
    rw [settled.known, live, Usage.kept, List.mem_filter, decide_eq_true_iff]
    tauto
  · rw [← Holder.find?_after_other other, Usage.after]
    cases usage.holder.operation? use <;> rfl

/-- Two streams wait, one of them is accepted and closed twice, and then it is given up; another one is
opened. -/
theorem orderly_of_repeated_closing :
    ∃ usage : Usage,
      (Usage.start default false none {}).run
        [.receive ⟨0, 1, []⟩, .receive ⟨0, 3, []⟩, .accept, .close 0, .close 0, .openStream,
          .release 0] = usage ∧
      usage.holder.session.table.queue = [3] ∧ usage.kept = [2] ∧ usage.returned = [1] ∧
      usage.holder.session.link.written = [2, 0, 0, 0, 1, 0, 0, 0, 0, 0, 0, 2, 0, 0] ∧
      Orderly none usage := by
  have received : ((Usage.start default false none {}).run
      [.receive ⟨0, 1, []⟩, .receive ⟨0, 3, []⟩, .accept, .close 0, .close 0, .openStream,
        .release 0]).received = [1, 3] := by decide +kernel
  refine ⟨_, rfl, ?_, ?_, ?_, ?_, orderly_of_uses default false none rfl rfl ?_
    (by rw [received]; decide) (by rw [received]; simp) ?_⟩
  all_goals decide +kernel

end Mux
end TunnelProxy
