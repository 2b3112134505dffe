import TunnelProxy.Proofs.Mux.Ledger
import TunnelProxy.Proofs.Mux.Operations

/-!
# Announced streams

A stream is announced by a user who opens it or by a frame of the other side.  The table trusts every
announcement and forgets whatever it knew of a stream with the same number.  So streams stay apart
exactly as long as no number is announced while a stream with this number is still in use, and that is
up to the two sides: the numbers of one side have the same parity, and repeat after 2³¹ streams.
-/

namespace TunnelProxy
namespace Mux

/-! ## What operations do to a stream -/

/-- The stream which an operation announces. -/
def Table.announces (table : Table) : Operation → Option UInt32
  | .openStream => if table.closed = none then some table.nextId else none
  | .receive frame =>
      if FrameKind.ofByte? frame.kind = some .opening then some frame.id else none
  | _ => none

/-- The streams which an operation announces here. -/
def Table.opens (table : Table) : Operation → List UInt32
  | .openStream => (table.announces .openStream).toList
  | _ => []

/-- The streams which the other side announces by an operation. -/
def Table.receives (table : Table) : Operation → List UInt32
  | .receive frame => (table.announces (.receive frame)).toList
  | _ => []

theorem Table.announces_iff {table : Table} {operation : Operation} {id : UInt32} :
    table.announces operation = some id ↔ id ∈ table.opens operation ++ table.receives operation := by
  cases operation <;> simp [opens, receives, announces]

/-- A frame which arrives does to the streams what its kind says, unless it ends the session. -/
theorem Table.after_receive (table : Table) (frame : RawFrame) :
    (table.after (.receive frame) = table ∧ table.announces (.receive frame) = none) ∨
      ∃ kind, FrameKind.ofByte? frame.kind = some kind ∧
        table.after (.receive frame) = table.receive kind frame.id frame.payload := by
  rw [after, announces]
  cases known : FrameKind.ofByte? frame.kind with
  | none => exact .inl ⟨by split <;> rfl, if_neg (by simp)⟩
  | some kind =>
      cases ending : frame.ending? with
      | none => exact .inr ⟨kind, rfl, rfl⟩
      | some cause =>
          refine .inl ⟨rfl, if_neg fun opening => ?_⟩
          simp [RawFrame.ending?, known, Option.some.inj opening] at ending

/-- An operation reads a stream. -/
def Operation.Reads (id : UInt32) : Operation → Prop
  | .read stream _ | .readExactly stream _ => stream = id
  | _ => False

/-- What an operation leaves of what was kept of a stream. -/
structure Survives (session : Session) (operation : Operation) (id : UInt32)
    (before after : StreamEntry) : Prop where
  /-- The bytes of a stream which is not read are kept, and others may follow them. -/
  unread : ¬operation.Reads id → before.data <+: after.data
  /-- A read takes the bytes which it hands out. -/
  read : ∀ count, operation = .read id count →
    handed id (recorded id (session.read id count).1) ++ after.data = before.data
  /-- Reading exactly takes the bytes which it hands out, or all of them if there are not enough. -/
  readExactly : ∀ count, operation = .readExactly id count →
    match (session.readExactly id count).1 with
    | some (.ok bytes) => bytes ++ after.data = before.data
    | some (.error _) => after.data = []
    | none => after.data = before.data
  /-- A stream stays finished. -/
  finished : before.finished = true → after.finished = true
  /-- A stream stays closed or open here. -/
  closedHere : after.closedHere = before.closedHere
  /-- The time limit of reads stays unless it is set. -/
  limit : (∀ limit, operation ≠ .setLimit id limit) → after.limit = before.limit

/-- An operation which does not read a stream may leave it as it is. -/
theorem Survives.same {session : Session} {operation : Operation} {id : UInt32}
    (elsewhere : ¬operation.Reads id) (entry : StreamEntry) :
    Survives session operation id entry entry where
  unread _ := List.prefix_rfl
  read _ reads := absurd (reads ▸ rfl) elsewhere
  readExactly _ reads := absurd (reads ▸ rfl) elsewhere
  finished finished := finished
  closedHere := rfl
  limit _ := rfl

namespace Table

variable {table : Table} {id : UInt32} {entry : StreamEntry}

theorem find?_accept : table.accept.2.find? id = table.find? id := by
  rcases table.accept_cases with ⟨_, _, -, accepted⟩ | ⟨_, accepted, -⟩
  · rw [accepted]
    rfl
  · rw [accepted]

theorem find?_read_other {stream : UInt32} (other : id ≠ stream) (count : Nat) :
    (table.read stream count).2.find? id = table.find? id := by
  rcases table.read_table stream count with same | ⟨entry, inserted⟩
  · rw [same]
  · rw [inserted, find?_insert, if_neg other]

theorem find?_readExactly_other {stream : UInt32} (other : id ≠ stream) (count : Nat) :
    (table.readExactly stream count).2.find? id = table.find? id := by
  rcases table.readExactly_table stream count with same | ⟨entry, rest, -, inserted⟩
  · rw [same]
  · rw [inserted, find?_insert, if_neg other]

/-- A read leaves of a stream what it does not hand out. -/
theorem find?_read (found : table.find? id = some entry) (count : Nat) :
    ∃ rest, (table.read id count).2.find? id = some { entry with data := rest } ∧
      handed id (recorded id (table.read id count).1) ++ rest = entry.data := by
  by_cases empty : entry.data = []
  · rw [read_of_empty found empty]
    refine ⟨entry.data, found, ?_⟩
    split
    · simp [recorded, handed]
    · cases table.closedError? <;> simp [recorded, handed]
  · rw [read_of_data found empty]
    refine ⟨entry.data.drop count, (table.find?_insert _ _ _).trans (if_pos rfl), ?_⟩
    simp [recorded, handed]

/-- Reading exactly leaves of a stream what it does not hand out, or nothing if it fails. -/
theorem find?_readExactly (found : table.find? id = some entry) (count : Nat) :
    ∃ rest, (table.readExactly id count).2.find? id = some { entry with data := rest } ∧
      match (table.readExactly id count).1 with
      | some (.ok bytes) => bytes ++ rest = entry.data
      | some (.error _) => rest = []
      | none => rest = entry.data := by
  have put (rest : Bytes) :
      (table.insert id { entry with data := rest }).find? id = some { entry with data := rest } :=
    (table.find?_insert _ _ _).trans (if_pos rfl)
  simp only [readExactly, found]
  split_ifs
  · exact ⟨_, put _, List.take_append_drop _ _⟩
  · exact ⟨_, put _, rfl⟩
  · cases table.closedError? with
    | some error => exact ⟨_, put _, rfl⟩
    | none => exact ⟨_, found, rfl⟩

/-- What is announced is blank, whatever was kept of a stream with this number. -/
theorem find?_after_announced {operation : Operation}
    (announced : table.announces operation = some id) :
    (table.after operation).find? id = some {} := by
  cases operation with
  | openStream =>
      rw [announces] at announced
      split_ifs at announced with opened
      obtain rfl := Option.some.inj announced
      rw [after, reserve_of_open opened]
      exact (table.find?_insert _ _ _).trans (if_pos rfl)
  | receive frame =>
      rw [announces] at announced
      split_ifs at announced with opening
      obtain rfl := Option.some.inj announced
      rcases table.after_receive frame with ⟨-, none⟩ | ⟨kind, known, received⟩
      · rw [announces, if_pos opening] at none
        cases none
      · obtain rfl := Option.some.inj (opening.symm.trans known)
        rw [received]
        exact (table.find?_insert _ _ _).trans (if_pos rfl)
  | _ => cases announced

theorem find?_insert_unknown (unknown : table.find? id = none) {stream : UInt32} (other : id ≠ stream)
    (entry : StreamEntry) : (table.insert stream entry).find? id = none := by
  rw [find?_insert, if_neg other, unknown]

theorem find?_modify_unknown (unknown : table.find? id = none) (stream : UInt32)
    (change : StreamEntry → StreamEntry) : (table.modify stream change).find? id = none := by
  rw [find?_modify]
  split
  · rename_i here
    rw [← here, unknown, Option.map_none]
  · exact unknown

theorem find?_receive_unknown (unknown : table.find? id = none) {kind : FrameKind} {stream : UInt32}
    (other : kind = .opening → id ≠ stream) (payload : Bytes) :
    (table.receive kind stream payload).find? id = none := by
  cases kind with
  | opening => exact find?_insert_unknown unknown (other rfl) {}
  | data | fin => exact find?_modify_unknown unknown stream _
  | close => exact unknown

/-- Nothing is kept of a stream before it is announced. -/
theorem find?_after_unknown {operation : Operation} (unknown : table.find? id = none)
    (unannounced : table.announces operation ≠ some id) : (table.after operation).find? id = none := by
  cases operation with
  | openStream =>
      rw [after]
      cases closed : table.closed with
      | some cause => rw [reserve_of_closed closed, unknown]
      | none =>
          rw [announces, if_pos closed] at unannounced
          rw [reserve_of_open closed]
          exact find?_insert_unknown unknown (fun here => unannounced (here ▸ rfl)) {}
  | accept => exact find?_accept.trans unknown
  | read stream count =>
      rw [after]
      by_cases here : id = stream
      · rw [← here, read_of_missing unknown, unknown]
      · exact (find?_read_other here count).trans unknown
  | readExactly stream count =>
      rw [after]
      rcases table.readExactly_table stream count with same | ⟨entry, rest, found, inserted⟩
      · rw [same, unknown]
      · rw [inserted]
        refine find?_insert_unknown unknown (fun here => ?_) _
        rw [← here, unknown] at found
        cases found
  | closeStream stream =>
      rw [after, find?_erase, unknown, ite_self]
  | setLimit stream limit => exact find?_modify_unknown unknown stream _
  | receive frame =>
      rcases table.after_receive frame with ⟨same, -⟩ | ⟨kind, known, received⟩
      · rw [same, unknown]
      · rw [received]
        refine find?_receive_unknown unknown (fun opening here => unannounced ?_) frame.payload
        rw [announces, known, opening, if_pos rfl, here]
  | write _ _ | send _ _ | setPacing _ | close _ _ | lose _ | sever _ _ => exact unknown

/-- Only accepting and announcements of the other side change which streams wait to be accepted. -/
theorem after_queue (table : Table) {operation : Operation} (other : operation ≠ .accept) :
    (table.after operation).queue = table.queue ++ table.receives operation := by
  cases operation with
  | openStream =>
      refine Eq.trans ?_ (List.append_nil _).symm
      rw [after]
      rcases table.reserve_cases with ⟨error, refused⟩ | reserved
      · rw [refused]
      · rw [reserved]
        rfl
  | accept => exact absurd rfl other
  | read stream count => exact (read_queue _ _ _).trans (List.append_nil _).symm
  | readExactly stream count =>
      refine Eq.trans ?_ (List.append_nil _).symm
      rw [after]
      rcases table.readExactly_table stream count with same | ⟨entry, rest, -, inserted⟩
      · rw [same]
      · rw [inserted]
        rfl
  | setLimit stream limit => exact (modify_queue _ _ _).trans (List.append_nil _).symm
  | receive frame =>
      rw [receives]
      rcases table.after_receive frame with ⟨same, none⟩ | ⟨kind, known, received⟩
      · rw [same, none]
        exact (List.append_nil _).symm
      · rw [received, announces, known]
        cases kind with
        | opening => rfl
        | data | fin => exact (modify_queue _ _ _).trans (List.append_nil _).symm
        | close => exact (List.append_nil _).symm
  | closeStream _ | write _ _ | send _ _ | setPacing _ | close _ _ | lose _ | sever _ _ =>
      exact (List.append_nil _).symm

/-- Only opening a stream changes the number of the next one. -/
theorem after_nextId (table : Table) {operation : Operation} (other : operation ≠ .openStream) :
    (table.after operation).nextId = table.nextId := by
  cases operation with
  | openStream => exact absurd rfl other
  | accept =>
      rw [after]
      rcases table.accept_cases with ⟨_, _, -, accepted⟩ | ⟨_, accepted, -⟩ <;> rw [accepted]
  | read stream count => exact read_nextId _ _ _
  | readExactly stream count =>
      rw [after]
      rcases table.readExactly_table stream count with same | ⟨entry, rest, -, inserted⟩
      · rw [same]
      · rw [inserted]
        rfl
  | setLimit stream limit => exact modify_nextId _ _ _
  | receive frame =>
      rcases table.after_receive frame with ⟨same, -⟩ | ⟨kind, -, received⟩
      · rw [same]
      · rw [received]
        exact table.receiveFrame_nextId ⟨kind, frame.id, frame.payload⟩
  | closeStream _ | write _ _ | send _ _ | setPacing _ | close _ _ | lose _ | sever _ _ => rfl

/-- A stream which is announced here has the next number, which is not the next one any more. -/
theorem opens_cases (table : Table) (operation : Operation) :
    (table.opens operation = [table.nextId] ∧
        (table.after operation).nextId = table.nextId + 2) ∨
      (table.opens operation = [] ∧ (table.after operation).nextId = table.nextId) := by
  cases operation with
  | openStream =>
      rw [opens, announces, after]
      cases closed : table.closed with
      | some cause => exact .inr ⟨rfl, by rw [reserve_of_closed closed]⟩
      | none => exact .inl ⟨rfl, by rw [reserve_of_open closed]⟩
  | _ => exact .inr ⟨rfl, table.after_nextId (by simp)⟩

end Table

namespace Session

variable {session : Session} {id : UInt32} {entry : StreamEntry} {operation : Operation}

/-- Whatever was kept of a stream survives unless it is announced again or closed. -/
theorem survives (found : session.table.find? id = some entry)
    (unannounced : session.table.announces operation ≠ some id)
    (kept : operation ≠ .closeStream id) :
    ∃ later, (session.after operation).table.find? id = some later ∧
      Survives session operation id entry later := by
  have same (elsewhere : ¬operation.Reads id) : Survives session operation id entry entry :=
    .same elsewhere entry
  rw [(session.after_sameStreams operation).find?_eq]
  cases operation with
  | openStream =>
      refine ⟨entry, ?_, same not_false⟩
      rw [Table.after]
      cases closed : session.table.closed with
      | some cause => rw [Table.reserve_of_closed closed, found]
      | none =>
          rw [Table.announces, if_pos closed] at unannounced
          rw [Table.reserve_of_open closed]
          refine Eq.trans (session.table.find?_insert _ _ _) ?_
          rw [if_neg fun (same : id = _) => unannounced (same ▸ rfl), found]
  | accept => exact ⟨entry, Table.find?_accept.trans found, same not_false⟩
  | read stream count =>
      rw [Table.after]
      by_cases here : id = stream
      · subst here
        obtain ⟨rest, left, taken⟩ := Table.find?_read found count
        refine ⟨_, left, absurd rfl, ?_, by simp, fun finished => finished, rfl, fun _ => rfl⟩
        rintro _ ⟨⟩
        exact taken
      · exact ⟨entry, (Table.find?_read_other here count).trans found, same (Ne.symm here)⟩
  | readExactly stream count =>
      rw [Table.after]
      by_cases here : id = stream
      · subst here
        obtain ⟨rest, left, taken⟩ := Table.find?_readExactly found count
        refine ⟨_, left, absurd rfl, by simp, ?_, fun finished => finished, rfl, fun _ => rfl⟩
        rintro _ ⟨⟩
        exact taken
      · exact ⟨entry, (Table.find?_readExactly_other here count).trans found, same (Ne.symm here)⟩
  | closeStream stream =>
      refine ⟨entry, ?_, same not_false⟩
      rw [Table.after, Table.find?_erase, if_neg fun (same : id = stream) => kept (same ▸ rfl), found]
  | setLimit stream limit =>
      rw [Table.after, Table.setLimit, Table.find?_modify]
      split
      · rename_i here
        subst here
        rw [found]
        refine ⟨_, rfl, { same not_false with limit := fun unset => absurd rfl (unset limit) }⟩
      · exact ⟨entry, found, same not_false⟩
  | receive frame =>
      rcases session.table.after_receive frame with ⟨unchanged, -⟩ | ⟨kind, known, received⟩
      · exact ⟨entry, by rw [unchanged, found], same not_false⟩
      · rw [received]
        cases kind with
        | opening =>
            rw [Table.announces, if_pos known] at unannounced
            refine ⟨entry, (session.table.find?_insert _ _ _).trans ?_, same not_false⟩
            rw [if_neg fun (here : id = frame.id) => unannounced (here ▸ rfl), found]
        | data =>
            rw [Table.receive, Table.find?_modify]
            split
            · rename_i here
              rw [← here, found]
              by_cases closed : entry.closedHere = true
              · exact ⟨entry, congrArg some (if_pos closed), same not_false⟩
              · exact ⟨_, congrArg some (if_neg closed),
                  { same not_false with
                    unread := fun _ => List.prefix_append _ _
                    read := by simp
                    readExactly := by simp }⟩
            · exact ⟨entry, found, same not_false⟩
        | fin =>
            rw [Table.receive, Table.find?_modify]
            split
            · rename_i here
              rw [← here, found]
              exact ⟨_, rfl, { same not_false with finished := fun _ => rfl }⟩
            · exact ⟨entry, found, same not_false⟩
        | close => exact ⟨entry, found, same not_false⟩
  | write _ _ | send _ _ | setPacing _ | close _ _ | lose _ | sever _ _ =>
      exact ⟨entry, found, same not_false⟩

/-- A stream which is opened has the number which was next. -/
theorem openStream_fst (session : Session) :
    (∃ error, session.openStream.1 = .error error) ∨
      session.table.closed = none ∧ session.openStream.1 = .ok session.table.nextId := by
  rw [openStream, Table.reserve, Table.closedError?]
  cases closed : session.table.closed with
  | some cause => exact .inl ⟨_, rfl⟩
  | none =>
      dsimp only [Option.map_none]
      cases (Session.emit _ _).1 with
      | error error => exact .inl ⟨error, rfl⟩
      | ok _ => exact .inr ⟨rfl, rfl⟩

/-- The streams which users get from an operation. -/
def gets (session : Session) : Operation → List UInt32
  | .openStream =>
      match session.openStream.1 with
      | .ok id => [id]
      | .error _ => []
  | .accept =>
      match session.accept.1 with
      | some (.ok id) => [id]
      | _ => []
  | _ => []

end Session

/-! ## Streams in use -/

/-- A session, what its users have of it, and which streams have been announced. -/
structure Users where
  /-- The session. -/
  session : Session
  /-- The streams which users have got and not closed. -/
  handles : List UInt32 := []
  /-- The streams which were announced here, in order. -/
  opened : List UInt32 := []
  /-- The streams which the other side has announced, in order. -/
  received : List UInt32 := []

namespace Users

/-- The streams which users have or can get. -/
def live (users : Users) : List UInt32 := users.session.table.queue ++ users.handles

/-- What holds after an operation. -/
def after (users : Users) (operation : Operation) : Users where
  session := users.session.after operation
  handles :=
    match operation with
    | .closeStream id => users.handles.erase id
    | _ => users.handles ++ users.session.gets operation
  opened := users.opened ++ users.session.table.opens operation
  received := users.received ++ users.session.table.receives operation

/-- The streams which an operation adds to those in use. -/
def brings (users : Users) (operation : Operation) : List UInt32 :=
  match operation with
  | .openStream => users.session.gets .openStream
  | .receive _ => users.session.table.receives operation
  | _ => []

/-- A stream which is opened or announced is in use from then on, and accepting a stream changes nothing
of that. -/
theorem live_after (users : Users) {operation : Operation} (kept : ∀ id, operation ≠ .closeStream id) :
    (users.after operation).live.Perm (users.brings operation ++ users.live) := by
  have queue := (users.session.after_sameStreams operation).queue
  have handles : (users.after operation).handles = users.handles ++ users.session.gets operation := by
    cases operation with
    | closeStream id => exact absurd rfl (kept id)
    | _ => rfl
  have live_eq : (users.after operation).live = (users.session.table.after operation).queue ++
      (users.handles ++ users.session.gets operation) := by
    rw [live, handles, ← queue]
    rfl
  have waiting (other : operation ≠ .accept) := users.session.table.after_queue other
  rw [live_eq, live]
  cases operation with
  | accept =>
      rw [Session.gets, Session.accept, Table.after]
      rcases users.session.table.accept_cases with ⟨id, queue, first, accepted⟩ |
        ⟨result, accepted, no_id⟩
      · rw [accepted, first, ← List.append_assoc]
        exact List.perm_append_singleton id (queue ++ users.handles)
      · rw [accepted]
        rcases result with _ | _ | id
        · exact .of_eq (congrArg _ (List.append_nil _))
        · exact .of_eq (congrArg _ (List.append_nil _))
        · exact absurd rfl (no_id id)
  | receive frame =>
      have moved : (users.session.table.queue ++ users.session.table.receives (.receive frame)).Perm
        (users.session.table.receives (.receive frame) ++ users.session.table.queue) :=
        List.perm_append_comm
      have got : users.handles ++ users.session.gets (.receive frame) = users.handles :=
        List.append_nil _
      rw [waiting (by simp), got, ← List.append_assoc]
      exact moved.append_right users.handles
  | openStream =>
      have more : users.session.table.queue ++ users.session.table.receives .openStream =
        users.session.table.queue := List.append_nil _
      rw [waiting (by simp), more, ← List.append_assoc]
      exact List.perm_append_comm
  | closeStream id => exact absurd rfl (kept id)
  | _ =>
      have nothing : (users.session.table.queue ++ []) ++ (users.handles ++ []) =
        users.session.table.queue ++ users.handles := by simp
      rw [waiting (by simp)]
      exact .of_eq nothing

/-- What holds after some operations. -/
def run (users : Users) (operations : List Operation) : Users := operations.foldl after users

/-- What users have of a session does not matter to it. -/
theorem session_run (users : Users) (operations : List Operation) :
    (users.run operations).session = users.session.run operations := by
  induction operations generalizing users with
  | nil => rfl
  | cons operation operations ih => exact ih (users.after operation)

/-- A stream which is closed is not in use any more, apart from others with the same number. -/
theorem live_closeStream (users : Users) (id : UInt32) :
    (users.after (.closeStream id)).live = users.session.table.queue ++ users.handles.erase id := by
  have queue := (users.session.after_sameStreams (.closeStream id)).queue
  exact congrArg (· ++ users.handles.erase id) queue

/-- An operation brings only streams which it announces. -/
theorem brings_sublist (users : Users) (operation : Operation) :
    (users.brings operation).Sublist
      (users.session.table.opens operation ++ users.session.table.receives operation) := by
  cases operation with
  | openStream =>
      rw [brings, Session.gets]
      rcases users.session.openStream_fst with ⟨error, refused⟩ | ⟨opened, opens⟩
      · rw [refused]
        exact List.nil_sublist _
      · rw [opens, Table.opens, Table.announces, if_pos opened]
        exact List.sublist_append_left _ _
  | receive frame => exact List.sublist_append_right _ _
  | _ => exact List.nil_sublist _

/-- What is in use and what is kept was announced, and streams are numbered here one after another. -/
structure Counted (dialed : Bool) (users : Users) : Prop where
  /-- The streams which were announced here have the numbers of this side. -/
  numbered : users.opened = numbers dialed users.opened.length
  /-- The next number is known. -/
  next : users.session.table.nextId = number dialed users.opened.length
  /-- A number is in use no more often than it was announced. -/
  live : ∀ id, users.live.count id ≤ (users.opened ++ users.received).count id
  /-- Only of streams which were announced anything is kept. -/
  known : ∀ id, users.session.table.find? id ≠ none → id ∈ users.opened ++ users.received

namespace Counted

variable {dialed : Bool} {users : Users}

theorem after (counted : users.Counted dialed) (operation : Operation) :
    (users.after operation).Counted dialed := by
  have same := users.session.after_sameStreams operation
  have opened : (users.after operation).opened =
    users.opened ++ users.session.table.opens operation := rfl
  have received : (users.after operation).received =
    users.received ++ users.session.table.receives operation := rfl
  constructor
  case numbered =>
    rw [opened]
    rcases users.session.table.opens_cases operation with ⟨opens, -⟩ | ⟨nothing, -⟩
    · rw [opens, List.length_append, List.length_singleton, numbers_succ, counted.next,
        ← counted.numbered]
    · rw [nothing, List.append_nil, ← counted.numbered]
  case next =>
    refine same.nextId.trans ?_
    rw [opened]
    rcases users.session.table.opens_cases operation with ⟨opens, next⟩ | ⟨nothing, next⟩
    · rw [opens, next, List.length_append, List.length_singleton, number_succ, counted.next]
    · rw [nothing, next, List.append_nil, counted.next]
  case live =>
    intro id
    have before := counted.live id
    have brought := (users.brings_sublist operation).count_le id
    have in_use : (users.after operation).live.count id ≤
        (users.brings operation).count id + users.live.count id := by
      by_cases closes : ∃ stream, operation = .closeStream stream
      · obtain ⟨stream, rfl⟩ := closes
        have fewer := (List.Sublist.refl users.session.table.queue).append
          (List.erase_sublist (a := stream) (l := users.handles))
        rw [live_closeStream]
        exact Nat.le_trans (fewer.count_le id) (Nat.le_add_left _ _)
      · rw [← List.count_append]
        exact Nat.le_of_eq
          ((users.live_after fun stream here => closes ⟨stream, here⟩).count_eq id)
    rw [opened, received]
    simp only [List.count_append] at before brought ⊢
    omega
  case known =>
    intro id found
    rw [opened, received]
    by_cases new : users.session.table.announces operation = some id
    · have announced := Table.announces_iff.mp new
      simp only [List.mem_append] at announced ⊢
      tauto
    · have before := counted.known id fun unknown => found <|
        (same.find?_eq id).trans (Table.find?_after_unknown unknown new)
      simp only [List.mem_append] at before ⊢
      tauto

theorem run (counted : users.Counted dialed) (operations : List Operation) :
    (users.run operations).Counted dialed := by
  induction operations generalizing users with
  | nil => exact counted
  | cons operation operations ih => exact ih (counted.after operation)

end Counted

/-- A new session, nothing of which has been used. -/
def start (remote : Net.SocketAddress) (dialed : Bool) (keystream : Option Keystream)
    (link : Endpoint) : Users where
  session := .start remote dialed keystream link

theorem counted_start (remote : Net.SocketAddress) (dialed : Bool) (keystream : Option Keystream)
    (link : Endpoint) : (start remote dialed keystream link).Counted dialed where
  numbered := rfl
  next := by cases dialed <;> rfl
  live _ := Nat.le_refl 0
  known _ found := absurd rfl found

end Users

/-! ## Numbers of the two sides -/

theorem number_mod (dialed : Bool) (index : Nat) :
    (number dialed index).toNat % 2 = if dialed then 1 else 0 := by
  rw [number, UInt32.toNat_ofNat']
  cases dialed <;> simp

/-- The numbers of a side repeat after 2³¹ streams. -/
theorem number_eq_iff {dialed : Bool} {first second : Nat} :
    number dialed first = number dialed second ↔
      first % maximumStreams = second % maximumStreams := by
  rw [number, number, ← UInt32.toNat_inj, UInt32.toNat_ofNat', UInt32.toNat_ofNat', maximumStreams]
  omega

/-- Numbers which a side gives to no more than 2³¹ streams are different. -/
theorem nodup_numbers_of_le {dialed : Bool} {count : Nat} (bound : count ≤ maximumStreams) :
    (numbers dialed count).Nodup := by
  refine (List.nodup_map_iff_inj_on List.nodup_range).mpr fun first early second late same => ?_
  rw [List.mem_range] at early late
  have residues := number_eq_iff.mp same
  rwa [Nat.mod_eq_of_lt (by omega), Nat.mod_eq_of_lt (by omega)] at residues

/-! ## Announcements -/

/-- What an announcement does to the streams of a session, and what leaves them apart. -/
structure Openings (dialed : Bool) (users : Users) (operation : Operation) : Prop where
  /-- A stream which is announced is blank, whatever was kept of one with the same number. -/
  blank : ∀ id, users.session.table.announces operation = some id →
    (users.after operation).session.table.find? id = some {}
  /-- An announcement leaves what was kept of its own stream as it is only if that was blank. -/
  replaced : ∀ id entry, users.session.table.announces operation = some id →
    users.session.table.find? id = some entry →
    ((users.after operation).session.table.find? id = some entry ↔ entry = {})
  /-- Whatever else happens, what is kept of a stream survives until it is read or closed here. -/
  survives : ∀ id entry, users.session.table.find? id = some entry →
    users.session.table.announces operation ≠ some id → operation ≠ .closeStream id →
    ∃ later, (users.after operation).session.table.find? id = some later ∧
      Survives users.session operation id entry later
  /-- Only announcements bring streams into use, whether others with the same numbers are in use or
  not. -/
  live : (∀ id, operation ≠ .closeStream id) →
    (users.after operation).live.Perm (users.brings operation ++ users.live)
  /-- What comes into use was announced. -/
  brings : ∀ id ∈ users.brings operation, users.session.table.announces operation = some id
  /-- If no number was announced twice, nothing is kept of a stream which is announced, and no stream
  with its number is in use. -/
  apart : ((users.after operation).opened ++ (users.after operation).received).Nodup →
    ∀ id, users.session.table.announces operation = some id →
      users.session.table.find? id = none ∧ id ∉ users.live
  /-- No number is announced twice if each side announces no more streams than it has numbers, and the
  other side only announces numbers of its own, and each of them once. -/
  nodup : (users.after operation).opened.length ≤ maximumStreams →
    (users.after operation).received.Nodup →
    (∀ id ∈ (users.after operation).received, id.toNat % 2 = if dialed then 0 else 1) →
    ((users.after operation).opened ++ (users.after operation).received).Nodup

namespace Users.Counted

variable {dialed : Bool} {users : Users} {operation : Operation}

/-- A number which is announced only once was not in use before. -/
theorem apart (counted : users.Counted dialed)
    (once : ((users.after operation).opened ++ (users.after operation).received).Nodup) {id : UInt32}
    (announced : users.session.table.announces operation = some id) :
    users.session.table.find? id = none ∧ id ∉ users.live := by
  have here := List.count_pos_iff.mpr (Table.announces_iff.mp announced)
  have single := List.nodup_iff_count_le_one.mp once id
  change ((users.opened ++ users.session.table.opens operation) ++
    (users.received ++ users.session.table.receives operation)).count id ≤ 1 at single
  have unannounced : (users.opened ++ users.received).count id = 0 := by
    simp only [List.count_append] at here single ⊢
    omega
  refine ⟨?_, ?_⟩
  · by_contra found
    exact List.count_eq_zero.mp unannounced (counted.known id found)
  · rw [← List.count_eq_zero]
    have in_use := counted.live id
    omega

/-- The numbers of the two sides are different if each side keeps to its own. -/
theorem nodup (counted : users.Counted dialed) (bound : users.opened.length ≤ maximumStreams)
    (once : users.received.Nodup)
    (theirs : ∀ id ∈ users.received, id.toNat % 2 = if dialed then 0 else 1) :
    (users.opened ++ users.received).Nodup := by
  rw [counted.numbered]
  refine (nodup_numbers_of_le bound).append once fun id ours received => ?_
  obtain ⟨index, -, rfl⟩ := List.mem_map.mp ours
  have parity := theirs _ received
  rw [number_mod] at parity
  cases dialed <;> contradiction

end Users.Counted

/-- **Announcing.**  In every run of a session, whatever users do and whatever arrives. -/
theorem openings_of_run (remote : Net.SocketAddress) (dialed : Bool) (keystream : Option Keystream)
    (link : Endpoint) (operations : List Operation) (operation : Operation) :
    Openings dialed ((Users.start remote dialed keystream link).run operations) operation := by
  have counted := (Users.counted_start remote dialed keystream link).run operations
  generalize (Users.start remote dialed keystream link).run operations = users at counted
  have blank {id : UInt32} (announced : users.session.table.announces operation = some id) :
      (users.after operation).session.table.find? id = some {} :=
    ((users.session.after_sameStreams operation).find?_eq id).trans
      (Table.find?_after_announced announced)
  exact {
    blank := fun _ => blank
    replaced := fun id entry announced _ => by rw [blank announced, Option.some_inj, eq_comm]
    survives := fun _ _ => Session.survives
    live := users.live_after
    brings := fun id brought =>
      Table.announces_iff.mpr ((users.brings_sublist operation).subset brought)
    apart := fun once _ => counted.apart once
    nodup := (counted.after operation).nodup }

/-- The other side announces a stream again while three bytes of it wait to be read.  The bytes are
lost, and the stream is in use twice. -/
theorem openings_of_repeated_announcement :
    ∃ users : Users,
      (Users.start default false none {}).run
        [.receive ⟨0, 1, []⟩, .receive ⟨1, 1, [97, 98, 99]⟩, .accept] = users ∧
      users.session.table.find? 1 = some { data := [97, 98, 99] } ∧ users.live = [1] ∧
      (users.after (.receive ⟨0, 1, []⟩)).session.table.find? 1 = some {} ∧
      (users.after (.receive ⟨0, 1, []⟩)).live = [1, 1] ∧
      Openings false users (.receive ⟨0, 1, []⟩) := by
  refine ⟨_, rfl, ?_, ?_, ?_, ?_, openings_of_run default false none {} _ _⟩
  all_goals rfl

end Mux
end TunnelProxy
