import TunnelProxy.Proofs.Mux.Openings

/-!
# The end of a stream

A read finds the end of a stream if nothing is kept of the stream, or if no bytes are left and the
stream was finished by the other side or closed here.  None of this is remembered: bytes which arrive
behind the end are kept like others, and a stream which is announced again begins anew.  So the end
lasts exactly as long as the other side keeps to its word and the number is not given again.
-/

namespace TunnelProxy
namespace Mux

/-! ## What operations make of what is kept -/

/-- A frame tells something of a stream. -/
def RawFrame.Tells (frame : RawFrame) (kind : FrameKind) (id : UInt32) : Prop :=
  FrameKind.ofByte? frame.kind = some kind ∧ frame.id = id

instance (frame : RawFrame) (kind : FrameKind) (id : UInt32) : Decidable (frame.Tells kind id) :=
  inferInstanceAs (Decidable (_ ∧ _))

/-- What an operation makes of what is kept of a stream, unless it announces or closes the stream. -/
def StreamEntry.after (entry : StreamEntry) (id : UInt32) (closed : Bool) : Operation → StreamEntry
  | .read stream count =>
      if stream = id then { entry with data := entry.data.drop count } else entry
  | .readExactly stream count =>
      if stream = id then
        if count ≤ entry.data.length then { entry with data := entry.data.drop count }
        else if entry.finished || entry.closedHere || closed then { entry with data := [] }
        else entry
      else entry
  | .setLimit stream limit => if stream = id then { entry with limit } else entry
  | .receive frame =>
      if frame.Tells .data id then
        if entry.closedHere then entry else { entry with data := entry.data ++ frame.payload }
      else if frame.Tells .fin id then { entry with finished := true }
      else entry
  | _ => entry

namespace Table

variable {table : Table} {id : UInt32} {entry : StreamEntry}

theorem find?_insert_same (table : Table) (id : UInt32) (entry : StreamEntry) :
    (table.insert id entry).find? id = some entry := by
  rw [find?_insert, if_pos rfl]

theorem find?_read_same (found : table.find? id = some entry) (count : Nat) :
    (table.read id count).2.find? id = some { entry with data := entry.data.drop count } := by
  by_cases empty : entry.data = []
  · rw [read_of_empty found empty, found, empty, List.drop_nil, ← empty]
  · rw [read_of_data found empty, find?_insert_same]

theorem find?_readExactly_same (found : table.find? id = some entry) (count : Nat) :
    (table.readExactly id count).2.find? id =
      some (entry.after id table.closed.isSome (.readExactly id count)) := by
  simp only [readExactly, found, StreamEntry.after, if_pos]
  by_cases enough : count ≤ entry.data.length
  · rw [if_pos enough, if_pos enough, find?_insert_same]
  · rw [if_neg enough, if_neg enough, closedError?]
    cases ended : entry.finished || entry.closedHere
    · cases closed : table.closed with
      | none => exact found
      | some cause => exact find?_insert_same _ _ _
    · exact find?_insert_same _ _ _

theorem find?_receive (found : table.find? id = some entry) (frame : RawFrame) {kind : FrameKind}
    (known : FrameKind.ofByte? frame.kind = some kind) (unannounced : ¬frame.Tells .opening id) :
    (table.receive kind frame.id frame.payload).find? id =
      some (entry.after id table.closed.isSome (.receive frame)) := by
  have tells (other : FrameKind) : frame.Tells other id ↔ kind = other ∧ frame.id = id := by
    rw [RawFrame.Tells, known, Option.some_inj]
  simp only [tells] at unannounced
  simp only [StreamEntry.after, tells]
  by_cases here : frame.id = id
  · subst here
    cases kind with
    | opening => exact absurd ⟨rfl, rfl⟩ unannounced
    | data | fin => simp [receive, find?_modify, found]
    | close => simpa [receive] using found
  · have other : id ≠ frame.id := Ne.symm here
    cases kind with
    | opening => exact (find?_insert ..).trans (by simpa [other] using found)
    | data | fin => simp [receive, find?_modify, found, here, other]
    | close => simpa [receive, here] using found

/-- What is kept of a stream after an operation which neither announces nor closes it. -/
theorem find?_after (found : table.find? id = some entry) {operation : Operation}
    (unannounced : table.announces operation ≠ some id) (kept : operation ≠ .closeStream id) :
    (table.after operation).find? id = some (entry.after id table.closed.isSome operation) := by
  cases operation with
  | openStream =>
      rw [after]
      cases closed : table.closed with
      | some cause => rw [reserve_of_closed closed, found]; rfl
      | none =>
          rw [announces, if_pos closed] at unannounced
          rw [reserve_of_open closed]
          refine (table.find?_insert _ _ _).trans ?_
          rw [if_neg fun (here : id = _) => unannounced (here ▸ rfl), found]
          rfl
  | accept => exact find?_accept.trans found
  | read stream count =>
      rw [after, StreamEntry.after]
      by_cases here : stream = id
      · rw [if_pos here, here, find?_read_same found]
      · rw [if_neg here, find?_read_other (Ne.symm here), found]
  | readExactly stream count =>
      rw [after]
      by_cases here : stream = id
      · rw [here, find?_readExactly_same found]
      · rw [StreamEntry.after, if_neg here, find?_readExactly_other (Ne.symm here), found]
  | closeStream stream =>
      rw [after, find?_erase, if_neg fun (here : id = stream) => kept (here ▸ rfl), found]
      rfl
  | setLimit stream limit =>
      rw [after, setLimit, find?_modify, StreamEntry.after]
      by_cases here : stream = id
      · rw [if_pos here, if_pos here.symm, here, found, Option.map_some]
      · rw [if_neg here, if_neg (Ne.symm here), found]
  | receive frame =>
      rw [after]
      cases known : FrameKind.ofByte? frame.kind with
      | none =>
          have nothing (kind : FrameKind) : ¬frame.Tells kind id := fun told => by
            rw [RawFrame.Tells, known] at told
            cases told.1
          rw [StreamEntry.after, if_neg (nothing _), if_neg (nothing _)]
          split <;> exact found
      | some kind =>
          cases ending : frame.ending? with
          | none =>
              refine find?_receive found frame known fun opening => unannounced ?_
              rw [announces, if_pos opening.1, opening.2]
          | some cause =>
              have silent (other : FrameKind) (goes_on : other ≠ .close) : ¬frame.Tells other id := by
                rintro ⟨same, -⟩
                obtain rfl := Option.some.inj (known.symm.trans same)
                cases kind <;> simp [RawFrame.ending?, known] at ending goes_on
              rw [StreamEntry.after, if_neg (silent .data (by decide)), if_neg (silent .fin (by decide))]
              exact found
  | write _ _ | send _ _ | setPacing _ | close _ _ | lose _ | sever _ _ => exact found

end Table

/-! ## Ends and what undoes them -/

/-- A read of a stream finds its end. -/
def Table.Ended (table : Table) (id : UInt32) : Prop :=
  ∀ entry, table.find? id = some entry →
    entry.data = [] ∧ (entry.finished = true ∨ entry.closedHere = true)

/-- An operation undoes the end of a stream. -/
inductive Table.Revives (table : Table) (id : UInt32) : Operation → Prop
  /-- The stream is announced, and so it begins anew. -/
  | announced {operation : Operation} (announced : table.announces operation = some id) :
      Revives table id operation
  /-- Bytes arrive for a stream which is known and was not closed here. -/
  | bytes {frame : RawFrame} {entry : StreamEntry} (tells : frame.Tells .data id)
      (some_bytes : frame.payload ≠ []) (found : table.find? id = some entry)
      (live : entry.closedHere = false) : Revives table id (.receive frame)

/-- Only bytes which arrive are awaited behind the end of a stream. -/
theorem StreamEntry.after_ended_iff (entry : StreamEntry) {id : UInt32} {closed : Bool}
    {operation : Operation} (empty : entry.data = [])
    (flagged : entry.finished = true ∨ entry.closedHere = true) :
    ((entry.after id closed operation).data = [] ∧
        ((entry.after id closed operation).finished = true ∨
          (entry.after id closed operation).closedHere = true)) ↔
      ¬∃ frame, operation = .receive frame ∧ frame.Tells .data id ∧ frame.payload ≠ [] ∧
        entry.closedHere = false := by
  cases operation with
  | receive frame =>
      rw [StreamEntry.after]
      by_cases bytes : frame.Tells .data id
      · rw [if_pos bytes]
        cases live : entry.closedHere <;> simp_all
      · rw [if_neg bytes]
        split_ifs <;> simp_all
  | read stream count | readExactly stream count =>
      rw [StreamEntry.after]
      split_ifs <;> simp [empty, flagged]
  | setLimit stream limit =>
      rw [StreamEntry.after]
      split_ifs <;> simp [empty, flagged]
  | _ => simp [StreamEntry.after, empty, flagged]

namespace Table

variable {table : Table} {id : UInt32} {entry : StreamEntry} {operation : Operation}

theorem ended_of_missing (missing : table.find? id = none) : table.Ended id := by
  intro entry found
  rw [missing] at found
  cases found

theorem ended_iff_of_found (found : table.find? id = some entry) :
    table.Ended id ↔ entry.data = [] ∧ (entry.finished = true ∨ entry.closedHere = true) := by
  simp [Ended, found]

theorem SameStreams.ended_iff {before after : Table} (same : before.SameStreams after) :
    after.Ended id ↔ before.Ended id := by
  simp only [Ended, same.find?_eq]

/-- A read with room finds the end exactly if there is one. -/
theorem read_eq_end_iff {count : Nat} (room : 0 < count) :
    (table.read id count).1 = some (.ok []) ↔ table.Ended id := by
  have some_room : count ≠ 0 := by omega
  cases found : table.find? id with
  | none => simp [read_of_missing found, ended_of_missing found]
  | some entry =>
      rw [ended_iff_of_found found]
      by_cases empty : entry.data = []
      · rw [read_of_empty found empty]
        cases ended : entry.finished || entry.closedHere
        · cases table.closedError? <;> simp_all
        · simp_all
      · simp [read_of_data found empty, empty, some_room]

/-- The end of a stream outlasts an operation exactly if the operation does not undo it. -/
theorem Ended.after_iff (ended : table.Ended id) :
    (table.after operation).Ended id ↔ ¬table.Revives id operation := by
  by_cases announced : table.announces operation = some id
  · rw [ended_iff_of_found (find?_after_announced announced)]
    simp [Revives.announced announced]
  by_cases closes : operation = .closeStream id
  · subst closes
    have missing : (table.after (.closeStream id)).find? id = none :=
      (table.find?_erase id id).trans (if_pos rfl)
    exact iff_of_true (ended_of_missing missing) (by rintro (⟨impossible⟩ | _); cases impossible)
  cases found : table.find? id with
  | none =>
      refine iff_of_true (ended_of_missing (find?_after_unknown found announced)) ?_
      rintro (again | ⟨-, -, known, -⟩)
      · exact announced again
      · rw [found] at known
        cases known
  | some entry =>
      obtain ⟨empty, flagged⟩ := (ended_iff_of_found found).mp ended
      rw [ended_iff_of_found (find?_after found announced closes)]
      refine (entry.after_ended_iff empty flagged).trans (not_congr ?_)
      constructor
      · rintro ⟨frame, rfl, tells, some_bytes, live⟩
        exact .bytes tells some_bytes found live
      · rintro (again | ⟨tells, some_bytes, known, live⟩)
        · exact absurd again announced
        · obtain rfl := Option.some.inj (found.symm.trans known)
          exact ⟨_, rfl, tells, some_bytes, live⟩

end Table

/-! ## Ends in a run -/

namespace Session

variable {session : Session} {id : UInt32}

theorem run_concat (session : Session) (operations : List Operation) (operation : Operation) :
    session.run (operations ++ [operation]) = (session.run operations).after operation :=
  List.foldl_concat ..

theorem ended_after_iff (ended : session.table.Ended id) (operation : Operation) :
    (session.after operation).table.Ended id ↔ ¬session.table.Revives id operation :=
  (session.after_sameStreams operation).ended_iff.trans ended.after_iff

/-- The end of a stream outlasts a run exactly if nothing in the run undoes it. -/
theorem ended_run_iff (ended : session.table.Ended id) (operations : List Operation) :
    (∀ front, front <+: operations → (session.run front).table.Ended id) ↔
      ∀ front operation back, operations = front ++ operation :: back →
        ¬(session.run front).table.Revives id operation := by
  constructor
  · rintro lasts front operation back rfl
    have here := lasts front (List.prefix_append _ _)
    have next := lasts (front ++ [operation]) ⟨back, by simp⟩
    rw [run_concat] at next
    exact (ended_after_iff here operation).mp next
  · intro quiet front start
    induction front using List.reverseRecOn with
    | nil => exact ended
    | append_singleton front operation ih =>
        obtain ⟨back, rfl⟩ := start
        rw [run_concat]
        refine (ended_after_iff (ih ⟨operation :: back, by simp⟩) operation).mpr ?_
        exact quiet front operation back (by simp)

end Session

/-! ## Ends which stay -/

/-- The frames which arrive. -/
def arrivals (operations : List Operation) : List RawFrame :=
  operations.filterMap fun
    | .receive frame => some frame
    | _ => none

/-- No bytes of a stream arrive behind the frame which tells that none do. -/
def Keeping (id : UInt32) (frames : List RawFrame) : Prop :=
  frames.Pairwise fun earlier later =>
    earlier.Tells .fin id → later.Tells .data id → later.payload = []

/-- No stream which is kept was closed here. -/
def Table.Live (table : Table) : Prop :=
  ∀ id entry, table.find? id = some entry → entry.closedHere = false

/-- What is finished was finished by the other side. -/
def Table.Heard (table : Table) (frames : List RawFrame) : Prop :=
  ∀ id entry, table.find? id = some entry → entry.finished = true →
    ∃ frame ∈ frames, frame.Tells .fin id

theorem arrivals_append (first second : List Operation) :
    arrivals (first ++ second) = arrivals first ++ arrivals second :=
  List.filterMap_append

theorem mem_arrivals {operations : List Operation} {frame : RawFrame} :
    frame ∈ arrivals operations ↔ .receive frame ∈ operations := by
  rw [arrivals, List.mem_filterMap]
  constructor
  · rintro ⟨operation, among, arrives⟩
    cases operation <;> cases arrives
    exact among
  · exact fun among => ⟨_, among, rfl⟩

theorem StreamEntry.after_closedHere (entry : StreamEntry) (id : UInt32) (closed : Bool)
    (operation : Operation) : (entry.after id closed operation).closedHere = entry.closedHere := by
  cases operation with
  | read _ _ | readExactly _ _ | setLimit _ _ | receive _ =>
      rw [StreamEntry.after]
      split_ifs <;> rfl
  | _ => rfl

/-- Only the other side finishes a stream. -/
theorem StreamEntry.finished_of_after {entry : StreamEntry} {id : UInt32} {closed : Bool}
    {operation : Operation} (finished : (entry.after id closed operation).finished = true) :
    entry.finished = true ∨ ∃ frame, operation = .receive frame ∧ frame.Tells .fin id := by
  cases operation with
  | receive frame =>
      by_cases tells : frame.Tells .fin id
      · exact .inr ⟨frame, rfl, tells⟩
      · rw [StreamEntry.after, if_neg tells] at finished
        split_ifs at finished <;> exact .inl finished
  | read _ _ | readExactly _ _ | setLimit _ _ =>
      rw [StreamEntry.after] at finished
      split_ifs at finished <;> exact .inl finished
  | _ => exact .inl finished

namespace Table

variable {table : Table} {frames : List RawFrame} {id : UInt32} {entry : StreamEntry}
  {operation : Operation}

/-- What is kept after an operation was announced by it, or it was kept before. -/
theorem find?_after_cases (found : (table.after operation).find? id = some entry) :
    (table.announces operation = some id ∧ entry = {}) ∨
      ∃ earlier, table.find? id = some earlier ∧
        entry = earlier.after id table.closed.isSome operation := by
  by_cases announced : table.announces operation = some id
  · rw [find?_after_announced announced] at found
    exact .inl ⟨announced, (Option.some.inj found).symm⟩
  by_cases closes : operation = .closeStream id
  · subst closes
    rw [after, find?_erase, if_pos rfl] at found
    cases found
  cases before : table.find? id with
  | none =>
      rw [find?_after_unknown before announced] at found
      cases found
  | some earlier =>
      rw [find?_after before announced closes] at found
      exact .inr ⟨earlier, rfl, (Option.some.inj found).symm⟩

theorem Live.after (live : table.Live) (operation : Operation) : (table.after operation).Live := by
  intro id entry found
  rcases find?_after_cases found with ⟨-, rfl⟩ | ⟨earlier, known, rfl⟩
  · rfl
  · exact (earlier.after_closedHere ..).trans (live id earlier known)

theorem Heard.after (heard : table.Heard frames) (operation : Operation) :
    (table.after operation).Heard (frames ++ arrivals [operation]) := by
  intro id entry found finished
  rcases find?_after_cases found with ⟨-, rfl⟩ | ⟨earlier, known, rfl⟩
  · cases finished
  · rcases StreamEntry.finished_of_after finished with already | ⟨frame, rfl, tells⟩
    · obtain ⟨frame, among, tells⟩ := heard id earlier known already
      exact ⟨frame, List.mem_append_left _ among, tells⟩
    · exact ⟨frame, List.mem_append_right _ (List.mem_singleton_self frame), tells⟩

variable {other : Table}

theorem SameStreams.live (same : table.SameStreams other) (live : table.Live) : other.Live :=
  fun id entry found => live id entry ((same.find?_eq id).symm.trans found)

theorem SameStreams.heard (same : table.SameStreams other) (heard : table.Heard frames) :
    other.Heard frames :=
  fun id entry found => heard id entry ((same.find?_eq id).symm.trans found)

end Table

namespace Session

variable {session : Session}

/-- Nothing is kept of a stream unless it is announced. -/
theorem unknown_run {id : UInt32} (unknown : session.table.find? id = none)
    {operations : List Operation}
    (unannounced : ∀ front operation back, operations = front ++ operation :: back →
      (session.run front).table.announces operation ≠ some id) :
    (session.run operations).table.find? id = none := by
  induction operations using List.reverseRecOn with
  | nil => exact unknown
  | append_singleton front operation ih =>
      rw [run_concat, (after_sameStreams _ operation).find?_eq]
      refine Table.find?_after_unknown (ih ?_) (unannounced front operation [] rfl)
      rintro earlier middle back rfl
      exact unannounced earlier middle (back ++ [operation]) (by simp)

theorem live_run (remote : Net.SocketAddress) (dialed : Bool) (keystream : Option Keystream)
    (link : Endpoint) (operations : List Operation) :
    ((start remote dialed keystream link).run operations).table.Live := by
  induction operations using List.reverseRecOn with
  | nil => exact fun _ _ => nofun
  | append_singleton front operation ih =>
      rw [run_concat]
      exact (after_sameStreams _ operation).live (ih.after operation)

theorem heard_run (remote : Net.SocketAddress) (dialed : Bool) (keystream : Option Keystream)
    (link : Endpoint) (operations : List Operation) :
    ((start remote dialed keystream link).run operations).table.Heard (arrivals operations) := by
  induction operations using List.reverseRecOn with
  | nil => exact fun _ _ => nofun
  | append_singleton front operation ih =>
      rw [run_concat, arrivals_append]
      exact (after_sameStreams _ operation).heard (ih.after operation)

end Session

namespace Users

theorem run_concat (users : Users) (operations : List Operation) (operation : Operation) :
    users.run (operations ++ [operation]) = (users.run operations).after operation :=
  List.foldl_concat ..

theorem run_append (users : Users) (first second : List Operation) :
    users.run (first ++ second) = (users.run first).run second :=
  List.foldl_append

/-- What was announced stays so. -/
theorem count_announced_run (users : Users) (operations : List Operation) (id : UInt32) :
    (users.opened ++ users.received).count id ≤
      ((users.run operations).opened ++ (users.run operations).received).count id := by
  induction operations generalizing users with
  | nil => exact Nat.le_refl _
  | cons operation operations ih =>
      refine Nat.le_trans ?_ (ih (users.after operation))
      simp only [Users.after, List.count_append]
      omega

/-- A stream which was announced is not announced again if no number is announced twice. -/
theorem unannounced_of_nodup {users : Users} {id : UInt32}
    (announced : id ∈ users.opened ++ users.received) {front back : List Operation}
    {operation : Operation}
    (once : ((users.run (front ++ operation :: back)).opened ++
      (users.run (front ++ operation :: back)).received).Nodup) :
    (users.run front).session.table.announces operation ≠ some id := by
  intro again
  have first := List.count_pos_iff.mpr announced
  have second := List.count_pos_iff.mpr (Table.announces_iff.mp again)
  have single := List.nodup_iff_count_le_one.mp once id
  have near := users.count_announced_run front id
  have far := ((users.run front).after operation).count_announced_run back id
  have whole : users.run (front ++ operation :: back) =
    ((users.run front).after operation).run back := users.run_append front (operation :: back)
  rw [whole] at single
  have grown : ((users.run front).after operation).opened ++
    ((users.run front).after operation).received =
      (users.run front).opened ++ (users.run front).session.table.opens operation ++
        ((users.run front).received ++ (users.run front).session.table.receives operation) := rfl
  rw [grown] at far
  simp only [List.count_append] at first second single near far
  omega

/-- Whatever follows, reads of a stream find its end. -/
def Final (users : Users) (id : UInt32) (later : List Operation) : Prop :=
  ∀ front count, front <+: later → 0 < count →
    ((users.run front).session.read id count).1 = some (.ok [])

/-- The end of a stream is final exactly if nothing undoes it. -/
theorem final_iff {users : Users} {id : UInt32} (ended : users.session.table.Ended id)
    (later : List Operation) :
    users.Final id later ↔ ∀ front operation back, later = front ++ operation :: back →
      ¬(users.run front).session.table.Revives id operation := by
  simp only [session_run]
  refine Iff.trans ?_ (Session.ended_run_iff ended later)
  constructor
  · intro final front start
    have found := final front 1 start Nat.one_pos
    rw [session_run] at found
    exact (Table.read_eq_end_iff Nat.one_pos).mp found
  · intro lasts front count start room
    rw [session_run]
    exact (Table.read_eq_end_iff room).mpr (lasts front start)

end Users

/-- What decides whether the end of a stream which was found stays found. -/
structure Lasting (users : Users) (id : UInt32) (before later : List Operation) : Prop where
  /-- It does exactly if nothing undoes it: no announcement of the stream, and no bytes which arrive for
  it while it is known. -/
  exact : (users.run before).Final id later ↔
    ∀ front operation back, later = front ++ operation :: back →
      ¬((users.run before).run front).session.table.Revives id operation
  /-- It does if no number is announced twice and the other side sends no bytes of a stream which it has
  finished. -/
  final : id ∈ (users.run before).opened ++ (users.run before).received →
    ((users.run (before ++ later)).opened ++ (users.run (before ++ later)).received).Nodup →
    Keeping id (arrivals (before ++ later)) → (users.run before).Final id later

/-- **The end of a stream.**  In every run of a session, behind a read with room which has found the end
of a stream, whatever users do and whatever arrives. -/
theorem lasting_of_run (remote : Net.SocketAddress) (dialed : Bool) (keystream : Option Keystream)
    (link : Endpoint) (before : List Operation) {id : UInt32} {count : Nat} (room : 0 < count)
    (found : (((Users.start remote dialed keystream link).run before).session.read id count).1 =
      some (.ok [])) (later : List Operation) :
    Lasting (Users.start remote dialed keystream link) id (before ++ [.read id count]) later := by
  set users := Users.start remote dialed keystream link with start
  have ended : (users.run (before ++ [.read id count])).session.table.Ended id := by
    rw [Users.run_concat]
    refine (Session.ended_after_iff ((Table.read_eq_end_iff room).mp found) _).mpr ?_
    rintro (⟨announced⟩ | _)
    cases announced
  have live : (users.run (before ++ [.read id count])).session.table.Live := by
    rw [Users.session_run]
    exact Session.live_run remote dialed keystream link _
  have heard : (users.run (before ++ [.read id count])).session.table.Heard
      (arrivals (before ++ [.read id count])) := by
    rw [Users.session_run]
    exact Session.heard_run remote dialed keystream link _
  generalize before ++ [.read id count] = before at ended live heard
  refine ⟨Users.final_iff ended later, fun announced once keeping => ?_⟩
  rw [Users.run_append] at once
  rw [Users.final_iff ended]
  rintro front operation back rfl (again | @⟨frame, entry, tells, some_bytes, found, -⟩)
  · exact Users.unannounced_of_nodup announced once again
  -- The stream was kept when its end was found, so the other side had finished it.
  cases known : (users.run before).session.table.find? id with
  | none =>
      have unannounced (earlier operation middle)
          (splits : front = earlier ++ operation :: middle) :
          ((users.run before).session.run earlier).table.announces operation ≠ some id := by
        rw [splits, List.append_assoc, List.cons_append] at once
        rw [← Users.session_run]
        exact Users.unannounced_of_nodup announced once
      rw [Users.session_run, Session.unknown_run known unannounced] at found
      cases found
  | some earlier =>
      have open_here : ¬earlier.closedHere = true := by simp [live id earlier known]
      have finished := ((Table.ended_iff_of_found known).mp ended).2.resolve_right open_here
      obtain ⟨fin, before_end, fin_tells⟩ := heard id earlier known finished
      rw [arrivals_append, Keeping, List.pairwise_append] at keeping
      have behind : frame ∈ arrivals (front ++ .receive frame :: back) :=
        mem_arrivals.mpr (List.mem_append_right _ (List.mem_cons_self ..))
      exact some_bytes (keeping.2.2 fin before_end frame behind fin_tells tells)

/-- The other side finishes a stream, its end is found, and a byte of the stream arrives. -/
theorem lasting_of_late_byte :
    ∃ users : Users,
      (Users.start default false none {}).run
        [.receive ⟨0, 1, []⟩, .receive ⟨2, 1, []⟩, .accept] = users ∧
      (users.session.read 1 4).1 = some (.ok []) ∧
      ((users.run [.read 1 4, .receive ⟨1, 1, [120]⟩]).session.read 1 4).1 = some (.ok [120]) ∧
      Lasting (Users.start default false none {}) 1
        [.receive ⟨0, 1, []⟩, .receive ⟨2, 1, []⟩, .accept, .read 1 4]
        [.receive ⟨1, 1, [120]⟩] := by
  refine ⟨_, rfl, ?_, ?_, lasting_of_run default false none {}
    [.receive ⟨0, 1, []⟩, .receive ⟨2, 1, []⟩, .accept] (by decide) ?_ _⟩
  all_goals rfl

end Mux
end TunnelProxy
