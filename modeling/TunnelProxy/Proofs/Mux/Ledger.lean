import Mathlib.Data.List.Nodup
import TunnelProxy.Proofs.Mux.Pair

/-!
# What holds at one side of a session

Each side gives its streams different numbers and announces each of them at most once.  Its users write
only to streams which were announced before, and what its table keeps is what the frames and the reads
so far have made of it.
-/

namespace TunnelProxy
namespace Mux

/-! ## Numbers of streams -/

/-- The number of the stream which a side opens after so many others. -/
def number (dialed : Bool) (index : Nat) : UInt32 :=
  UInt32.ofNat ((if dialed then 1 else 2) + 2 * index)

/-- How many streams a side opens at most. -/
def maximumStreams : Nat := 2 ^ 31

theorem number_succ (dialed : Bool) (index : Nat) :
    number dialed (index + 1) = number dialed index + 2 := by
  rw [number, number, Nat.mul_add, ← Nat.add_assoc, UInt32.ofNat_add]
  rfl

theorem toNat_number {dialed : Bool} {index : Nat} (bound : index + 1 < maximumStreams) :
    (number dialed index).toNat = (if dialed then 1 else 2) + 2 * index := by
  unfold maximumStreams at bound
  rw [number, UInt32.toNat_ofNat', Nat.mod_eq_of_lt]
  split <;> omega

/-- The streams which a side opens first. -/
def numbers (dialed : Bool) (count : Nat) : List UInt32 :=
  (List.range count).map (number dialed)

theorem numbers_succ (dialed : Bool) (count : Nat) :
    numbers dialed (count + 1) = numbers dialed count ++ [number dialed count] := by
  simp [numbers, List.range_succ]

theorem nodup_numbers {dialed : Bool} {count : Nat} (bound : count < maximumStreams) :
    (numbers dialed count).Nodup := by
  refine (List.nodup_map_iff_inj_on List.nodup_range).mpr fun first early second late same => ?_
  rw [List.mem_range] at early late
  have values := congrArg UInt32.toNat same
  rw [toNat_number (by omega), toNat_number (by omega)] at values
  omega

/-- The two sides never give the same number to a stream. -/
theorem disjoint_numbers {dialed : Bool} {count other : Nat} (bound : count < maximumStreams)
    (other_bound : other < maximumStreams) {id : UInt32} (here : id ∈ numbers dialed count) :
    id ∉ numbers (!dialed) other := by
  intro there
  simp only [numbers, List.mem_map, List.mem_range] at here there
  obtain ⟨first, early, rfl⟩ := here
  obtain ⟨second, late, same⟩ := there
  have values := congrArg UInt32.toNat same
  rw [toNat_number (by omega), toNat_number (by omega)] at values
  cases dialed <;> simp at values <;> omega

/-! ## What has begun and is not over -/

/-- The frame which a task writes. -/
def Task.frame? : Task → Option Frame
  | .send frame => some frame
  | .mark _ _ | .unlink => none

namespace Party

variable {party : Party} {dialed : Bool}

/-- The frames which are still to be written. -/
def pending (party : Party) : List Frame := party.threads.flatten.filterMap Task.frame?

theorem pending_begin (party : Party) (tasks : List Task) :
    (party.begin tasks).pending = party.pending ++ tasks.filterMap Task.frame? := by
  simp [pending, begin]

/-- The frames of a thread are among those to be written, and the other ones do not depend on it. -/
theorem pending_set {thread : Nat} {tasks : List Task}
    (found : party.threads[thread]? = some tasks) :
    ∃ front back, party.pending = front ++ tasks.filterMap Task.frame? ++ back ∧
      ∀ later, { party with threads := party.threads.set thread later }.pending =
        front ++ later.filterMap Task.frame? ++ back := by
  obtain ⟨bound, rfl⟩ := List.getElem?_eq_some_iff.mp found
  refine ⟨(party.threads.take thread).flatten.filterMap Task.frame?,
    (party.threads.drop (thread + 1)).flatten.filterMap Task.frame?, ?_, fun later => ?_⟩
  · have cut : party.threads = party.threads.take thread ++
        party.threads[thread] :: party.threads.drop (thread + 1) := by
      rw [List.getElem_cons_drop, List.take_append_drop]
    calc
      party.pending = (party.threads.take thread ++
          party.threads[thread] :: party.threads.drop (thread + 1)).flatten.filterMap Task.frame? :=
        congrArg (fun threads => threads.flatten.filterMap Task.frame?) cut
      _ = _ := by
        simp only [List.flatten_append, List.flatten_cons, List.filterMap_append,
          List.append_assoc]
  · rw [pending, List.set_eq_take_append_cons_drop, if_pos bound]
    simp

/-- A frame which is written was among those to be written, and is not any more. -/
theorem pending_send {thread : Nat} {frame : Frame} {rest : List Task}
    (found : party.threads[thread]? = some (.send frame :: rest)) :
    party.pending.Perm
      (frame :: { party with threads := party.threads.set thread rest }.pending) := by
  obtain ⟨front, back, before, after⟩ := pending_set found
  have whole : party.pending = front ++ frame :: (rest.filterMap Task.frame? ++ back) := by
    rw [before, List.append_assoc]
    rfl
  rw [whole, after rest, List.append_assoc]
  exact List.perm_middle

theorem pending_of_thread {thread : Nat} {frame : Frame} {rest : List Task}
    (found : party.threads[thread]? = some (.send frame :: rest)) : frame ∈ party.pending :=
  (pending_send found).mem_iff.mpr List.mem_cons_self

/-- What holds at one side of a session, whatever has happened there. -/
structure Sound (dialed : Bool) (party : Party) : Prop where
  /-- Streams are numbered in the order in which they are opened. -/
  numbered : party.opened = numbers dialed party.opened.length
  /-- The next number is known. -/
  next : party.session.table.nextId = number dialed party.opened.length
  /-- Each stream is announced at most once. -/
  once : ∀ id, (opens party.sent).count id + (opens party.pending).count id ≤ party.opened.count id
  /-- Only streams which users have got are written to. -/
  owned : ∀ frame ∈ party.pending, frame.kind = .data ∨ frame.kind = .fin → frame.id ∈ party.held
  /-- No payload is too long. -/
  fits : ∀ frame ∈ party.sent ++ party.pending, frame.Fits
  /-- Users have got streams which were announced here, or were accepted. -/
  held : ∀ id ∈ party.held, id ∈ opens party.sent ∨ id ∈ party.accepted
  /-- Only streams which users have got are closed. -/
  released : ∀ id ∈ party.released, id ∈ party.held
  /-- The streams which wait to be accepted are the last ones which the other side has announced. -/
  queue : party.accepted ++ party.session.table.queue = opens party.processed
  /-- What is kept of the streams which were not closed here. -/
  streams : ∀ id, id ∉ party.released →
    Follows party.opened party.processed party.reads id (party.session.table.find? id)

namespace Sound

theorem opens_sent (sound : party.Sound dialed) {id : UInt32} (announced : id ∈ opens party.sent) :
    id ∈ party.opened := by
  have positive := List.count_pos_iff.mpr announced
  have bound := sound.once id
  exact List.count_pos_iff.mp (by omega)

theorem opens_processed (sound : party.Sound dialed) {id : UInt32} (accepted : id ∈ party.accepted) :
    id ∈ opens party.processed := by
  rw [← sound.queue]
  exact List.mem_append_left _ accepted

/-- Users have got only streams which were announced by one of the sides. -/
theorem known (sound : party.Sound dialed) {id : UInt32} (held : id ∈ party.held) :
    id ∈ party.opened ∨ id ∈ opens party.processed :=
  (sound.held id held).imp sound.opens_sent sound.opens_processed

theorem nodup_opened (sound : party.Sound dialed) (bound : party.opened.length < maximumStreams) :
    party.opened.Nodup := by
  rw [sound.numbered]
  exact nodup_numbers bound

theorem nodup_opens (sound : party.Sound dialed) (bound : party.opened.length < maximumStreams) :
    (opens party.sent).Nodup := by
  rw [List.nodup_iff_count_le_one]
  intro id
  have single := List.nodup_iff_count_le_one.mp (sound.nodup_opened bound) id
  have announced := sound.once id
  omega

/-- Something begins which writes no frame. -/
theorem begin_nothing (sound : party.Sound dialed) {tasks : List Task}
    (nothing : tasks.filterMap Task.frame? = []) : (party.begin tasks).Sound dialed := by
  have same : (party.begin tasks).pending = party.pending := by
    rw [pending_begin, nothing, List.append_nil]
  refine { sound with once := fun id => ?_, owned := ?_, fits := ?_ } <;> rw [same]
  · exact sound.once id
  · exact sound.owned
  · exact sound.fits

/-- Something begins which writes one frame, but does not open a stream. -/
theorem begin_frame (sound : party.Sound dialed) {frame : Frame} {rest : List Task}
    (nothing_else : rest.filterMap Task.frame? = []) (other : frame.kind ≠ .opening)
    (owned : frame.kind = .data ∨ frame.kind = .fin → frame.id ∈ party.held) (fits : frame.Fits) :
    (party.begin (.send frame :: rest)).Sound dialed := by
  have more : (party.begin (.send frame :: rest)).pending = party.pending ++ [frame] := by
    rw [pending_begin]
    exact congrArg (party.pending ++ frame :: ·) nothing_else
  refine { sound with once := fun id => ?_, owned := ?_, fits := ?_ } <;> rw [more]
  · rw [opens_append, opens_singleton, if_neg other, List.append_nil]
    exact sound.once id
  · intro waiting among
    rcases List.mem_append.mp among with before | new
    · exact sound.owned waiting before
    · rw [List.mem_singleton.mp new]
      exact owned
  · rw [← List.append_assoc]
    intro waiting among
    rcases List.mem_append.mp among with before | new
    · exact sound.fits waiting before
    · rw [List.mem_singleton.mp new]
      exact fits

/-- A stream gets the next number, and its announcement waits. -/
theorem number_stream (sound : party.Sound dialed) {id : UInt32}
    (id_eq : party.session.table.nextId = id) (bound : party.opened.length + 1 < maximumStreams)
    (unannounced : id ∉ opens party.processed) :
    ({ party with
      session :=
        { party.session with table := { party.session.table.insert id {} with nextId := id + 2 } }
      opened := party.opened ++ [id] }.begin [.send { kind := .opening, id }]).Sound dialed := by
  rw [sound.next] at id_eq
  have opened_eq : party.opened ++ [id] = numbers dialed (party.opened.length + 1) := by
    rw [numbers_succ, id_eq, ← sound.numbered]
  have unopened : id ∉ party.opened := by
    have nodup : (numbers dialed (party.opened.length + 1)).Nodup := nodup_numbers bound
    rw [← opened_eq] at nodup
    exact fun before => List.disjoint_of_nodup_append nodup before (List.mem_singleton_self id)
  constructor
  case numbered =>
    rw [Party.begin, List.length_append]
    exact opened_eq
  case next =>
    rw [Party.begin, List.length_append, List.length_singleton, number_succ, id_eq]
  case once =>
    intro stream
    have before := sound.once stream
    rw [pending_begin, opens_append, List.count_append, Party.begin, List.count_append,
      ← Nat.add_assoc]
    exact Nat.add_le_add_right before _
  case owned =>
    rw [pending_begin]
    intro frame among written
    rcases List.mem_append.mp among with before | new
    · exact sound.owned frame before written
    · obtain rfl : frame = { kind := .opening, id } := by simpa [Task.frame?] using new
      rcases written with data | fin
      · cases data
      · cases fin
  case fits =>
    rw [pending_begin, ← List.append_assoc]
    intro frame among
    rcases List.mem_append.mp among with before | new
    · exact sound.fits frame before
    · obtain rfl : frame = { kind := .opening, id } := by simpa [Task.frame?] using new
      exact Nat.zero_le _
  case held => exact sound.held
  case released => exact sound.released
  case queue => exact sound.queue
  case streams => exact fun stream kept => (sound.streams stream kept).reserve unopened unannounced

theorem openStream (sound : party.Sound dialed)
    (bound : party.openStream.opened.length < maximumStreams)
    (apart : ∀ id ∈ opens party.processed, ∀ count < maximumStreams, id ∉ numbers dialed count) :
    party.openStream.Sound dialed := by
  rw [Party.openStream] at bound ⊢
  rcases party.session.table.reserve_cases with ⟨error, refused⟩ | reserved
  · rw [refused]
    exact sound
  · rw [reserved] at bound ⊢
    have counted : (party.opened ++ [party.session.table.nextId]).length < maximumStreams := bound
    rw [List.length_append, List.length_singleton] at counted
    refine sound.number_stream rfl counted fun announced => apart _ announced _ counted ?_
    rw [numbers_succ, sound.next]
    exact List.mem_append_right _ (List.mem_singleton_self _)

theorem write (sound : party.Sound dialed) (id : UInt32) (bytes : Bytes) :
    (party.write id bytes).Sound dialed := by
  rw [Party.write]
  split
  · rename_i held
    split
    · have paced : Sound dialed
          { party with session := party.session.pace (bytes.take maximumPayload).length } :=
        { sound with }
      exact paced.begin_frame rfl FrameKind.noConfusion (fun _ => held) (List.length_take_le _ _)
    · exact sound
  · exact sound

theorem closeStream (sound : party.Sound dialed) (id : UInt32) :
    (party.closeStream id).Sound dialed := by
  rw [Party.closeStream]
  split
  · rename_i held
    have forgotten : Sound dialed
        { party with
          session := { party.session with table := party.session.table.erase id }
          released := party.released ++ [id] } := by
      refine { sound with released := ?_, streams := ?_ }
      · intro stream closed
        rcases List.mem_append.mp closed with before | new
        · exact sound.released stream before
        · rw [List.mem_singleton.mp new]
          exact held
      · intro stream kept
        rw [List.mem_append, List.mem_singleton, not_or] at kept
        rw [Table.find?_erase, if_neg kept.2]
        exact sound.streams stream kept.1
    -- Whether the other side is told depends on the table before, which is forgotten here.
    obtain ⟨tell, table_eq⟩ : ∃ tell, party.session.table.closeStream id =
        (tell, party.session.table.erase id) := ⟨_, rfl⟩
    rw [table_eq]
    cases tell with
    | false => exact forgotten.begin_nothing rfl
    | true =>
        exact forgotten.begin_frame rfl FrameKind.noConfusion (fun _ => held) (Nat.zero_le _)
  · exact sound

theorem mark (sound : party.Sound dialed) (code : CloseCode) (reason : String) :
    Sound dialed
      { party with
        session := { party.session with table := party.session.table.markClosed code reason } } := by
  refine { sound with next := ?_, queue := ?_, streams := ?_ }
  · rw [Table.markClosed_nextId]
    exact sound.next
  · rw [Table.markClosed_queue]
    exact sound.queue
  · intro id kept
    rw [Table.find?_markClosed]
    exact sound.streams id kept

theorem close (sound : party.Sound dialed) (code : CloseCode) (reason : String) :
    (party.close code reason).Sound dialed := by
  rw [Party.close]
  split
  · exact sound
  · refine (sound.mark code reason).begin_frame rfl FrameKind.noConfusion ?_
      (Frame.closing_fits code reason)
    rintro (data | fin)
    · cases data
    · cases fin

theorem with_session (sound : party.Sound dialed) {session : Session}
    (same : session.table = party.session.table) :
    Sound dialed { party with session } := by
  refine { sound with next := ?_, queue := ?_, streams := ?_ } <;> rw [same]
  · exact sound.next
  · exact sound.queue
  · exact sound.streams

/-- A thread goes on without having written a frame. -/
theorem skip (sound : party.Sound dialed) {thread : Nat} {task : Task} {rest later : List Task}
    (found : party.threads[thread]? = some (task :: rest))
    (same : later.filterMap Task.frame? = rest.filterMap Task.frame?) :
    Sound dialed { party with threads := party.threads.set thread later } := by
  obtain ⟨front, back, before, after⟩ := pending_set found
  have fewer : { party with threads := party.threads.set thread later }.pending.Sublist
      party.pending := by
    rw [before, after, same]
    refine List.Sublist.append (List.Sublist.append (List.Sublist.refl _) ?_) (List.Sublist.refl _)
    exact (List.sublist_cons_self task rest).filterMap _
  refine { sound with once := fun id => ?_, owned := ?_, fits := ?_ }
  · have less : (opens { party with threads := party.threads.set thread later }.pending).count id ≤
        (opens party.pending).count id := ((fewer.filter _).map _).count_le id
    exact Nat.le_trans (Nat.add_le_add_left less _) (sound.once id)
  · exact fun frame among => sound.owned frame (fewer.subset among)
  · intro frame among
    refine sound.fits frame ?_
    exact ((List.Sublist.refl party.sent).append fewer).subset among

/-- A thread goes on after having written a frame. -/
theorem deliver (sound : party.Sound dialed) {thread : Nat} {frame : Frame} {rest : List Task}
    (found : party.threads[thread]? = some (.send frame :: rest)) :
    Sound dialed
      { party with
        held := if frame.kind = .opening then party.held ++ [frame.id] else party.held
        sent := party.sent ++ [frame]
        threads := party.threads.set thread rest } := by
  obtain ⟨left, left_eq, moved⟩ : ∃ left,
      (party.threads.set thread rest).flatten.filterMap Task.frame? = left ∧
        party.pending.Perm (frame :: left) := ⟨_, rfl, pending_send found⟩
  have more_held : ∀ id ∈ party.held,
      id ∈ if frame.kind = .opening then party.held ++ [frame.id] else party.held := by
    intro id got
    split
    · exact List.mem_append_left _ got
    · exact got
  refine { sound with once := fun id => ?_, owned := ?_, fits := ?_, held := ?_, released := ?_ }
  · have announced := sound.once id
    have same_count : (opens party.pending).count id = (opens ([frame] ++ left)).count id :=
      ((moved.filter _).map _).count_eq id
    change (opens (party.sent ++ [frame])).count id +
      (opens ((party.threads.set thread rest).flatten.filterMap Task.frame?)).count id ≤ _
    rw [left_eq]
    rw [same_count] at announced
    simp only [opens_append, List.count_append] at announced ⊢
    omega
  · intro waiting among written
    refine more_held _ (sound.owned waiting (moved.mem_iff.mpr ?_) written)
    rw [← left_eq]
    exact List.mem_cons_of_mem _ among
  · intro waiting among
    have among_moved : waiting ∈ party.sent ++ ([frame] ++ left) := by
      rw [← left_eq, ← List.append_assoc]
      exact among
    refine sound.fits waiting ?_
    rcases List.mem_append.mp among_moved with sent | later
    · exact List.mem_append_left _ sent
    · exact List.mem_append_right _ (moved.mem_iff.mpr later)
  · intro id got
    rw [opens_append, List.mem_append, opens_singleton]
    split at got
    · rename_i opening
      rw [if_pos opening]
      rcases List.mem_append.mp got with before_id | new
      · exact (sound.held id before_id).imp_left .inl
      · exact .inl (.inr new)
    · exact (sound.held id got).imp_left .inl
  · exact fun id closed => more_held id (sound.released id closed)

theorem proceed (sound : party.Sound dialed) (thread : Nat) : (party.proceed thread).Sound dialed := by
  rw [Party.proceed]
  split
  · rename_i task rest found
    cases task with
    | mark code reason => exact (sound.skip found rfl).mark code reason
    | unlink => exact (sound.skip found rfl).with_session rfl
    | send frame =>
        obtain ⟨link, mask, same⟩ := party.session.transmit_eq frame.layout
        rw [perform]
        split
        · rename_i after written
          rw [written] at same
          obtain rfl : after = { party.session with link, mask } := same
          exact (sound.deliver found).with_session rfl
        · rename_i cause after broken
          rw [broken] at same
          obtain rfl : after = { party.session with link, mask } := same
          refine (sound.skip found ?_).with_session rfl
          rfl
  · exact sound

theorem accept (sound : party.Sound dialed) : party.accept.Sound dialed := by
  rw [Party.accept, Session.accept]
  rcases party.session.table.accept_cases with ⟨id, queue, waiting, accepted⟩ | ⟨result, none, no_id⟩
  · rw [accepted]
    refine { sound with owned := ?_, held := ?_, released := ?_, queue := ?_ }
    · exact fun frame among written => List.mem_append_left _ (sound.owned frame among written)
    · intro stream got
      rcases List.mem_append.mp got with before | new
      · exact (sound.held stream before).imp_right (List.mem_append_left _)
      · exact .inr (List.mem_append_right _ new)
    · exact fun stream closed => List.mem_append_left _ (sound.released stream closed)
    · have before := sound.queue
      rw [waiting] at before
      rw [← before, List.append_assoc]
      rfl
  · rw [none]
    rcases result with _ | _ | id
    · exact sound
    · exact sound
    · exact absurd rfl (no_id id)

theorem read (sound : party.Sound dialed) (id : UInt32) (count : Nat) :
    (party.read id count).Sound dialed := by
  refine { sound with next := ?_, queue := ?_, streams := ?_ }
  · exact (Table.read_nextId _ _ _).trans sound.next
  · exact (congrArg (party.accepted ++ ·) (Table.read_queue _ _ _)).trans sound.queue
  · exact fun stream kept => (sound.streams stream kept).read id count

theorem setLimit (sound : party.Sound dialed) (id : UInt32) (limit : Option Nat) :
    Sound dialed { party with session := party.session.setLimit id limit } := by
  refine { sound with next := ?_, queue := ?_, streams := ?_ }
  · exact (Table.modify_nextId _ _ _).trans sound.next
  · exact (congrArg (party.accepted ++ ·) (Table.modify_queue _ _ _)).trans sound.queue
  · exact fun stream kept => (sound.streams stream kept).setLimit id limit

theorem settle {after : Session}
    (sound : Sound dialed { party with session := { after with link := party.session.link } }) :
    (party.settle after).Sound dialed := by
  rw [Party.settle]
  split
  · exact sound
  · exact sound.begin_nothing rfl

theorem lose (sound : party.Sound dialed) (cause : IoError) : (party.lose cause).Sound dialed := by
  rw [Party.lose]
  split
  · rename_i reading
    refine settle ?_
    rw [Session.lose, if_pos reading]
    split
    · exact sound
    · exact (sound.mark _ _).with_session rfl
  · exact sound

/-- Frames arrive.  What is cut from the bytes has to make sense after the frames before it. -/
theorem arrive (sound : party.Sound dialed) {incoming : Bytes} {count : Nat} {bytes : Bytes}
    (bytes_eq : bytes = party.session.unread ++
      party.session.clear ((incoming.drop party.taken).take count))
    (received : Received party.session.table bytes (applied bytes))
    (proper : ∀ front frame, front ++ [frame] <+: applied bytes →
      Proper party.opened (party.processed ++ front) frame) :
    (party.arrive incoming count).Sound dialed := by
  rw [Party.arrive]
  split
  · rename_i reading
    refine settle ?_
    have cut : Sound dialed
        { party with
          session :=
            { party.session with
              table := (applied bytes).foldl Table.receiveFrame party.session.table }
          taken := party.taken + ((incoming.drop party.taken).take count).length
          processed := party.processed ++ applied bytes } := by
      refine { sound with next := ?_, queue := ?_, streams := ?_ }
      · exact (Table.receiveFrames_nextId _ _).trans sound.next
      · rw [Table.receiveFrames_queue, ← List.append_assoc, sound.queue, ← opens_append]
      · exact fun id kept => (sound.streams id kept).receiveFrames _ proper
    rw [Session.arrive_eq reading, ← bytes_eq]
    cases received with
    | waiting unread _ result =>
        rw [result]
        exact cut.with_session rfl
    | ended code reason unread result =>
        rw [result]
        exact (cut.mark code reason).with_session rfl
  · exact sound

theorem start (remote : Net.SocketAddress) (dialed : Bool) (keystream : Option Keystream)
    (link : Endpoint) : (Party.start remote dialed keystream link).Sound dialed where
  numbered := rfl
  next := by cases dialed <;> rfl
  once _ := Nat.le_refl 0
  owned := by simp [Party.start, pending]
  fits := by simp [Party.start, pending]
  held := by simp [Party.start]
  released := by simp [Party.start]
  queue := rfl
  streams _ _ := .unknown (by simp [Party.start]) (by simp [Party.start, opens]) rfl rfl
    (by simp [Party.start, Finished])

/-- Whatever happens at one side, except that frames arrive. -/
theorem act (sound : party.Sound dialed) (incoming : Bytes) {action : Action}
    (stays : ∀ count, action ≠ .arrive count)
    (bound : (party.act incoming action).opened.length < maximumStreams)
    (apart : ∀ id ∈ opens party.processed, ∀ count < maximumStreams, id ∉ numbers dialed count) :
    (party.act incoming action).Sound dialed := by
  cases action with
  | openStream => exact sound.openStream bound apart
  | write id bytes => exact sound.write id bytes
  | closeStream id => exact sound.closeStream id
  | close code reason => exact sound.close code reason
  | proceed thread => exact sound.proceed thread
  | accept => exact sound.accept
  | read id count => exact sound.read id count
  | setLimit id limit => exact sound.setLimit id limit
  | arrive count => exact absurd rfl (stays count)
  | lose cause => exact sound.lose cause
  | sever count kind => exact sound.with_session rfl

end Sound
end Party
end Mux
end TunnelProxy
