import TunnelProxy.Proofs.Mux.Framing

/-!
# What a stream table knows of a stream

A table keeps of each stream exactly the bytes which its frames have brought and no read has handed
out, and whether the other side has finished it.  This holds as long as the stream is not closed here,
provided that each stream is announced once, and before anything else is said of it.
-/

namespace TunnelProxy
namespace Mux

/-! ## Looking streams up -/

namespace Table

variable (table : Table) (id other : UInt32)

theorem find?_erase :
    (table.erase id).find? other = if other = id then none else table.find? other := by
  simp only [find?, erase, List.find?_filter]
  split
  · rename_i same
    simp [same]
  · rename_i different
    congr 2
    funext entry
    by_cases found : entry.1 = other <;> simp [found, different]

theorem find?_insert (entry : StreamEntry) :
    (table.insert id entry).find? other = if other = id then some entry else table.find? other := by
  have rest := table.find?_erase id other
  simp only [find?, insert, List.find?_cons] at rest ⊢
  by_cases same : other = id
  · simp [same]
  · have head : decide (id = other) = false := by simpa using Ne.symm same
    simp only [head, rest, if_neg same]

theorem find?_modify (change : StreamEntry → StreamEntry) :
    (table.modify id change).find? other =
      if other = id then (table.find? id).map change else table.find? other := by
  unfold modify
  split
  · rename_i entry found
    rw [find?_insert, found, Option.map_some]
  · rename_i missing
    split
    · rename_i same
      rw [same, missing, Option.map_none]
    · rfl

@[simp] theorem modify_queue (change : StreamEntry → StreamEntry) :
    (table.modify id change).queue = table.queue := by
  unfold modify
  split <;> rfl

@[simp] theorem modify_nextId (change : StreamEntry → StreamEntry) :
    (table.modify id change).nextId = table.nextId := by
  unfold modify
  split <;> rfl

@[simp] theorem find?_markClosed (code : CloseCode) (reason : String) :
    (table.markClosed code reason).find? id = table.find? id := by
  unfold markClosed
  split <;> rfl

@[simp] theorem markClosed_queue (code : CloseCode) (reason : String) :
    (table.markClosed code reason).queue = table.queue := by
  unfold markClosed
  split <;> rfl

@[simp] theorem markClosed_nextId (code : CloseCode) (reason : String) :
    (table.markClosed code reason).nextId = table.nextId := by
  unfold markClosed
  split <;> rfl

/-- While no bytes are there, a read says why. -/
theorem read_of_empty {table : Table} {id : UInt32} {entry : StreamEntry}
    (found : table.find? id = some entry) (empty : entry.data = []) (count : Nat) :
    table.read id count =
      (if count = 0 || entry.finished || entry.closedHere then some (.ok [])
        else table.closedError?.map fun error => .error ⟨.connectionAborted, error.message⟩,
        table) := by
  simp only [read, found, empty, List.isEmpty_nil, Bool.not_true, Bool.false_eq_true, if_false]
  split
  · rfl
  · cases table.closedError? <;> rfl

theorem read_of_data {table : Table} {id : UInt32} {entry : StreamEntry}
    (found : table.find? id = some entry) (data : entry.data ≠ []) (count : Nat) :
    table.read id count = (some (.ok (entry.data.take count)),
      table.insert id { entry with data := entry.data.drop count }) := by
  simp [read, found, data]

theorem read_of_missing {table : Table} {id : UInt32} (missing : table.find? id = none)
    (count : Nat) : table.read id count = (some (.ok []), table) := by
  simp only [read, missing]

/-- A read leaves the table alone, or it takes bytes of its stream. -/
theorem read_table (count : Nat) :
    (table.read id count).2 = table ∨
      ∃ entry, (table.read id count).2 = table.insert id entry := by
  cases found : table.find? id with
  | none => exact .inl (by rw [read_of_missing found])
  | some entry =>
      by_cases empty : entry.data = []
      · exact .inl (by rw [read_of_empty found empty])
      · exact .inr ⟨_, by rw [read_of_data found empty]⟩

@[simp] theorem read_queue (count : Nat) : (table.read id count).2.queue = table.queue := by
  rcases table.read_table id count with same | ⟨entry, inserted⟩
  · rw [same]
  · rw [inserted]
    rfl

@[simp] theorem read_nextId (count : Nat) : (table.read id count).2.nextId = table.nextId := by
  rcases table.read_table id count with same | ⟨entry, inserted⟩
  · rw [same]
  · rw [inserted]
    rfl

/-- A number is given to a new stream unless the session is closed. -/
theorem reserve_cases :
    (∃ error, table.reserve = (.error error, table)) ∨
      table.reserve = (.ok table.nextId,
        { table.insert table.nextId {} with nextId := table.nextId + 2 }) := by
  unfold reserve
  split
  · exact .inl ⟨_, rfl⟩
  · exact .inr rfl

/-- The first stream which waits is accepted. -/
theorem accept_cases :
    (∃ id queue, table.queue = id :: queue ∧
      table.accept = (some (.ok id), { table with queue })) ∨
      ∃ result, table.accept = (result, table) ∧ ∀ id, result ≠ some (.ok id) := by
  unfold accept
  split
  · exact .inl ⟨_, _, ‹_›, rfl⟩
  · exact .inr ⟨_, rfl, by cases table.closedError? <;> simp⟩

end Table

/-- The bytes which are kept of a stream. -/
def Table.buffered (table : Table) (id : UInt32) : Bytes :=
  ((table.find? id).map StreamEntry.data).getD []

/-! ## What frames say and reads hand out -/

/-- The streams which some frames open, in order. -/
def opens (frames : List Frame) : List UInt32 :=
  (frames.filter fun frame => frame.kind = .opening).map Frame.id

/-- The bytes which some frames bring for a stream. -/
def payloads (id : UInt32) (frames : List Frame) : Bytes :=
  (frames.filter fun frame => frame.kind = .data ∧ frame.id = id).flatMap Frame.payload

/-- One of some frames says that no more bytes of a stream follow. -/
def Finished (id : UInt32) (frames : List Frame) : Prop :=
  ∃ frame ∈ frames, frame.kind = .fin ∧ frame.id = id

instance (id : UInt32) (frames : List Frame) : Decidable (Finished id frames) :=
  inferInstanceAs (Decidable (∃ frame ∈ frames, frame.kind = .fin ∧ frame.id = id))

/-- The bytes which some reads have handed out of a stream. -/
def handed (id : UInt32) (reads : List (UInt32 × Bytes)) : Bytes :=
  (reads.filter fun read => read.1 = id).flatMap Prod.snd

/-- What a read of a stream has handed out. -/
def recorded (id : UInt32) : Option (Except IoError Bytes) → List (UInt32 × Bytes)
  | some (.ok bytes) => [(id, bytes)]
  | _ => []

section Frames

variable (id : UInt32) (frame : Frame) (first second : List Frame)

@[simp] theorem opens_append : opens (first ++ second) = opens first ++ opens second := by
  simp [opens]

@[simp] theorem payloads_append :
    payloads id (first ++ second) = payloads id first ++ payloads id second := by
  simp [payloads]

@[simp] theorem finished_append :
    Finished id (first ++ second) ↔ Finished id first ∨ Finished id second := by
  simp only [Finished, List.mem_append, or_and_right, exists_or]

theorem opens_singleton : opens [frame] = if frame.kind = .opening then [frame.id] else [] := by
  by_cases opening : frame.kind = .opening <;> simp [opens, opening]

theorem payloads_singleton :
    payloads id [frame] = if frame.kind = .data ∧ frame.id = id then frame.payload else [] := by
  by_cases bytes : frame.kind = .data ∧ frame.id = id <;> simp [payloads, bytes]

theorem finished_singleton : Finished id [frame] ↔ frame.kind = .fin ∧ frame.id = id := by
  simp [Finished]

theorem handed_concat (reads : List (UInt32 × Bytes)) (other : UInt32) (bytes : Bytes) :
    handed id (reads ++ [(other, bytes)]) = handed id reads ++ if other = id then bytes else [] := by
  by_cases same : other = id <;> simp [handed, same]

theorem handed_recorded_other {stream : UInt32} (other : stream ≠ id)
    (reads : List (UInt32 × Bytes)) (result : Option (Except IoError Bytes)) :
    handed id (reads ++ recorded stream result) = handed id reads := by
  rcases result with _ | _ | bytes
  · simp [recorded]
  · simp [recorded]
  · simp [recorded, handed_concat, other]

end Frames

/-- A stream is announced once, and before anything else is said of it.  The streams which the
receiving side has opened need no announcement. -/
def Proper (opened : List UInt32) (before : List Frame) (frame : Frame) : Prop :=
  match frame.kind with
  | .opening => frame.id ∉ opened ∧ frame.id ∉ opens before
  | .data | .fin => frame.id ∈ opened ∨ frame.id ∈ opens before
  | .close => True

/-! ## Streams of one side -/

/-- What is kept of a stream which has not been closed here, after the frames which were applied and
the reads which were made. -/
inductive Follows (opened : List UInt32) (processed : List Frame) (reads : List (UInt32 × Bytes))
    (id : UInt32) : Option StreamEntry → Prop
  /-- The stream was opened by one of the sides. -/
  | known (entry : StreamEntry) (live : entry.closedHere = false)
      (announced : id ∈ opened ∨ id ∈ opens processed)
      (bytes : handed id reads ++ entry.data = payloads id processed)
      (finished : entry.finished = true ↔ Finished id processed) :
      Follows opened processed reads id (some entry)
  /-- Nothing has been said of the stream. -/
  | unknown (unopened : id ∉ opened) (unannounced : id ∉ opens processed)
      (silent : payloads id processed = []) (untouched : handed id reads = [])
      (unfinished : ¬Finished id processed) :
      Follows opened processed reads id none

namespace Follows

variable {opened : List UInt32} {processed : List Frame} {reads : List (UInt32 × Bytes)} {id : UInt32}
  {stored : Option StreamEntry} {table : Table}

/-- A frame which says nothing of a stream changes nothing of it. -/
theorem append_other (follows : Follows opened processed reads id stored) {frame : Frame}
    (other : frame.kind = .close ∨ frame.id ≠ id) :
    Follows opened (processed ++ [frame]) reads id stored := by
  have same_opens : id ∈ opens (processed ++ [frame]) ↔ id ∈ opens processed := by
    rcases other with closes | other
    · simp [opens_singleton, closes]
    · rw [opens_append, opens_singleton]
      split <;> simp [Ne.symm other]
  have same_payloads : payloads id (processed ++ [frame]) = payloads id processed := by
    rcases other with closes | other
    · simp [payloads_singleton, closes]
    · simp [payloads_singleton, other]
  have same_finished : Finished id (processed ++ [frame]) ↔ Finished id processed := by
    rcases other with closes | other
    · simp [finished_singleton, closes]
    · simp [finished_singleton, other]
  cases follows with
  | known entry live announced bytes finished =>
      exact .known entry live (announced.imp_right same_opens.mpr) (bytes.trans same_payloads.symm)
        (finished.trans same_finished.symm)
  | unknown unopened unannounced silent untouched unfinished =>
      exact .unknown unopened (mt same_opens.mp unannounced) (same_payloads.trans silent) untouched
        (mt same_finished.mp unfinished)

theorem exists_entry (follows : Follows opened processed reads id stored)
    (announced : id ∈ opened ∨ id ∈ opens processed) :
    ∃ entry, stored = some entry ∧ entry.closedHere = false ∧
      handed id reads ++ entry.data = payloads id processed ∧
      (entry.finished = true ↔ Finished id processed) := by
  cases follows with
  | known entry live _ bytes finished => exact ⟨entry, rfl, live, bytes, finished⟩
  | unknown unopened unannounced => exact absurd announced (not_or.mpr ⟨unopened, unannounced⟩)

theorem nothing_said (follows : Follows opened processed reads id stored)
    (unopened : id ∉ opened) (unannounced : id ∉ opens processed) :
    payloads id processed = [] ∧ handed id reads = [] ∧ ¬Finished id processed := by
  cases follows with
  | known _ _ announced => exact absurd announced (not_or.mpr ⟨unopened, unannounced⟩)
  | unknown _ _ silent untouched unfinished => exact ⟨silent, untouched, unfinished⟩

theorem receive_opening (follows : Follows opened processed reads id (table.find? id))
    (unopened : id ∉ opened) (unannounced : id ∉ opens processed) (payload : Bytes) :
    Follows opened (processed ++ [⟨.opening, id, payload⟩]) reads id
      ((table.receiveFrame ⟨.opening, id, payload⟩).find? id) := by
  have inserted : (table.receiveFrame ⟨.opening, id, payload⟩).find? id = some {} :=
    (table.find?_insert id id {}).trans (if_pos rfl)
  obtain ⟨silent, untouched, unfinished⟩ := follows.nothing_said unopened unannounced
  rw [inserted]
  refine .known _ rfl (.inr ?_) ?_ ?_
  · simp [opens_singleton]
  · simp [payloads_singleton, silent, untouched]
  · simp [finished_singleton, unfinished]

theorem receive_data (follows : Follows opened processed reads id (table.find? id))
    (announced : id ∈ opened ∨ id ∈ opens processed) (payload : Bytes) :
    Follows opened (processed ++ [⟨.data, id, payload⟩]) reads id
      ((table.receiveFrame ⟨.data, id, payload⟩).find? id) := by
  obtain ⟨entry, found, live, bytes, finished⟩ := follows.exists_entry announced
  have extended : (table.receiveFrame ⟨.data, id, payload⟩).find? id =
      some { entry with data := entry.data ++ payload } := by
    simp [Table.receiveFrame, Table.receive, Table.find?_modify, found, live]
  rw [extended]
  refine .known _ live (announced.imp_right ?_) ?_ ?_
  · simp +contextual
  · simp [payloads_singleton, ← bytes]
  · simp [finished_singleton, finished]

theorem receive_fin (follows : Follows opened processed reads id (table.find? id))
    (announced : id ∈ opened ∨ id ∈ opens processed) (payload : Bytes) :
    Follows opened (processed ++ [⟨.fin, id, payload⟩]) reads id
      ((table.receiveFrame ⟨.fin, id, payload⟩).find? id) := by
  obtain ⟨entry, found, live, bytes, finished⟩ := follows.exists_entry announced
  have ended : (table.receiveFrame ⟨.fin, id, payload⟩).find? id =
      some { entry with finished := true } := by
    simp [Table.receiveFrame, Table.receive, Table.find?_modify, found]
  rw [ended]
  refine .known _ live (announced.imp_right ?_) ?_ ?_
  · simp +contextual
  · simp [payloads_singleton, bytes]
  · simp [finished_singleton]

theorem receive (follows : Follows opened processed reads id (table.find? id)) {frame : Frame}
    (proper : Proper opened processed frame) :
    Follows opened (processed ++ [frame]) reads id ((table.receiveFrame frame).find? id) := by
  obtain ⟨kind, stream, payload⟩ := frame
  by_cases same : stream = id
  · subst same
    cases kind with
    | opening => exact follows.receive_opening proper.1 proper.2 payload
    | data => exact follows.receive_data proper payload
    | fin => exact follows.receive_fin proper payload
    | close => exact follows.append_other (.inl rfl)
  · have unchanged : (table.receiveFrame ⟨kind, stream, payload⟩).find? id = table.find? id := by
      have different : id ≠ stream := Ne.symm same
      cases kind with
      | opening => exact (table.find?_insert stream id {}).trans (if_neg different)
      | data => exact (table.find?_modify stream id _).trans (if_neg different)
      | fin => exact (table.find?_modify stream id _).trans (if_neg different)
      | close => rfl
    rw [unchanged]
    exact follows.append_other (.inr same)

/-- Frames which are applied one after another are followed. -/
theorem receiveFrames (follows : Follows opened processed reads id (table.find? id))
    (frames : List Frame)
    (proper : ∀ front frame, front ++ [frame] <+: frames → Proper opened (processed ++ front) frame) :
    Follows opened (processed ++ frames) reads id
      ((frames.foldl Table.receiveFrame table).find? id) := by
  induction frames generalizing table processed with
  | nil => simpa using follows
  | cons frame frames ih =>
      have first : Proper opened processed frame := by
        simpa using proper [] frame (List.prefix_append [frame] frames)
      rw [List.append_cons]
      refine ih (follows.receive first) fun front later among => ?_
      simpa using proper (frame :: front) later ((List.prefix_cons_inj frame).mpr among)

theorem with_reads (follows : Follows opened processed reads id stored)
    {later : List (UInt32 × Bytes)} (same : handed id later = handed id reads) :
    Follows opened processed later id stored := by
  cases follows with
  | known entry live announced bytes finished =>
      exact .known entry live announced (by rw [same, bytes]) finished
  | unknown unopened unannounced silent untouched unfinished =>
      exact .unknown unopened unannounced silent (same.trans untouched) unfinished

theorem append_opened (follows : Follows opened processed reads id stored) {stream : UInt32}
    (other : id ≠ stream) : Follows (opened ++ [stream]) processed reads id stored := by
  cases follows with
  | known entry live announced bytes finished =>
      exact .known entry live (announced.imp_left (List.mem_append_left _)) bytes finished
  | unknown unopened unannounced silent untouched unfinished =>
      exact .unknown (by simp [unopened, other]) unannounced silent untouched unfinished

/-- A read hands out what it takes. -/
theorem read (follows : Follows opened processed reads id (table.find? id)) (stream : UInt32)
    (count : Nat) :
    Follows opened processed (reads ++ recorded stream (table.read stream count).1) id
      ((table.read stream count).2.find? id) := by
  by_cases same : stream = id
  · subst same
    cases looked : table.find? stream with
    | none =>
        rw [Table.read_of_missing looked]
        rw [looked] at follows ⊢
        exact follows.with_reads (by simp [recorded, handed_concat])
    | some entry =>
        by_cases empty : entry.data = []
        · rw [Table.read_of_empty looked empty]
          refine follows.with_reads ?_
          split
          · simp [recorded, handed_concat]
          · cases table.closedError? <;> simp [recorded]
        · rw [Table.read_of_data looked empty, Table.find?_insert, if_pos rfl]
          rw [looked] at follows
          cases follows with
          | known _ live announced bytes finished =>
              refine .known _ live announced ?_ finished
              rw [recorded, handed_concat, if_pos rfl, List.append_assoc, List.take_append_drop,
                bytes]
  · have unchanged : (table.read stream count).2.find? id = table.find? id := by
      rcases table.read_table stream count with same_table | ⟨entry, inserted⟩
      · rw [same_table]
      · rw [inserted, Table.find?_insert, if_neg (Ne.symm same)]
    rw [unchanged]
    exact follows.with_reads (handed_recorded_other id same _ _)

/-- A stream which is opened here and of which nothing has been said is followed from then on. -/
theorem reserve (follows : Follows opened processed reads id (table.find? id)) {stream : UInt32}
    (unopened : stream ∉ opened) (unannounced : stream ∉ opens processed) :
    Follows (opened ++ [stream]) processed reads id ((table.insert stream {}).find? id) := by
  rw [Table.find?_insert]
  split
  · rename_i same
    subst same
    obtain ⟨silent, untouched, unfinished⟩ := follows.nothing_said unopened unannounced
    refine .known _ rfl (.inl (by simp)) ?_ ?_
    · rw [untouched, silent, List.append_nil]
    · simp [unfinished]
  · rename_i different
    exact follows.append_opened different

theorem setLimit (follows : Follows opened processed reads id (table.find? id)) (stream : UInt32)
    (limit : Option Nat) :
    Follows opened processed reads id ((table.setLimit stream limit).find? id) := by
  rw [Table.setLimit, Table.find?_modify]
  split
  · rename_i same
    subst same
    cases looked : table.find? id with
    | none =>
        rw [looked] at follows
        exact follows
    | some entry =>
        rw [looked] at follows
        cases follows with
        | known _ live announced bytes finished =>
            exact .known _ live announced bytes finished
  · exact follows

/-- What is kept of a stream is what frames have brought and no read has handed out. -/
theorem handed_append_buffered (follows : Follows opened processed reads id (table.find? id)) :
    handed id reads ++ table.buffered id = payloads id processed := by
  cases looked : table.find? id with
  | none =>
      rw [looked] at follows
      cases follows with
      | unknown _ _ silent untouched _ => rw [Table.buffered, looked, silent, untouched]; rfl
  | some entry =>
      rw [looked] at follows
      cases follows with
      | known _ _ _ bytes _ => rw [Table.buffered, looked]; exact bytes

/-- What a read of a stream which was opened by one of the sides says. -/
theorem read_eq (follows : Follows opened processed reads id (table.find? id))
    (announced : id ∈ opened ∨ id ∈ opens processed) {count : Nat} (room : 0 < count) :
    (table.read id count).1 =
      if table.buffered id ≠ [] then some (.ok ((table.buffered id).take count))
      else if Finished id processed then some (.ok [])
      else table.closedError?.map fun error => .error ⟨.connectionAborted, error.message⟩ := by
  obtain ⟨entry, found, live, bytes, finished⟩ := follows.exists_entry announced
  have buffered_eq : table.buffered id = entry.data := by rw [Table.buffered, found]; rfl
  have some_room : count ≠ 0 := by omega
  rw [buffered_eq]
  by_cases empty : entry.data = []
  · rw [Table.read_of_empty found empty]
    simp [empty, some_room, live, finished]
  · rw [Table.read_of_data found empty, if_pos empty]

/-- A read finds the end of a stream only when everything was handed out. -/
theorem read_end_iff (follows : Follows opened processed reads id (table.find? id))
    (announced : id ∈ opened ∨ id ∈ opens processed) {count : Nat} (room : 0 < count) :
    (table.read id count).1 = some (.ok []) ↔
      Finished id processed ∧ handed id reads = payloads id processed := by
  have bytes := follows.handed_append_buffered
  have all_handed : handed id reads = payloads id processed ↔ table.buffered id = [] := by
    rw [← bytes, List.self_eq_append_right]
  rw [follows.read_eq announced room, all_handed]
  by_cases empty : table.buffered id = []
  · rw [if_neg (not_not.mpr empty)]
    by_cases finished : Finished id processed
    · simp [finished, empty]
    · rw [if_neg finished]
      cases table.closedError? <;> simp [finished]
  · have some_room : count ≠ 0 := by omega
    simp [empty, some_room]

end Follows

/-! ## Streams which wait to be accepted -/

theorem Table.receiveFrame_queue (table : Table) (frame : Frame) :
    (table.receiveFrame frame).queue = table.queue ++ opens [frame] := by
  obtain ⟨kind, id, payload⟩ := frame
  cases kind <;> simp [receiveFrame, receive, opens_singleton]

theorem Table.receiveFrame_nextId (table : Table) (frame : Frame) :
    (table.receiveFrame frame).nextId = table.nextId := by
  obtain ⟨kind, id, payload⟩ := frame
  cases kind <;> simp [receiveFrame, receive, insert, erase]

theorem Table.receiveFrames_queue (table : Table) (frames : List Frame) :
    (frames.foldl receiveFrame table).queue = table.queue ++ opens frames := by
  induction frames generalizing table with
  | nil => simp [opens]
  | cons frame frames ih =>
      rw [List.foldl_cons, ih, receiveFrame_queue, List.append_assoc, ← opens_append,
        List.singleton_append]

theorem Table.receiveFrames_nextId (table : Table) (frames : List Frame) :
    (frames.foldl receiveFrame table).nextId = table.nextId := by
  induction frames generalizing table with
  | nil => rfl
  | cons frame frames ih => rw [List.foldl_cons, ih, receiveFrame_nextId]

end Mux
end TunnelProxy
