import TunnelProxy.Proofs.Mux.Connection

/-!
# What one side gets of what the other one sends

However the users of two sessions on one connection take turns, in whatever pieces bytes arrive and
whenever the connection fails, the bytes which are read from a stream are those which were written to
it, and streams are accepted in the order in which they were announced.
-/

namespace TunnelProxy
namespace Mux

/-! ## Both directions -/

/-- What holds of one direction of a connection, whatever has happened at its ends. -/
structure Flows (keystream : Option Keystream) (dialed : Bool) (sender receiver : Party) : Prop where
  /-- What holds at the sending side. -/
  sound : sender.Sound dialed
  /-- What was written is made of frames. -/
  writes : sender.Writes keystream
  /-- What has arrived was written. -/
  carries : Party.Carries keystream sender receiver
  /-- A stream is announced before anything else is said of it, unless the receiving side has opened
  it. -/
  announced : ∀ before frame, before ++ [frame] <+: sender.sent →
    frame.kind = .data ∨ frame.kind = .fin → frame.id ∈ receiver.opened ∨ frame.id ∈ opens before

namespace Flows

variable {keystream : Option Keystream} {dialed : Bool} {near far : Party}

theorem opens_mono {first second : List Frame} (front : first <+: second) :
    opens first <+: opens second := by
  obtain ⟨rest, rfl⟩ := front
  rw [opens_append]
  exact List.prefix_append _ _

/-- The streams which one side has announced are none of the other side's. -/
theorem apart (out : Flows keystream dialed near far) (bound : near.opened.length < maximumStreams)
    {id : UInt32} (announced : id ∈ opens far.processed) (count : Nat)
    (count_bound : count < maximumStreams) : id ∉ numbers (!dialed) count := by
  have sent := (opens_mono out.carries.processed).subset announced
  have opened := out.sound.opens_sent sent
  rw [out.sound.numbered] at opened
  exact disjoint_numbers bound count_bound opened

/-- What arrives makes sense after what has arrived before. -/
theorem proper (out : Flows keystream dialed near far) (back : far.Sound (!dialed))
    (bound : near.opened.length < maximumStreams) (far_bound : far.opened.length < maximumStreams)
    {before : List Frame} {frame : Frame} (next : before ++ [frame] <+: near.sent) :
    Proper far.opened before frame := by
  have ids := opens_mono next
  obtain ⟨kind, id, payload⟩ := frame
  cases kind with
  | opening =>
      rw [opens_append, opens_singleton, if_pos rfl] at ids
      have opened : id ∈ near.opened :=
        out.sound.opens_sent (ids.subset (List.mem_append_right _ (List.mem_singleton_self id)))
      refine ⟨fun own => ?_, fun again => ?_⟩
      · rw [out.sound.numbered] at opened
        rw [back.numbered] at own
        exact disjoint_numbers bound far_bound opened own
      · have once := (out.sound.nodup_opens bound).sublist ids.sublist
        exact List.disjoint_of_nodup_append once again (List.mem_singleton_self id)
  | data => exact out.announced before _ next (.inl rfl)
  | fin => exact out.announced before _ next (.inr rfl)
  | close => trivial

/-- Bytes arrive at one side. -/
theorem arrive (out : Flows keystream dialed near far) (back : Flows keystream (!dialed) far near)
    (bound : near.opened.length < maximumStreams) (far_bound : far.opened.length < maximumStreams)
    (count : Nat) :
    Flows keystream dialed (near.arrive far.session.link.written count) far ∧
      Flows keystream (!dialed) far (near.arrive far.session.link.written count) := by
  by_cases reading : near.session.reading = true
  · have chunk_eq : (far.session.link.written.drop near.taken).take count = _ := rfl
    obtain ⟨processed, received, carries⟩ := back.carries.arrive back.writes
      (fun frame among => back.sound.fits frame (List.mem_append_left _ among)) out.writes.aligned
      reading chunk_eq rfl
    have near_sound : near.Sound (!!dialed) := by
      rw [Bool.not_not]
      exact out.sound
    have sound := out.sound.arrive rfl received fun front frame next => by
      refine back.proper near_sound far_bound bound (.trans ?_ processed)
      rw [List.append_assoc]
      exact (List.prefix_append_right_inj _).mpr next
    have writes := out.writes.arrive far.session.link.written count
    obtain ⟨threads, arrive⟩ := Party.arrive_eq reading chunk_eq rfl
    rw [arrive] at sound writes carries ⊢
    exact ⟨⟨sound, writes, { out.carries with }, out.announced⟩, { back with carries }⟩
  · rw [Party.arrive, if_neg reading]
    exact ⟨out, back⟩

/-- A frame which is written follows what it needs. -/
theorem announced_concat (out : Flows keystream dialed near far)
    (back : Flows keystream (!dialed) far near) {frame : Frame} (among : frame ∈ near.pending)
    {before : List Frame} {last : Frame} (next : before ++ [last] <+: near.sent ++ [frame])
    (written : last.kind = .data ∨ last.kind = .fin) :
    last.id ∈ far.opened ∨ last.id ∈ opens before := by
  -- Only the last frame is new, and its stream was got by a user before.
  rcases List.prefix_concat_iff.mp next with whole | earlier
  · obtain ⟨rfl, same⟩ := List.append_inj' whole rfl
    obtain rfl : last = frame := by simpa using same
    rcases out.sound.held _ (out.sound.owned last among written) with sent | accepted
    · exact .inr sent
    · refine .inl (back.sound.opens_sent ?_)
      exact (opens_mono back.carries.processed).subset (out.sound.opens_processed accepted)
  · exact out.announced before last earlier written

/-- Nothing is written, and nothing arrives. -/
theorem quiet (out : Flows keystream dialed near far) (back : Flows keystream (!dialed) far near)
    {after : Party} (sound : after.Sound dialed) (quiet : near.Quiet after) :
    Flows keystream dialed after far ∧ Flows keystream (!dialed) far after := by
  have sent : near.sent <+: after.sent := quiet.sent ▸ List.prefix_rfl
  have output : near.output keystream <+: after.output keystream := quiet.output ▸ List.prefix_rfl
  refine ⟨⟨sound, out.writes.quiet quiet, out.carries.more sent output, ?_⟩,
    ⟨back.sound, back.writes, back.carries.still quiet.toStill, ?_⟩⟩
  · rw [quiet.sent]
    exact out.announced
  · exact fun before frame next written =>
      (back.announced before frame next written).imp_left fun opened => quiet.opened.subset opened

/-- A frame is written, or a part of it. -/
theorem send (out : Flows keystream dialed near far) (back : Flows keystream (!dialed) far near)
    {thread : Nat} {frame : Frame} {rest : List Task}
    (sound : (near.perform thread (.send frame) rest).Sound dialed)
    (found : near.threads[thread]? = some (.send frame :: rest)) :
    Flows keystream dialed (near.perform thread (.send frame) rest) far ∧
      Flows keystream (!dialed) far (near.perform thread (.send frame) rest) := by
  have among := Party.pending_of_thread found
  have fits := out.sound.fits frame (List.mem_append_right _ among)
  obtain ⟨writes, sent, output⟩ := out.writes.send fits thread rest
  have still := Party.Still.send near thread frame rest
  have more := near.sent_perform_send thread frame rest
  refine ⟨⟨sound, writes, out.carries.more more output, ?_⟩,
    ⟨back.sound, back.writes, back.carries.still still, ?_⟩⟩
  · intro before last next written
    rcases sent with same | more
    · rw [same] at next
      exact out.announced before last next written
    · rw [more] at next
      exact out.announced_concat back among next written
  · exact fun before frame next written =>
      (back.announced before frame next written).imp_left fun opened => still.opened.subset opened

/-- Anything happens at one side. -/
theorem act (out : Flows keystream dialed near far) (back : Flows keystream (!dialed) far near)
    (action : Action)
    (bound : (near.act far.session.link.written action).opened.length < maximumStreams)
    (far_bound : far.opened.length < maximumStreams) :
    Flows keystream dialed (near.act far.session.link.written action) far ∧
      Flows keystream (!dialed) far (near.act far.session.link.written action) := by
  have near_bound : near.opened.length < maximumStreams := by
    have longer := (near.act_opened far.session.link.written action).length_le
    omega
  by_cases arrives : ∃ count, action = .arrive count
  · obtain ⟨count, rfl⟩ := arrives
    exact out.arrive back near_bound far_bound count
  · have stays (count : Nat) : action ≠ .arrive count := fun same => arrives ⟨count, same⟩
    have apart (id : UInt32) (announced : id ∈ opens near.processed) (count : Nat)
        (count_bound : count < maximumStreams) : id ∉ numbers dialed count := by
      have others := back.apart far_bound announced count count_bound
      rwa [Bool.not_not] at others
    have sound := out.sound.act far.session.link.written stays bound apart
    rcases near.act_cases far.session.link.written stays with
      quiet | ⟨thread, frame, rest, found, same⟩
    · exact out.quiet back sound quiet
    · rw [same] at sound ⊢
      exact out.send back sound found

theorem start (keystream : Option Keystream) (dialed : Bool) (link farLink : Endpoint)
    (address farAddress : Net.SocketAddress) :
    Flows keystream dialed (.start address dialed keystream link)
      (.start farAddress (!dialed) keystream farLink) where
  sound := .start address dialed keystream link
  writes := ⟨rfl, [], by cases keystream <;> rfl, incomplete_nil, absurd rfl⟩
  carries := ⟨List.prefix_rfl, fun _ => ⟨Nat.zero_le _, rfl⟩⟩
  announced before frame next := by
    have longer := next.length_le
    simp [Party.start] at longer

end Flows

/-- What holds of both directions, whatever has happened at the ends of a connection. -/
def Pair.Joined (keystream : Option Keystream) (pair : Pair) : Prop :=
  Flows keystream true pair.dialing pair.listening ∧
    Flows keystream false pair.listening pair.dialing

/-- No side has opened so many streams that numbers are used again. -/
def Pair.Fresh (pair : Pair) : Prop :=
  pair.dialing.opened.length < maximumStreams ∧ pair.listening.opened.length < maximumStreams

namespace Pair

variable {keystream : Option Keystream} {pair : Pair}

theorem Fresh.of_act {step : Bool × Action} (fresh : (pair.act step).Fresh) : pair.Fresh := by
  obtain ⟨dialing, listening⟩ := fresh
  obtain ⟨_ | _, action⟩ := step
  · refine ⟨dialing, Nat.lt_of_le_of_lt ?_ listening⟩
    exact (pair.listening.act_opened _ action).length_le
  · refine ⟨Nat.lt_of_le_of_lt ?_ dialing, listening⟩
    exact (pair.dialing.act_opened _ action).length_le

theorem Joined.act (joined : pair.Joined keystream) {step : Bool × Action}
    (fresh : (pair.act step).Fresh) : (pair.act step).Joined keystream := by
  obtain ⟨dialing, listening⟩ := fresh
  obtain ⟨_ | _, action⟩ := step
  · exact (joined.2.act joined.1 action listening dialing).symm
  · exact joined.1.act joined.2 action dialing listening

theorem Joined.run (joined : pair.Joined keystream) (actions : List (Bool × Action))
    (fresh : (pair.run actions).Fresh) : (pair.run actions).Joined keystream := by
  induction actions using List.reverseRecOn with
  | nil => exact joined
  | append_singleton actions step ih =>
      have step_eq : pair.run (actions ++ [step]) = (pair.run actions).act step :=
        List.foldl_concat ..
      rw [step_eq] at fresh ⊢
      exact (ih fresh.of_act).act fresh

theorem joined_start (keystream : Option Keystream) (dialingLink listeningLink : Endpoint)
    (dialingAddress listeningAddress : Net.SocketAddress) :
    (Pair.start keystream dialingLink listeningLink dialingAddress listeningAddress).Joined
      keystream :=
  ⟨.start keystream true dialingLink listeningLink listeningAddress dialingAddress,
    .start keystream false listeningLink dialingLink dialingAddress listeningAddress⟩

end Pair

/-! ## What users see -/

/-- What the users of one side get of what the users of the other side send. -/
structure Delivers (keystream : Option Keystream) (sender receiver : Party) : Prop where
  /-- What was written is the frames one after another, perhaps with a part of one more. -/
  written : ∃ remnant, sender.output keystream = layouts sender.sent ++ remnant
  /-- What has arrived was applied or is the start of the next frame. -/
  arrived : receiver.session.reading = true →
    layouts receiver.processed ++ receiver.session.unread =
      (sender.output keystream).take receiver.taken
  /-- The frames which were applied are the first ones which were written. -/
  processed : receiver.processed <+: sender.sent
  /-- What reads have handed out and what is kept is what the applied frames have brought. -/
  bytes : ∀ id, id ∉ receiver.released →
    handed id receiver.reads ++ receiver.session.table.buffered id =
      payloads id receiver.processed
  /-- Reads hand out what was written to the stream, from its start. -/
  front : ∀ id, id ∉ receiver.released → handed id receiver.reads <+: payloads id sender.sent
  /-- Streams are accepted in the order in which they were announced. -/
  accepted : receiver.accepted <+: opens sender.sent
  /-- No stream is announced twice. -/
  once : (opens sender.sent).Nodup
  /-- Only streams which were opened are announced. -/
  opened : opens sender.sent ⊆ sender.opened
  /-- A read hands out what is kept; else it is at the end if the other side has finished, fails if the
  session is closed, and waits if it is not. -/
  reads : ∀ id ∈ receiver.held, id ∉ receiver.released → ∀ count, 0 < count →
    (receiver.session.read id count).1 =
      if receiver.session.table.buffered id ≠ [] then
        some (.ok ((receiver.session.table.buffered id).take count))
      else if Finished id receiver.processed then some (.ok [])
      else receiver.session.table.closedError?.map fun error =>
        .error ⟨.connectionAborted, error.message⟩
  /-- A read finds the end only when the other side has finished and everything was handed out. -/
  ends : ∀ id ∈ receiver.held, id ∉ receiver.released → ∀ count, 0 < count →
    ((receiver.session.read id count).1 = some (.ok []) ↔
      Finished id receiver.processed ∧ handed id receiver.reads = payloads id receiver.processed)

theorem payloads_mono {first second : List Frame} (front : first <+: second) (id : UInt32) :
    payloads id first <+: payloads id second := by
  obtain ⟨rest, rfl⟩ := front
  rw [payloads_append]
  exact List.prefix_append _ _

theorem Flows.delivers {keystream : Option Keystream} {dialed : Bool} {sender receiver : Party}
    (out : Flows keystream dialed sender receiver)
    (back : Flows keystream (!dialed) receiver sender)
    (bound : sender.opened.length < maximumStreams) : Delivers keystream sender receiver := by
  obtain ⟨remnant, output, -, -⟩ := out.writes.output
  have bytes (id : UInt32) (kept : id ∉ receiver.released) :=
    (back.sound.streams id kept).handed_append_buffered
  have reads (id : UInt32) (held : id ∈ receiver.held) (kept : id ∉ receiver.released)
      (count : Nat) (room : 0 < count) :=
    (back.sound.streams id kept).read_eq (back.sound.known held) room
  exact {
    written := ⟨remnant, output⟩
    arrived := fun reading => (out.carries.arrived reading).2
    processed := out.carries.processed
    bytes
    front := fun id kept =>
      .trans ⟨_, bytes id kept⟩ (payloads_mono out.carries.processed id)
    accepted := .trans ⟨_, back.sound.queue⟩ (Flows.opens_mono out.carries.processed)
    once := out.sound.nodup_opens bound
    opened := fun id => out.sound.opens_sent
    reads
    ends := fun id held kept count room =>
      (back.sound.streams id kept).read_end_iff (back.sound.known held) room }

/-- **Delivery.**  Whatever happens at the two ends of a connection, in whatever order, each side gets
what the other one sends. -/
theorem Pair.run_delivers (keystream : Option Keystream) (dialingLink listeningLink : Endpoint)
    (dialingAddress listeningAddress : Net.SocketAddress) (actions : List (Bool × Action)) (pair : Pair)
    (run : (Pair.start keystream dialingLink listeningLink dialingAddress listeningAddress).run
      actions = pair)
    (dialing_bound : pair.dialing.opened.length < 2 ^ 31)
    (listening_bound : pair.listening.opened.length < 2 ^ 31) :
    Delivers keystream pair.dialing pair.listening ∧
      Delivers keystream pair.listening pair.dialing := by
  have fresh : pair.Fresh := ⟨dialing_bound, listening_bound⟩
  have start := joined_start keystream dialingLink listeningLink dialingAddress listeningAddress
  subst run
  obtain ⟨out, back⟩ := start.run actions fresh
  exact ⟨out.delivers back dialing_bound, back.delivers out listening_bound⟩

/-- A stream is opened, three bytes are written to it and it is closed, while the frames arrive in
pieces and two of the bytes are read. -/
theorem Pair.delivers_two_of_three :
    ∃ pair : Pair,
      (Pair.start (some ⟨#[7, 200], by decide⟩) {} {} default default).run
        [(true, .openStream), (true, .proceed 0), (false, .arrive 5), (true, .write 1 [104, 105, 33]),
          (true, .proceed 1), (false, .arrive 9), (false, .accept), (false, .arrive 3),
          (true, .closeStream 1), (true, .proceed 2), (false, .arrive 100), (false, .read 1 2)] =
        pair ∧
      pair.dialing.opened.length < 2 ^ 31 ∧ pair.listening.opened.length < 2 ^ 31 ∧
      handed 1 pair.listening.reads = [104, 105] ∧
      pair.listening.session.table.buffered 1 = [33] ∧ Finished 1 pair.listening.processed ∧
      Delivers (some ⟨#[7, 200], by decide⟩) pair.dialing pair.listening ∧
      Delivers (some ⟨#[7, 200], by decide⟩) pair.listening pair.dialing := by
  refine ⟨_, rfl, ?_, ?_, ?_, ?_, ⟨{ kind := .fin, id := 1 }, ?_, rfl, rfl⟩,
    Pair.run_delivers _ _ _ _ _ _ _ rfl ?_ ?_⟩
  all_goals decide +kernel

end Mux
end TunnelProxy
