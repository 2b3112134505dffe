import TunnelProxy.Proofs.Mux.Ledger

/-!
# What travels between two sides

The bytes which one side has written are its frames one after another, perhaps followed by a part of
one more, after which nothing is written any more.  The frames which the other side has applied are
the first ones of them.
-/

namespace TunnelProxy
namespace Mux
namespace Party

variable {party : Party} {keystream : Option Keystream}

/-! ## What can happen to the connection -/

/-- Nothing arrives. -/
structure Still (before after : Party) : Prop where
  /-- No frame is applied. -/
  processed : after.processed = before.processed
  /-- No byte arrives. -/
  taken : after.taken = before.taken
  /-- The reader goes on where it was, or it stops. -/
  reads : after.session.reading = true →
    before.session.reading = true ∧ after.session.unread = before.session.unread
  /-- Streams may be opened. -/
  opened : before.opened <+: after.opened

/-- Nothing arrives and nothing is written. -/
structure Quiet (before after : Party) : Prop extends Still before after where
  /-- No frame is written. -/
  sent : after.sent = before.sent
  /-- The obfuscation stays where it is. -/
  mask : after.session.mask = before.session.mask
  /-- No byte is written. -/
  written : after.session.link.written = before.session.link.written
  /-- A connection without room gets no room. -/
  jammed : before.session.link.Jammed → after.session.link.Jammed

theorem Still.refl (party : Party) : party.Still party :=
  ⟨rfl, rfl, fun reading => ⟨reading, rfl⟩, List.prefix_rfl⟩

theorem Quiet.refl (party : Party) : party.Quiet party :=
  ⟨.refl party, rfl, rfl, rfl, id⟩

theorem Quiet.openStream (party : Party) : party.Quiet party.openStream := by
  rw [Party.openStream]
  split
  · exact { refl party with opened := List.prefix_append _ _ }
  · exact refl party

theorem Quiet.write (party : Party) (id : UInt32) (bytes : Bytes) :
    party.Quiet (party.write id bytes) := by
  rw [Party.write]
  split
  · split
    · exact { refl party with }
    · exact refl party
  · exact refl party

theorem Quiet.closeStream (party : Party) (id : UInt32) : party.Quiet (party.closeStream id) := by
  rw [Party.closeStream]
  split
  · exact { refl party with }
  · exact refl party

theorem Quiet.close (party : Party) (code : CloseCode) (reason : String) :
    party.Quiet (party.close code reason) := by
  rw [Party.close]
  split
  · exact refl party
  · exact { refl party with }

theorem Quiet.accept (party : Party) : party.Quiet party.accept := by
  rw [Party.accept, Session.accept]
  rcases party.session.table.accept_cases with ⟨id, queue, -, accepted⟩ | ⟨result, none, -⟩
  · rw [accepted]
    exact { refl party with }
  · rw [none]
    rcases result with _ | _ | id
    · exact { refl party with }
    · exact { refl party with }
    · exact { refl party with }

theorem Quiet.unlink (party : Party) (thread : Nat) (rest : List Task) :
    party.Quiet (party.perform thread .unlink rest) := by
  refine { refl party with jammed := fun _ => Endpoint.jammed_of_closed ?_, reads := ?_ }
  · exact fun reading => absurd reading Bool.false_ne_true
  · simp [perform, Session.closeLink, Endpoint.close, Endpoint.isClosed]

theorem Quiet.lose (party : Party) (cause : IoError) : party.Quiet (party.lose cause) := by
  rw [Party.lose]
  split
  · rename_i reading
    rw [settle, Session.lose, if_pos reading]
    split
    · exact refl party
    · rw [if_neg (by exact Bool.false_ne_true)]
      exact { refl party with reads := fun reading => absurd reading Bool.false_ne_true }
  · exact refl party

theorem Still.send (party : Party) (thread : Nat) (frame : Frame) (rest : List Task) :
    party.Still (party.perform thread (.send frame) rest) := by
  obtain ⟨link, mask, same⟩ := party.session.transmit_eq frame.layout
  rw [perform]
  split
  · rename_i after written
    rw [written] at same
    obtain rfl : after = { party.session with link, mask } := same
    exact { refl party with }
  · rename_i cause after broken
    rw [broken] at same
    obtain rfl : after = { party.session with link, mask } := same
    exact { refl party with }

/-- Whatever happens at one side, except that bytes arrive, it is quiet or the first frame of a thread
is written. -/
theorem act_cases (party : Party) (incoming : Bytes) {action : Action}
    (stays : ∀ count, action ≠ .arrive count) :
    party.Quiet (party.act incoming action) ∨
      ∃ thread frame rest, party.threads[thread]? = some (.send frame :: rest) ∧
        party.act incoming action = party.perform thread (.send frame) rest := by
  cases action with
  | openStream => exact .inl (.openStream party)
  | write id bytes => exact .inl (.write party id bytes)
  | closeStream id => exact .inl (.closeStream party id)
  | close code reason => exact .inl (.close party code reason)
  | proceed thread =>
      rw [act, proceed]
      split
      · rename_i task rest found
        cases task with
        | mark code reason => exact .inl { Quiet.refl party with }
        | unlink => exact .inl (.unlink party thread rest)
        | send frame => exact .inr ⟨thread, frame, rest, found, rfl⟩
      · exact .inl (.refl party)
  | accept => exact .inl (.accept party)
  | read id count => exact .inl { Quiet.refl party with }
  | setLimit id limit => exact .inl { Quiet.refl party with }
  | arrive count => exact absurd rfl (stays count)
  | lose cause => exact .inl (.lose party cause)
  | sever count kind =>
      exact .inl { Quiet.refl party with jammed := fun jammed => jammed.sever count kind }

/-! ## What is written -/

/-- The obfuscation of a side is where its connection is. -/
def Aligned (keystream : Option Keystream) (party : Party) : Prop :=
  party.session.Aligned keystream party.taken

/-- The bytes which the other side finds in what was written. -/
def output (keystream : Option Keystream) (party : Party) : Bytes :=
  party.session.output keystream

theorem Quiet.output {after : Party} (quiet : party.Quiet after) :
    after.output keystream = party.output keystream := by
  rw [Party.output, Session.output, quiet.written]
  rfl

/-- What was written is the frames one after another, perhaps with a part of one more behind them
which nothing follows. -/
structure Writes (keystream : Option Keystream) (party : Party) : Prop where
  /-- The obfuscation is where the connection is. -/
  aligned : party.Aligned keystream
  /-- There is at most a part of a frame behind the frames. -/
  output : ∃ remnant, party.output keystream = layouts party.sent ++ remnant ∧
    Incomplete remnant ∧ (remnant ≠ [] → party.session.link.Jammed)

theorem Writes.quiet {after : Party} (writes : party.Writes keystream) (quiet : party.Quiet after) :
    after.Writes keystream where
  aligned := by
    rw [Aligned, Session.Aligned, quiet.mask, quiet.taken, quiet.written]
    exact writes.aligned
  output := by
    obtain ⟨remnant, output, incomplete, jammed⟩ := writes.output
    refine ⟨remnant, ?_, incomplete, fun left => quiet.jammed (jammed left)⟩
    rwa [quiet.output, quiet.sent]

/-- What was written stays written. -/
theorem sent_perform_send (party : Party) (thread : Nat) (frame : Frame) (rest : List Task) :
    party.sent <+: (party.perform thread (.send frame) rest).sent := by
  rw [perform]
  split
  · exact List.prefix_append _ _
  · exact List.prefix_rfl

/-- A frame is written completely, or a part of it, or nothing if there is such a part already. -/
theorem Writes.send (writes : party.Writes keystream) {frame : Frame} (fits : frame.Fits)
    (thread : Nat) (rest : List Task) :
    (party.perform thread (.send frame) rest).Writes keystream ∧
      ((party.perform thread (.send frame) rest).sent = party.sent ∨
        (party.perform thread (.send frame) rest).sent = party.sent ++ [frame]) ∧
      party.output keystream <+: (party.perform thread (.send frame) rest).output keystream := by
  obtain ⟨result, link, mask, transmitted, aligned, transmits⟩ :=
    Session.transmit_spec writes.aligned frame.layout_ne_nil
  obtain ⟨remnant, output, incomplete, jammed⟩ := writes.output
  rw [perform, transmitted]
  cases transmits with
  | all _ free more =>
      -- A frame is written completely only where no part of another one stands.
      have nothing_left : remnant = [] := by
        by_contra left
        exact free (jammed left)
      refine ⟨⟨aligned, [], ?_, incomplete_nil, absurd rfl⟩, .inr rfl, _, more.symm⟩
      rw [nothing_left, List.append_nil] at output
      rw [List.append_nil, layouts_append, layouts_cons, layouts_nil, List.append_nil, ← output]
      exact more
  | part cause _ front back cut missing jams nothing more =>
      refine ⟨⟨aligned, ?_⟩, .inl rfl, _, more.symm⟩
      by_cases left : remnant = []
      · rw [left, List.append_nil] at output
        refine ⟨front, ?_, ⟨frame, back, fits, cut, missing⟩, fun some => jams (.inl some)⟩
        rw [← output]
        exact more
      · rw [nothing (jammed left), List.append_nil] at more
        exact ⟨remnant, more.trans output, incomplete, fun _ => jams (.inr (jammed left))⟩

/-! ## What arrives -/

/-- A reader which gets bytes changes nothing of the connection at first. -/
theorem arrive_eq {party : Party} (reading : party.session.reading = true) {incoming : Bytes}
    {count : Nat} {chunk bytes : Bytes} (chunk_eq : chunk = (incoming.drop party.taken).take count)
    (bytes_eq : bytes = party.session.unread ++ party.session.clear chunk) :
    ∃ threads, party.arrive incoming count =
      { party with
        session := { party.session.arrive chunk with link := party.session.link }
        threads
        taken := party.taken + chunk.length
        processed := party.processed ++ applied bytes } := by
  subst bytes_eq chunk_eq
  rw [Party.arrive, if_pos reading]
  simp only [settle]
  split
  · exact ⟨party.threads, rfl⟩
  · exact ⟨_, rfl⟩

/-- Whatever happens at one side, bytes arrive, it is quiet, or the first frame of a thread is
written. -/
theorem moves (party : Party) (incoming : Bytes) (action : Action) :
    (∃ count, action = .arrive count ∧ party.session.reading = true) ∨
      party.Quiet (party.act incoming action) ∨
      ∃ thread frame rest, party.threads[thread]? = some (.send frame :: rest) ∧
        party.act incoming action = party.perform thread (.send frame) rest := by
  by_cases arrives : ∃ count, action = .arrive count
  · obtain ⟨count, rfl⟩ := arrives
    by_cases reading : party.session.reading = true
    · exact .inl ⟨count, rfl, reading⟩
    · refine .inr (.inl ?_)
      rw [act, Party.arrive, if_neg reading]
      exact .refl party
  · exact .inr (party.act_cases incoming fun count same => arrives ⟨count, same⟩)

/-- A stream which was opened stays opened. -/
theorem act_opened (party : Party) (incoming : Bytes) (action : Action) :
    party.opened <+: (party.act incoming action).opened := by
  rcases party.moves incoming action with
    ⟨count, rfl, reading⟩ | quiet | ⟨thread, frame, rest, -, same⟩
  · have chunk_eq : (incoming.drop party.taken).take count = _ := rfl
    obtain ⟨threads, arrive⟩ := arrive_eq reading chunk_eq rfl
    have same : (party.act incoming (.arrive count)).opened = party.opened := by
      rw [act, arrive]
    exact same ▸ List.prefix_rfl
  · exact quiet.opened
  · rw [same]
    exact (Still.send party thread frame rest).opened

/-- What was applied stays applied, and what is applied has been cut from bytes which arrived. -/
theorem act_processed_eq (party : Party) (incoming : Bytes) (action : Action) :
    ∃ bytes, (party.act incoming action).processed = party.processed ++ applied bytes := by
  have nothing : applied [] = [] := applied_of_incomplete incomplete_nil.split?
  rcases party.moves incoming action with
    ⟨count, rfl, reading⟩ | quiet | ⟨thread, frame, rest, -, same⟩
  · have chunk_eq : (incoming.drop party.taken).take count = _ := rfl
    obtain ⟨threads, arrive⟩ := arrive_eq reading chunk_eq rfl
    exact ⟨_, by rw [act, arrive]⟩
  · exact ⟨[], by rw [quiet.processed, nothing, List.append_nil]⟩
  · exact ⟨[], by rw [same, (Still.send party thread frame rest).processed, nothing,
      List.append_nil]⟩

/-- What arrives is applied, and nothing is written. -/
theorem Writes.arrive (writes : party.Writes keystream) (incoming : Bytes) (count : Nat) :
    (party.arrive incoming count).Writes keystream := by
  by_cases reading : party.session.reading = true
  · have chunk_eq : (incoming.drop party.taken).take count = _ := rfl
    obtain ⟨threads, arrive⟩ := arrive_eq reading chunk_eq rfl
    rw [arrive]
    refine ⟨?_, writes.output⟩
    have aligned : party.session.mask = _ := writes.aligned
    rw [Aligned, Session.Aligned, Session.arrive_mask reading, aligned, Option.map_map]
    rfl
  · rw [Party.arrive, if_neg reading]
    exact writes

/-- What one side has taken of what the other one has written. -/
structure Carries (keystream : Option Keystream) (sender receiver : Party) : Prop where
  /-- The frames which were applied are the first ones which were written. -/
  processed : receiver.processed <+: sender.sent
  /-- While the reader reads, no byte is lost. -/
  arrived : receiver.session.reading = true →
    receiver.taken ≤ sender.session.link.written.length ∧
      layouts receiver.processed ++ receiver.session.unread =
        (sender.output keystream).take receiver.taken

namespace Carries

variable {sender receiver after : Party}

theorem still (carries : Carries keystream sender receiver) (still : receiver.Still after) :
    Carries keystream sender after where
  processed := by
    rw [still.processed]
    exact carries.processed
  arrived reading := by
    obtain ⟨before, unread⟩ := still.reads reading
    rw [still.taken, still.processed, unread]
    exact carries.arrived before

theorem more (carries : Carries keystream sender receiver) (sent : sender.sent <+: after.sent)
    (output : sender.output keystream <+: after.output keystream) :
    Carries keystream after receiver where
  processed := carries.processed.trans sent
  arrived reading := by
    obtain ⟨bound, arrived⟩ := carries.arrived reading
    have lengths (party : Party) : (party.output keystream).length =
        party.session.link.written.length := veil_length _ _ _
    refine ⟨?_, ?_⟩
    · have longer := output.length_le
      rw [lengths, lengths] at longer
      omega
    · obtain ⟨rest, output⟩ := output
      rw [arrived, ← output, List.take_append_of_le_length (by rwa [lengths])]

/-- The bytes which arrive next follow those which have arrived. -/
theorem take_clear (carries : Carries keystream sender receiver)
    (aligned : receiver.Aligned keystream) (reading : receiver.session.reading = true)
    {chunk : Bytes} {count : Nat}
    (chunk_eq : chunk = (sender.session.link.written.drop receiver.taken).take count) :
    (sender.output keystream).take (receiver.taken + chunk.length) =
      layouts receiver.processed ++ (receiver.session.unread ++ receiver.session.clear chunk) := by
  obtain ⟨bound, arrived⟩ := carries.arrived reading
  have mask : receiver.session.mask = _ := aligned
  have clear_eq : receiver.session.clear chunk = veil keystream receiver.taken chunk := by
    rw [Session.clear, mask]
    cases keystream <;> rfl
  have whole_chunk : (sender.session.link.written.drop receiver.taken).take chunk.length = chunk := by
    rw [chunk_eq, List.length_take, ← List.take_eq_take_min]
  rw [← List.append_assoc, arrived, clear_eq, output, Session.output, ← veil_take, ← veil_take,
    List.take_add, whole_chunk, veil_append, List.length_take_of_le bound, Nat.zero_add]

/-- What arrives is cut into the frames which were written next. -/
theorem arrive (carries : Carries keystream sender receiver) (writes : sender.Writes keystream)
    (fits : ∀ frame ∈ sender.sent, frame.Fits) (aligned : receiver.Aligned keystream)
    (reading : receiver.session.reading = true) {count : Nat} {chunk bytes : Bytes}
    (chunk_eq : chunk = (sender.session.link.written.drop receiver.taken).take count)
    (bytes_eq : bytes = receiver.session.unread ++ receiver.session.clear chunk) :
    receiver.processed ++ applied bytes <+: sender.sent ∧
      Received receiver.session.table bytes (applied bytes) ∧
      Carries keystream sender (receiver.arrive sender.session.link.written count) := by
  obtain ⟨later, sent⟩ := carries.processed
  obtain ⟨remnant, output, incomplete, -⟩ := writes.output
  have arrives := carries.take_clear aligned reading chunk_eq
  rw [← bytes_eq] at arrives
  -- What has not been applied yet is a beginning of the frames which have not.
  have front : bytes <+: layouts later ++ remnant := by
    refine (List.prefix_append_right_inj (layouts receiver.processed)).mp ?_
    rw [← arrives, ← List.append_assoc, ← layouts_append, sent, ← output]
    exact List.take_prefix _ _
  obtain ⟨first, received⟩ := received_of_front receiver.session.table
    (fun frame among => fits frame (sent ▸ List.mem_append_right _ among)) incomplete front
  have processed : receiver.processed ++ applied bytes <+: sender.sent := by
    rw [← sent]
    exact (List.prefix_append_right_inj _).mpr first
  refine ⟨processed, received, ?_⟩
  obtain ⟨threads, arrive⟩ := arrive_eq reading chunk_eq bytes_eq
  rw [arrive]
  refine ⟨processed, fun still_reading => ?_⟩
  rw [Session.arrive_eq reading, ← bytes_eq] at still_reading ⊢
  cases received with
  | waiting unread cut result =>
      rw [result]
      refine ⟨?_, ?_⟩
      · have bound := (carries.arrived reading).1
        have size : chunk.length ≤ sender.session.link.written.length - receiver.taken := by
          rw [chunk_eq, ← List.length_drop]
          exact List.length_take_le' _ _
        dsimp only
        omega
      · rw [arrives, layouts_append, List.append_assoc]
        exact congrArg (layouts receiver.processed ++ ·) cut.symm
  | ended code reason unread result =>
      rw [result] at still_reading
      exact absurd still_reading Bool.false_ne_true

end Carries
end Party
end Mux
end TunnelProxy
