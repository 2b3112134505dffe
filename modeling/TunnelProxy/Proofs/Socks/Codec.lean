import TunnelProxy.Proofs.Net.IpText
import TunnelProxy.Proofs.Socks.Dispatch
import TunnelProxy.Proofs.Stream.Message

/-!
# The layouts of SOCKS requests and replies

A request is a version, a command, a zero, the form of its address, the address and a port of two
bytes.  It is read from bytes which begin so, and takes no more of them; otherwise the first byte
which cannot stand where it does is the last one taken, and tells the failure.  Requests and replies
are read back from their layouts.
-/

namespace TunnelProxy

open Wire (Reader)

/-! ## Cut messages -/

namespace Wire.Reader

variable {α : Type}

/-- A message the end of which is missing uses up what there is of it. -/
theorem run_cut {reader : Reader α} {front missing : Bytes} {value : α}
    (read : reader.run (front ++ missing) = (.ok value, [])) (nonempty : missing ≠ []) :
    reader.run front = (.error (.io .truncated), []) := by
  induction reader generalizing front with
  | done value =>
      have used_up : front ++ missing = [] := congrArg Prod.snd read
      exact absurd (List.append_eq_nil_iff.mp used_up).2 nonempty
  | fail error => cases read
  | take count next ih =>
      rw [run] at read ⊢
      split
      · rename_i enough
        rw [if_pos (by rw [List.length_append]; omega), List.take_append_of_le_length enough,
          List.drop_append_of_le_length enough] at read
        exact ih _ read
      · rfl

@[simp] theorem run_byte_cons (code : UInt8) (rest : Bytes) :
    Reader.byte.run (code :: rest) = (.ok code, rest) :=
  (run_byte_iff ..).mpr rfl

end Wire.Reader

namespace Socks

/-! ## Layouts -/

/-- The bytes of a host behind the byte which tells their form, and the destinations on it. -/
inductive HostBytes : UInt8 → Bytes → (UInt16 → Net.Address) → Prop
  /-- Four octets. -/
  | v4 (a b c d : UInt8) : HostBytes 1 [a, b, c, d] (.ip (.v4 ⟨a, b, c, d⟩))
  /-- The bytes of a domain behind their number. -/
  | domain {count : UInt8} {name : Bytes} (counted : name.length = count.toNat) :
      HostBytes 3 (count :: name) (.domain (Text.Utf8.decode name))
  /-- Sixteen octets. -/
  | v6 (a b c d e f g h i j k l m n o p : UInt8) :
      HostBytes 4 [a, b, c, d, e, f, g, h, i, j, k, l, m, n, o, p]
        (.ip (.v6 ⟨Net.group a b, Net.group c d, Net.group e f, Net.group g h, Net.group i j,
          Net.group k l, Net.group m n, Net.group o p⟩))

/-- The bytes of a request. -/
inductive Request.Spells : Bytes → Request → Prop
  /-- The version, the command, a zero, the form of the address, the address and the port. -/
  | mk (version : UInt8) (command : Command) {type : UInt8} {host : Bytes}
      {address : UInt16 → Net.Address} (hosted : HostBytes type host address) (port : UInt16) :
      Spells (version :: command.byte :: 0 :: type :: (host ++ Wire.word16 port))
        ⟨version, command, address port⟩

/-- What is read from bytes where a request should stand, and what is left of them. -/
inductive Request.Reads : Bytes → Except Error Request → Bytes → Prop
  /-- They begin with a request. -/
  | accepted {layout : Bytes} {request : Request} (spells : Spells layout request) (rest : Bytes) :
      Reads (layout ++ rest) (.ok request) rest
  /-- There is no such command. -/
  | unknownCommand (version : UInt8) {code : UInt8} (unknown : code ∉ [1, 2, 3]) (rest : Bytes) :
      Reads (version :: code :: rest) (.error (.unknownCommand code)) rest
  /-- The reserved byte is not zero. -/
  | unreserved (version : UInt8) (command : Command) {code : UInt8} (nonzero : code ≠ 0)
      (rest : Bytes) :
      Reads (version :: command.byte :: code :: rest)
        (.error (.messageFormat s!"value of rsv is not 0({code.toNat})")) rest
  /-- There is no such form of an address. -/
  | unknownType (version : UInt8) (command : Command) {code : UInt8} (unknown : code ∉ [1, 3, 4])
      (rest : Bytes) :
      Reads (version :: command.byte :: 0 :: code :: rest)
        (.error (.messageFormat (unknownByte "AddrType" code))) rest
  /-- They are a request but for bytes which are missing. -/
  | cut {front missing : Bytes} {request : Request} (spells : Spells (front ++ missing) request)
      (nonempty : missing ≠ []) : Reads front (.error (.io .truncated)) []

/-! ## Codes -/

theorem Command.ofByte?_byte (command : Command) : ofByte? command.byte = some command := by
  cases command <;> rfl

theorem Command.exists_byte {code : UInt8} (known : code ∈ [1, 2, 3]) :
    ∃ command : Command, code = command.byte := by
  simp only [List.mem_cons, List.not_mem_nil, or_false] at known
  rcases known with rfl | rfl | rfl
  · exact ⟨.connect, rfl⟩
  · exact ⟨.bind, rfl⟩
  · exact ⟨.udpAssociate, rfl⟩

theorem Command.ofByte?_eq_none {code : UInt8} (unknown : code ∉ [1, 2, 3]) :
    ofByte? code = none := by
  simp only [List.mem_cons, List.not_mem_nil, or_false, not_or] at unknown
  simp [ofByte?, unknown]

theorem AddressType.ofByte?_eq_none {code : UInt8} (unknown : code ∉ [1, 3, 4]) :
    ofByte? code = none := by
  simp only [List.mem_cons, List.not_mem_nil, or_false, not_or] at unknown
  simp [ofByte?, unknown]

theorem Outcome.ofByte?_byte (outcome : Outcome) : ofByte? outcome.byte = some outcome := by
  rcases outcome with _ | reason
  · rfl
  · cases reason <;> rfl

/-! ## Reading -/

section Read

variable {type : UInt8} {host : Bytes} {address : UInt16 → Net.Address}

theorem run_command (command : Command) (rest : Bytes) :
    Socks.command.run (command.byte :: rest) = (.ok command, rest) := by
  simp [Socks.command, Reader.run_bind, Command.ofByte?_byte]

theorem run_reserved (rest : Bytes) : Socks.reserved.run (0 :: rest) = (.ok (), rest) := by
  simp [Socks.reserved, Reader.run_bind]

theorem short_of_counted {count : UInt8} {name : Bytes} (counted : name.length = count.toNat) :
    Wire.short name = .ok (count :: name) := by
  have fits : name.length ≤ 0xFF := by
    have := count.toNat_lt
    omega
  rw [Wire.short, if_pos fits, counted, UInt8.ofNat_toNat]

/-- A host is read from its bytes. -/
theorem HostBytes.run (hosted : HostBytes type host address) (rest : Bytes) :
    ∃ form field, AddressType.ofByte? type = some form ∧
      (hostField form).run (host ++ rest) = (.ok field, rest) ∧
        ∀ port, AddressField.toAddress ⟨form, field, port⟩ = .ok (address port) := by
  cases hosted with
  | v4 a b c d => exact ⟨.v4, .ip (.v4 ⟨a, b, c, d⟩), rfl, rfl, fun _ => rfl⟩
  | @domain count name counted =>
      have short : Reader.short.run (count :: (name ++ rest)) = (.ok name, rest) :=
        (Reader.run_short_iff ..).mpr ⟨count :: name, short_of_counted counted, rfl⟩
      refine ⟨.domain, .domain name, rfl, ?_, fun _ => rfl⟩
      rw [hostField, List.cons_append, Reader.run_bind, short]
      rfl
  | v6 => exact ⟨.v6, .ip (.v6 _), rfl, rfl, fun _ => rfl⟩

/-- A destination is read from its bytes. -/
theorem HostBytes.run_addressField (hosted : HostBytes type host address) (port : UInt16)
    (rest : Bytes) :
    ∃ field, addressField.run (type :: (host ++ (Wire.word16 port ++ rest))) = (.ok field, rest) ∧
      field.toAddress = .ok (address port) := by
  obtain ⟨form, field, known, read, meant⟩ := hosted.run (Wire.word16 port ++ rest)
  refine ⟨⟨form, field, port⟩, ?_, meant port⟩
  have typed : addressType.run (type :: (host ++ (Wire.word16 port ++ rest))) =
      (.ok form, host ++ (Wire.word16 port ++ rest)) := by
    simp [addressType, Reader.run_bind, known]
  rw [addressField, Reader.run_bind, typed]
  simp only [Reader.run_bind, read, (Reader.run_word16_iff ..).mpr rfl, Reader.run_pure]

end Read

/-- What may stand in bytes where a request should is what is read from them. -/
theorem Request.Reads.run {input rest : Bytes} {outcome : Except Error Request}
    (reads : Reads input outcome rest) : Request.reader.run input = (outcome, rest) := by
  have spelled {layout : Bytes} {request : Request} (spells : Spells layout request)
      (rest : Bytes) : Request.reader.run (layout ++ rest) = (.ok request, rest) := by
    cases spells with
    | @mk version command type host address hosted port =>
        obtain ⟨field, read, meant⟩ := hosted.run_addressField port rest
        simp [Request.reader, Reader.run_bind, run_command, run_reserved, read, meant,
          Reader.ofExcept, Reader.run]
  cases reads with
  | accepted spells => exact spelled spells rest
  | unknownCommand version unknown =>
      simp [Request.reader, Socks.command, Reader.run_bind, Command.ofByte?_eq_none unknown]
  | unreserved version command nonzero =>
      simp [Request.reader, Socks.reserved, Reader.run_bind, run_command, nonzero]
  | unknownType version command unknown =>
      simp [Request.reader, addressField, addressType, Reader.run_bind, run_command, run_reserved,
        AddressType.ofByte?_eq_none unknown]
  | @cut _ missing request spells nonempty =>
      have whole := spelled spells []
      rw [List.append_nil] at whole
      exact Reader.run_cut whole nonempty

/-! ## What bytes begin with -/

/-- Bytes begin with so many, or some are missing. -/
theorem exists_front_or_missing (count : Nat) (bytes : Bytes) :
    (∃ front rest, front.length = count ∧ bytes = front ++ rest) ∨
      ∃ missing, missing ≠ [] ∧ (bytes ++ missing).length = count := by
  by_cases enough : count ≤ bytes.length
  · exact .inl ⟨bytes.take count, bytes.drop count, List.length_take_of_le enough,
      (List.take_append_drop ..).symm⟩
  · refine .inr ⟨List.replicate (count - bytes.length) 0, ?_, ?_⟩
    · rw [ne_eq, List.replicate_eq_nil_iff]
      omega
    · rw [List.length_append, List.length_replicate]
      omega

theorem HostBytes.exists_of_four {host : Bytes} (four : host.length = 4) :
    ∃ address, HostBytes 1 host address := by
  match host, four with
  | [a, b, c, d], _ => exact ⟨_, .v4 a b c d⟩

theorem HostBytes.exists_of_sixteen {host : Bytes} (sixteen : host.length = 16) :
    ∃ address, HostBytes 4 host address := by
  match host, sixteen with
  | [a, b, c, d, e, f, g, h, i, j, k, l, m, n, o, p], _ =>
      exact ⟨_, .v6 a b c d e f g h i j k l m n o p⟩

/-- If all bytes of a length are a host, then bytes begin with one, or some are missing. -/
theorem HostBytes.exists_front_or_missing_of_length {type : UInt8} {count : Nat}
    (hosts : ∀ {host : Bytes}, host.length = count → ∃ address, HostBytes type host address)
    (bytes : Bytes) :
    (∃ host rest address, HostBytes type host address ∧ bytes = host ++ rest) ∨
      ∃ missing address, missing ≠ [] ∧ HostBytes type (bytes ++ missing) address := by
  rcases Socks.exists_front_or_missing count bytes with
    ⟨host, rest, counted, rfl⟩ | ⟨missing, some_missing, counted⟩
  · obtain ⟨address, hosted⟩ := hosts counted
    exact .inl ⟨host, rest, address, hosted, rfl⟩
  · obtain ⟨address, hosted⟩ := hosts counted
    exact .inr ⟨missing, address, some_missing, hosted⟩

/-- Bytes begin with a host of a known form, or some are missing. -/
theorem HostBytes.exists_front_or_missing {type : UInt8} (known : type ∈ [1, 3, 4])
    (bytes : Bytes) :
    (∃ host rest address, HostBytes type host address ∧ bytes = host ++ rest) ∨
      ∃ missing address, missing ≠ [] ∧ HostBytes type (bytes ++ missing) address := by
  simp only [List.mem_cons, List.not_mem_nil, or_false] at known
  rcases known with rfl | rfl | rfl
  · exact exists_front_or_missing_of_length exists_of_four bytes
  · cases bytes with
    | nil => exact .inr ⟨[0], _, List.cons_ne_nil _ _, .domain rfl⟩
    | cons count bytes =>
        rcases Socks.exists_front_or_missing count.toNat bytes with
          ⟨name, rest, counted, rfl⟩ | ⟨missing, some_missing, counted⟩
        · exact .inl ⟨count :: name, rest, _, .domain counted, rfl⟩
        · exact .inr ⟨missing, _, some_missing, .domain counted⟩
  · exact exists_front_or_missing_of_length exists_of_sixteen bytes

/-- Something is read from all bytes, be it a request or a failure. -/
theorem Request.exists_reads (input : Bytes) : ∃ outcome rest, Reads input outcome rest := by
  have least : HostBytes 1 [0, 0, 0, 0] (.ip (.v4 ⟨0, 0, 0, 0⟩)) := .v4 0 0 0 0
  rcases input with _ | ⟨version, _ | ⟨code, input⟩⟩
  · exact ⟨_, _, .cut (.mk 0 .connect least 0 : Spells ([] ++ _) _) (List.cons_ne_nil _ _)⟩
  · exact ⟨_, _, .cut (.mk version .connect least 0 : Spells ([version] ++ _) _)
      (List.cons_ne_nil _ _)⟩
  by_cases granted : code ∈ [1, 2, 3]
  swap
  · exact ⟨_, _, .unknownCommand version granted input⟩
  obtain ⟨command, rfl⟩ := Command.exists_byte granted
  rcases input with _ | ⟨reserved, input⟩
  · exact ⟨_, _, .cut (.mk version command least 0 : Spells ([version, command.byte] ++ _) _)
      (List.cons_ne_nil _ _)⟩
  by_cases zero : reserved = 0
  swap
  · exact ⟨_, _, .unreserved version command zero input⟩
  subst zero
  rcases input with _ | ⟨type, input⟩
  · exact ⟨_, _, .cut (.mk version command least 0 : Spells ([version, command.byte, 0] ++ _) _)
      (List.cons_ne_nil _ _)⟩
  by_cases known : type ∈ [1, 3, 4]
  swap
  · exact ⟨_, _, .unknownType version command known input⟩
  rcases HostBytes.exists_front_or_missing known input with
    ⟨host, behind, address, hosted, rfl⟩ | ⟨missing, address, some_missing, hosted⟩
  · rcases Socks.exists_front_or_missing 2 behind with
      ⟨word, rest, two, rfl⟩ | ⟨missing, some_missing, two⟩
    · have spells := Spells.mk version command hosted (UInt16.ofNat (Wire.ofBigEndian word))
      rw [Wire.word16_ofBigEndian two] at spells
      have reads := Reads.accepted spells rest
      simp only [List.cons_append, List.append_assoc] at reads
      exact ⟨_, _, reads⟩
    · have spells := Spells.mk version command hosted
        (UInt16.ofNat (Wire.ofBigEndian (behind ++ missing)))
      rw [Wire.word16_ofBigEndian two, ← List.append_assoc] at spells
      exact ⟨_, _, .cut (spells : Spells
        ((version :: command.byte :: 0 :: type :: (host ++ behind)) ++ missing) _) some_missing⟩
  · have spells := Spells.mk version command hosted 0
    rw [List.append_assoc] at spells
    exact ⟨_, _, .cut (spells : Spells ((version :: command.byte :: 0 :: type :: input) ++
      (missing ++ Wire.word16 0)) _) (List.append_ne_nil_of_left_ne_nil some_missing _)⟩

/-! ## Writing -/

/-- The domain of a destination, if it has one, is of at most 255 bytes. -/
def Fits (target : Net.Address) : Prop :=
  ∀ name, target.domain? = some name → (Text.Utf8.encode name).length ≤ 0xFF

/-- A destination which fits has a layout, from which it is read. -/
theorem Fits.exists_layout {target : Net.Address} (fits : Fits target) :
    ∃ type host address, HostBytes type host address ∧ address target.port = target ∧
      (AddressField.ofAddress target).layout =
        .ok (type :: (host ++ Wire.word16 target.port)) := by
  match target with
  | .ip (.v4 ip) port => exact ⟨1, ip.octets, _, .v4 ip.a ip.b ip.c ip.d, rfl, rfl⟩
  | .ip (.v6 ip) port =>
      have hosted := HostBytes.v6 (ip.s0 >>> 8).toUInt8 ip.s0.toUInt8 (ip.s1 >>> 8).toUInt8
        ip.s1.toUInt8 (ip.s2 >>> 8).toUInt8 ip.s2.toUInt8 (ip.s3 >>> 8).toUInt8 ip.s3.toUInt8
        (ip.s4 >>> 8).toUInt8 ip.s4.toUInt8 (ip.s5 >>> 8).toUInt8 ip.s5.toUInt8
        (ip.s6 >>> 8).toUInt8 ip.s6.toUInt8 (ip.s7 >>> 8).toUInt8 ip.s7.toUInt8
      simp only [Net.group_groupOctets] at hosted
      exact ⟨4, ip.octets, _, hosted, rfl, rfl⟩
  | .domain name port =>
      have short := fits name rfl
      have counted : (Text.Utf8.encode name).length =
          (UInt8.ofNat (Text.Utf8.encode name).length).toNat := by
        rw [UInt8.toNat_ofNat', Nat.mod_eq_of_lt (by omega)]
      have hosted := HostBytes.domain counted
      rw [Text.Utf8.decode_encode] at hosted
      refine ⟨3, _, _, hosted, rfl, ?_⟩
      rw [AddressField.layout, AddressField.ofAddress]
      dsimp only
      rw [short_of_counted counted]
      rfl

/-- A destination which does not fit has no layout. -/
theorem layout_of_not_fits {target : Net.Address} (unfit : ¬ Fits target) :
    ∃ message, (AddressField.ofAddress target).layout = .error (.io ⟨.invalidInput, message⟩) := by
  match target with
  | .ip _ _ => exact absurd nofun unfit
  | .domain name port =>
      have long : ¬ (Text.Utf8.encode name).length ≤ 0xFF := fun short =>
        unfit fun _ same => Option.some.inj same ▸ short
      refine ⟨s!"too long for a socks field: {(Text.Utf8.encode name).length} bytes", ?_⟩
      rw [AddressField.layout, AddressField.ofAddress]
      dsimp only
      rw [Wire.short, if_neg long]
      rfl

/-- A request the destination of which fits is spelled by its layout. -/
theorem Request.spells_layout {request : Request} (fits : Fits request.target) :
    ∃ layout, request.layout = .ok layout ∧ Spells layout request := by
  obtain ⟨version, command, target⟩ := request
  obtain ⟨type, host, address, hosted, same, written⟩ := fits.exists_layout
  have spells := Spells.mk version command hosted target.port
  rw [same] at spells
  refine ⟨_, ?_, spells⟩
  rw [Request.layout, written]
  rfl

/-- A reply the address of which fits is read from its layout. -/
theorem Reply.run_layout {reply : Reply} (fits : Fits reply.bound) :
    ∃ layout, reply.layout = .ok layout ∧
      ∀ rest, Reply.reader.run (layout ++ rest) = (.ok reply, rest) := by
  obtain ⟨version, outcome, bound⟩ := reply
  obtain ⟨type, host, address, hosted, same, written⟩ := fits.exists_layout
  refine ⟨[version, outcome.byte, 0] ++ (type :: (host ++ Wire.word16 bound.port)), ?_, ?_⟩
  · rw [Reply.layout, written]
    rfl
  · intro rest
    obtain ⟨field, read, meant⟩ := hosted.run_addressField bound.port rest
    simp [Reply.reader, Reader.run_bind, Outcome.ofByte?_byte, run_reserved, read, meant, same,
      Reader.ofExcept, Reader.run]

/-! ## Sending and receiving -/

/-- Requests and replies are received from their layouts, and replies are sent in theirs. -/
structure Codec : Prop where
  /-- Something is told by all bytes. -/
  total : ∀ input, ∃ outcome rest, Request.Reads input outcome rest
  /-- What bytes tell is received where they arrive, in any pieces, and what they leave stays there.
  Other things may be behind them, unless some of them are missing. -/
  received : ∀ (endpoint : Endpoint) (input rest : Bytes) (later : List Arrival)
    (outcome : Except Error Request), endpoint.Offers input later →
      Request.Reads input outcome rest → (outcome = .error (.io .truncated) → later = []) →
        ∃ after, endpoint.receiveMessage Request.reader = some (outcome, after) ∧
          after.Offers rest later
  /-- A request is received exactly if the bytes begin with it. -/
  accepted : ∀ (endpoint : Endpoint) (input : Bytes) (request : Request), endpoint.Offers input [] →
    ((∃ after, endpoint.receiveMessage Request.reader = some (.ok request, after)) ↔
      ∃ layout, Request.Spells layout request ∧ layout <+: input)
  /-- A request the destination of which fits is received from its layout. -/
  requests : ∀ request : Request, Fits request.target → ∃ layout, request.layout = .ok layout ∧
    ∀ (endpoint : Endpoint) (more : Bytes) (later : List Arrival),
      endpoint.Offers (layout ++ more) later →
        ∃ after, endpoint.receiveMessage Request.reader = some (.ok request, after) ∧
          after.Offers more later
  /-- A reply the address of which fits is sent in bytes from which it is received. -/
  replies : ∀ reply : Reply, Fits reply.bound → ∃ layout,
    (∀ endpoint : Endpoint, endpoint.Willing →
      ∃ after, endpoint.sendMessage reply.layout = some (.ok (), after) ∧
        after.written = endpoint.written ++ layout) ∧
    ∀ (endpoint : Endpoint) (more : Bytes) (later : List Arrival),
      endpoint.Offers (layout ++ more) later →
        ∃ after, endpoint.receiveMessage Reply.reader = some (.ok reply, after) ∧
          after.Offers more later
  /-- Any other reply is refused, and nothing is done to the endpoint. -/
  refused : ∀ reply : Reply, ¬ Fits reply.bound → ∀ endpoint : Endpoint,
    ∃ message, endpoint.sendMessage reply.layout =
      some (.error (.io ⟨.invalidInput, message⟩), endpoint)

/-- What is received is what the bytes tell. -/
theorem Request.Reads.received {endpoint : Endpoint} {input rest : Bytes} {later : List Arrival}
    {outcome : Except Error Request} (reads : Reads input outcome rest)
    (offers : endpoint.Offers input later)
    (complete : outcome = .error (.io .truncated) → later = []) :
    ∃ after, endpoint.receiveMessage Request.reader = some (outcome, after) ∧
      after.Offers rest later := by
  by_cases missing : outcome = .error (.io .truncated)
  · obtain rfl := complete missing
    have received := offers.receiveMessage_eq Request.reader
    rwa [reads.run] at received
  · exact offers.receiveMessage_decided reads.run missing

/-- A request is what bytes tell exactly if they begin with it. -/
theorem Request.Reads.ok_iff {input rest : Bytes} {outcome : Except Error Request}
    (reads : Reads input outcome rest) (request : Request) :
    outcome = .ok request ↔ ∃ layout, Spells layout request ∧ layout <+: input := by
  constructor
  · rintro rfl
    cases reads with
    | @accepted layout _ spells => exact ⟨layout, spells, List.prefix_append ..⟩
  · rintro ⟨layout, spells, behind, rfl⟩
    have again := (Reads.accepted spells behind).run
    rw [reads.run] at again
    exact congrArg Prod.fst again

/-- SOCKS requests and replies are received and sent as their layouts say. -/
theorem codec_of_layouts : Codec where
  total := Request.exists_reads
  received _ _ _ _ _ offers reads complete := reads.received offers complete
  accepted endpoint input request offers := by
    obtain ⟨outcome, rest, reads⟩ := Request.exists_reads input
    obtain ⟨after, received, -⟩ := reads.received offers fun _ => rfl
    rw [received, ← reads.ok_iff request]
    constructor
    · rintro ⟨_, same⟩
      exact congrArg Prod.fst (Option.some.inj same)
    · rintro rfl
      exact ⟨after, rfl⟩
  requests request fits := by
    obtain ⟨layout, written, spells⟩ := Request.spells_layout fits
    exact ⟨layout, written, fun _ more _ offers =>
      (Request.Reads.accepted spells more).received offers nofun⟩
  replies reply fits := by
    obtain ⟨layout, written, read⟩ := Reply.run_layout fits
    refine ⟨layout, fun endpoint willing => ?_, fun _ more _ offers =>
      offers.receiveMessage (read more)⟩
    obtain ⟨after, sent, taken⟩ := willing.send layout
    refine ⟨after, ?_, taken⟩
    rw [written]
    exact congrArg (Option.map _) sent
  refused reply unfit endpoint := by
    obtain ⟨message, unwritten⟩ := layout_of_not_fits unfit
    refine ⟨message, ?_⟩
    rw [Reply.layout, unwritten]
    rfl

end Socks
end TunnelProxy
