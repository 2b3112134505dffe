import TunnelProxy.Proofs.Stream.Message
import TunnelProxy.Proofs.Wire.Layout

/-!
# The layouts of tunnel records

A tunnel record is a byte which says what it is about, in greetings two numbers of eight bytes, and a
field behind its length of two bytes, all numbers most significant byte first.  Records are sent in
this layout and received from it, in whatever pieces they are written and arrive.
-/

namespace TunnelProxy
namespace Tunnel

open Wire (Reader ofBigEndian)

/-! ## Layouts -/

/-- A number in so many bytes, most significant first. -/
def Number (width value : Nat) (bytes : Bytes) : Prop :=
  bytes.length = width ∧ ofBigEndian bytes = value

theorem number_iff {width value : Nat} (fits : value < 256 ^ width) (bytes : Bytes) :
    Number width value bytes ↔ bytes = Wire.bigEndian width value := by
  constructor
  · rintro ⟨rfl, rfl⟩
    exact (Wire.bigEndian_ofBigEndian bytes).symm
  · rintro rfl
    exact ⟨Wire.bigEndian_length .., Wire.ofBigEndian_bigEndian width value fits⟩

/-- What the bytes of a record tell. -/
structure Shape where
  /-- The first byte. -/
  lead : UInt8
  /-- The rates, in greetings. -/
  rate : Option Rate
  /-- The bytes of the token or of the text. -/
  field : Bytes

/-- The bytes of the rates, if there are any. -/
inductive Shape.Rates : Option Rate → Bytes → Prop
  /-- There are none. -/
  | none : Rates none []
  /-- The rate of sending comes first. -/
  | some {rate : Rate} {send recv : Bytes} (first : Number 8 rate.send.toNat send)
      (second : Number 8 rate.recv.toNat recv) : Rates (some rate) (send ++ recv)

/-- The bytes of a record. -/
inductive Shape.Spells (shape : Shape) : Bytes → Prop
  /-- The first byte, the rates, the length of the field and the field. -/
  | mk {rates count : Bytes} (rated : Rates shape.rate rates)
      (counted : Number 2 shape.field.length count) :
      Spells shape (shape.lead :: (rates ++ count ++ shape.field))

/-- The rates in bytes, if there are any. -/
def ratesLayout : Option Rate → Bytes
  | none => []
  | some rate => rateLayout rate

theorem Shape.rates_iff (rate : Option Rate) (bytes : Bytes) :
    Rates rate bytes ↔ bytes = ratesLayout rate := by
  constructor
  · intro rates
    cases rates with
    | none => rfl
    | some first second =>
        rw [(number_iff (UInt64.toNat_lt _) _).mp first,
          (number_iff (UInt64.toNat_lt _) _).mp second]
        rfl
  · rintro rfl
    cases rate with
    | none => exact .none
    | some rate =>
        exact .some ((number_iff (UInt64.toNat_lt _) _).mpr rfl)
          ((number_iff (UInt64.toNat_lt _) _).mpr rfl)

/-- The bytes of a record before its field. -/
def Shape.head (shape : Shape) : Bytes := shape.lead :: ratesLayout shape.rate

theorem Shape.spells_iff (shape : Shape) (bytes : Bytes) :
    shape.Spells bytes ↔ ∃ field, Wire.long shape.field = .ok field ∧
      bytes = shape.head ++ field := by
  have written (fits : shape.field.length ≤ 0xFFFF) : Wire.long shape.field =
      .ok (Wire.bigEndian 2 shape.field.length ++ shape.field) := by
    rw [Wire.long, if_pos fits, Wire.word16, UInt16.toNat_ofNat', Nat.mod_eq_of_lt (by omega)]
  constructor
  · rintro ⟨rated, counted⟩
    have small : shape.field.length < 256 ^ 2 := by
      rw [← counted.1, ← counted.2]
      exact Wire.ofBigEndian_lt _
    refine ⟨_, written (by omega), ?_⟩
    rw [(rates_iff ..).mp rated, (number_iff small _).mp counted, head, List.cons_append,
      List.append_assoc]
  · rintro ⟨field, long, rfl⟩
    have fits := (Wire.long_eq_ok_iff _).mp ⟨field, long⟩
    obtain rfl := Except.ok.inj ((written fits).symm.trans long)
    rw [head, List.cons_append, ← List.append_assoc]
    exact .mk ((rates_iff ..).mpr rfl) ((number_iff (by omega) _).mpr rfl)

/-! ## Records -/

/-- How a kind of record is read and written, and what is in its bytes. -/
structure Form (Value : Type) where
  /-- The reader of the record. -/
  reader : Reader Value
  /-- The record in bytes. -/
  layout : Value → Except Error Bytes
  /-- The bytes with which the record may begin. -/
  leads : List UInt8
  /-- Whether the rates are in it. -/
  rated : Bool
  /-- What the bytes of a value tell. -/
  shape : Value → Shape
  /-- The value of which the bytes tell. -/
  value : Shape → Value
  /-- Whether all of the field is in the value. -/
  Valid : Bytes → Prop

namespace Form

variable {Value : Type} (form : Form Value)

/-- The bytes may be those of a record. -/
def Allows (shape : Shape) : Prop :=
  shape.lead ∈ form.leads ∧ shape.rate.isSome = form.rated

/-- What is read and written is what the bytes tell. -/
structure Proper : Prop where
  /-- A record is read exactly from its bytes. -/
  run_iff : ∀ input value rest, form.reader.run input = (.ok value, rest) ↔
    ∃ shape field, form.Allows shape ∧ Wire.long shape.field = .ok field ∧
      input = shape.head ++ field ++ rest ∧ form.value shape = value
  /-- A value is written as its bytes, or its field is too long. -/
  layout_eq : ∀ value, form.layout value =
    (Wire.long (form.shape value).field).map ((form.shape value).head ++ ·)
  /-- The bytes of a value may be those of a record. -/
  allows : ∀ value, form.Allows (form.shape value)
  /-- The value is told by its bytes. -/
  value_shape : ∀ value, form.value (form.shape value) = value
  /-- A value which is told by a valid field has these bytes. -/
  shape_value : ∀ shape, form.Allows shape → form.Valid shape.field →
    form.shape (form.value shape) = shape

end Form

/-- The bytes are those of a text. -/
def IsText (bytes : Bytes) : Prop :=
  ∃ text, bytes = Text.Utf8.encode text

/-- The byte of a truth value. -/
def flag (value : Bool) : UInt8 := if value then 1 else 0

theorem mem_flags_iff (lead : UInt8) : lead ∈ [0, 1] ↔ ∃ value, lead = flag value := by
  constructor
  · intro member
    obtain rfl | rfl : lead = 0 ∨ lead = 1 := by simpa using member
    · exact ⟨false, rfl⟩
    · exact ⟨true, rfl⟩
  · rintro ⟨value, rfl⟩
    cases value <;> simp [flag]

theorem flag_eq_one (value : Bool) : decide (flag value = 1) = value := by
  cases value <;> rfl

/-- A record which begins with a truth value and ends with a text. -/
def Form.telling {Value : Type} (reader : Reader Value) (layout : Value → Except Error Bytes)
    (rated : Bool) (parts : Value → Bool × Option Rate × String)
    (make : Bool → Option Rate → String → Value) : Form Value where
  reader := reader
  layout := layout
  leads := [0, 1]
  rated := rated
  shape value := ⟨flag (parts value).1, (parts value).2.1, Text.Utf8.encode (parts value).2.2⟩
  value shape := make (shape.lead = 1) shape.rate (Text.Utf8.decode shape.field)
  Valid := IsText

/-- The greeting of a client. -/
def clientHello : Form ClientHello where
  reader := ClientHello.reader
  layout := ClientHello.layout
  leads := [1]
  rated := true
  shape hello := ⟨1, some hello.rate, hello.token⟩
  value shape := ⟨shape.rate.getD default, shape.field⟩
  Valid _ := True

/-- The greeting of a server. -/
def serverHello : Form ServerHello :=
  .telling ServerHello.reader ServerHello.layout true
    (fun hello => (hello.accepted, some hello.rate, hello.message))
    (fun accepted rate message => ⟨accepted, rate.getD default, message⟩)

/-- What a client wants a stream for. -/
def streamRequest : Form StreamRequest :=
  .telling StreamRequest.reader StreamRequest.layout false
    (fun request => (request.datagrams, none, request.address))
    (fun datagrams _ address => ⟨datagrams, address⟩)

/-- The answer to it. -/
def streamResponse : Form StreamResponse :=
  .telling StreamResponse.reader StreamResponse.layout false
    (fun response => (response.accepted, none, response.message))
    (fun accepted _ message => ⟨accepted, message⟩)

/-! ## Reading and writing them -/

theorem run_longText_iff (input rest : Bytes) (text : String) :
    Reader.longText.run input = (.ok text, rest) ↔
      ∃ field layout, Wire.long field = .ok layout ∧ input = layout ++ rest ∧
        Text.Utf8.decode field = text := by
  simp only [Reader.longText, Reader.run_bind_ok_iff, Reader.run_long_iff, Reader.run_pure]
  constructor
  · rintro ⟨field, middle, ⟨layout, written, rfl⟩, equal⟩
    cases equal
    exact ⟨field, layout, written, rfl, rfl⟩
  · rintro ⟨field, layout, written, rfl, rfl⟩
    exact ⟨field, rest, ⟨layout, written, rfl⟩, rfl⟩

theorem telling_proper {Value : Type} {reader : Reader Value}
    {layout : Value → Except Error Bytes} {rated : Bool}
    {parts : Value → Bool × Option Rate × String} {make : Bool → Option Rate → String → Value}
    (reads : ∀ input value rest, reader.run input = (.ok value, rest) ↔
      ∃ truth rate text middle, rate.isSome = rated ∧
        input = Wire.bool truth ++ (ratesLayout rate ++ middle) ∧
        Reader.longText.run middle = (.ok text, rest) ∧ make truth rate text = value)
    (writes : ∀ value, layout value = (Wire.long (Text.Utf8.encode (parts value).2.2)).map
      (Wire.bool (parts value).1 ++ ratesLayout (parts value).2.1 ++ ·))
    (has_rate : ∀ value, (parts value).2.1.isSome = rated)
    (make_parts : ∀ value, make (parts value).1 (parts value).2.1 (parts value).2.2 = value)
    (parts_make : ∀ truth rate text, rate.isSome = rated →
      parts (make truth rate text) = (truth, rate, text)) :
    (Form.telling reader layout rated parts make).Proper where
  run_iff input value rest := by
    refine (reads input value rest).trans ?_
    constructor
    · rintro ⟨truth, rate, text, middle, isRated, rfl, read, rfl⟩
      obtain ⟨field, bytes, written, rfl, rfl⟩ := (run_longText_iff ..).mp read
      refine ⟨⟨flag truth, rate, field⟩, bytes, ⟨(mem_flags_iff _).mpr ⟨_, rfl⟩, isRated⟩,
        written, ?_, ?_⟩
      · simp [Shape.head, Wire.bool, flag]
      · simp only [Form.telling, flag_eq_one]
    · rintro ⟨⟨lead, rate, field⟩, bytes, ⟨lead_allowed, isRated⟩, written, rfl, rfl⟩
      obtain ⟨truth, rfl⟩ := (mem_flags_iff _).mp lead_allowed
      have read := (run_longText_iff (bytes ++ rest) rest _).mpr ⟨field, bytes, written, rfl, rfl⟩
      refine ⟨truth, rate, _, _, isRated, ?_, read, ?_⟩
      · simp [Shape.head, Wire.bool, flag]
      · simp only [Form.telling, flag_eq_one]
  layout_eq := writes
  allows value := ⟨(mem_flags_iff _).mpr ⟨_, rfl⟩, has_rate value⟩
  value_shape value := by
    simp only [Form.telling, flag_eq_one, Text.Utf8.decode_encode, make_parts]
  shape_value shape allows valid := by
    obtain ⟨lead_allowed, isRated⟩ := allows
    obtain ⟨lead, rate, field⟩ := shape
    obtain ⟨truth, rfl⟩ := (mem_flags_iff _).mp lead_allowed
    obtain ⟨text, rfl⟩ := valid
    simp only [Form.telling, flag_eq_one, Text.Utf8.decode_encode, parts_make truth rate text isRated]

theorem clientHello_layout_eq (hello : ClientHello) :
    hello.layout = (Wire.long hello.token).map ((clientHello.shape hello).head ++ ·) := by
  cases written : Wire.long hello.token <;>
    simp [ClientHello.layout, written, clientHello, Shape.head, ratesLayout, version, bind,
      Except.bind, Except.map, pure, Except.pure]

theorem clientHello_proper : clientHello.Proper where
  run_iff input hello rest := by
    refine (ClientHello.run_reader_iff ..).trans ?_
    constructor
    · rintro ⟨layout, written, rfl⟩
      rw [clientHello_layout_eq] at written
      cases long : Wire.long hello.token with
      | error error =>
          rw [long] at written
          cases written
      | ok field =>
          rw [long] at written
          cases written
          exact ⟨clientHello.shape hello, field, ⟨List.mem_singleton_self _, rfl⟩, long, rfl, rfl⟩
    · rintro ⟨⟨lead, rate, token⟩, field, ⟨lead_allowed, rated⟩, long, rfl, rfl⟩
      obtain rfl : lead = 1 := List.mem_singleton.mp lead_allowed
      obtain ⟨rate, rfl⟩ := Option.isSome_iff_exists.mp rated
      refine ⟨_, ?_, rfl⟩
      rw [clientHello_layout_eq]
      exact congrArg (Except.map _) long
  layout_eq := clientHello_layout_eq
  allows _ := ⟨List.mem_singleton_self _, rfl⟩
  value_shape _ := rfl
  shape_value shape allows _ := by
    obtain ⟨lead, rate, token⟩ := shape
    obtain ⟨lead_allowed, rated⟩ := allows
    obtain rfl : lead = 1 := List.mem_singleton.mp lead_allowed
    obtain ⟨rate, rfl⟩ := Option.isSome_iff_exists.mp rated
    rfl

theorem serverHello_proper : serverHello.Proper := by
  refine telling_proper ?_ ?_ (fun _ => rfl) (fun _ => rfl) ?_
  · intro input value rest
    simp only [ServerHello.reader, Reader.run_bind_ok_iff, Reader.run_bool_iff, run_rate_iff,
      Reader.run_pure]
    constructor
    · rintro ⟨accepted, _, rfl, rate, middle, rfl, message, _, read, equal⟩
      cases equal
      exact ⟨accepted, some rate, message, middle, rfl, rfl, read, rfl⟩
    · rintro ⟨accepted, rate, message, middle, rated, rfl, read, rfl⟩
      obtain ⟨rate, rfl⟩ := Option.isSome_iff_exists.mp rated
      exact ⟨accepted, _, rfl, rate, middle, rfl, message, rest, read, rfl⟩
  · intro value
    cases written : Wire.long (Text.Utf8.encode value.message) <;>
      simp [ServerHello.layout, written, ratesLayout, bind, Except.bind, Except.map, pure,
        Except.pure]
  · intro truth rate text rated
    obtain ⟨rate, rfl⟩ := Option.isSome_iff_exists.mp rated
    rfl

/-- The records of a stream are a truth value and a text. -/
theorem telling_unrated_proper {Value : Type} {truth : Value → Bool} {text : Value → String}
    (make : Bool → String → Value)
    (make_parts : ∀ value, make (truth value) (text value) = value)
    (truth_make : ∀ told said, truth (make told said) = told)
    (text_make : ∀ told said, text (make told said) = said) :
    (Form.telling (do let told ← Reader.bool; return make told (← Reader.longText))
      (fun value => do
        return Wire.bool (truth value) ++ (← Wire.long (Text.Utf8.encode (text value))))
      false (fun value => (truth value, none, text value))
      (fun told _ said => make told said)).Proper := by
  refine telling_proper ?_ ?_ (fun _ => rfl) make_parts ?_
  · intro input value rest
    simp only [Reader.run_bind_ok_iff, Reader.run_bool_iff, Reader.run_pure]
    constructor
    · rintro ⟨told, middle, rfl, said, _, read, equal⟩
      cases equal
      exact ⟨told, none, said, middle, rfl, rfl, read, rfl⟩
    · rintro ⟨told, rate, said, middle, unrated, rfl, read, rfl⟩
      obtain rfl : rate = none := by simpa using unrated
      exact ⟨told, middle, rfl, said, rest, read, rfl⟩
  · intro value
    cases written : Wire.long (Text.Utf8.encode (text value)) <;>
      simp [ratesLayout, bind, Except.bind, Except.map, pure, Except.pure]
  · intro told rate said unrated
    obtain rfl : rate = none := by simpa using unrated
    rw [truth_make, text_make]

theorem streamRequest_proper : streamRequest.Proper :=
  telling_unrated_proper StreamRequest.mk (fun _ => rfl) (fun _ _ => rfl) (fun _ _ => rfl)

theorem streamResponse_proper : streamResponse.Proper :=
  telling_unrated_proper StreamResponse.mk (fun _ => rfl) (fun _ _ => rfl) (fun _ _ => rfl)

/-! ## Sending and receiving them -/

namespace Form

variable {Value : Type}

/-- An endpoint which keeps taking bytes is sent exactly these. -/
def Sends (form : Form Value) (value : Value) (bytes : Bytes) : Prop :=
  ∀ endpoint : Endpoint, endpoint.Willing →
    ∃ after, endpoint.sendMessage (form.layout value) = some (.ok (), after) ∧
      after.written = endpoint.written ++ bytes

/-- From these bytes, in any pieces and with anything behind them, the value is received, and what is
behind them is left. -/
def Receives (form : Form Value) (bytes : Bytes) (value : Value) : Prop :=
  ∀ (endpoint : Endpoint) (more : Bytes) (later : List Arrival),
    endpoint.Offers (bytes ++ more) later →
      ∃ after, endpoint.receiveMessage form.reader = some (.ok value, after) ∧
        after.Offers more later

/-- A kind of record is sent in its documented layout and received from it. -/
structure Codec (form : Form Value) : Prop where
  /-- A value whose field fits is sent in its layout and received from it. -/
  sent : ∀ value, (form.shape value).field.length ≤ 0xFFFF →
    ∃ layout, (form.shape value).Spells layout ∧ form.Sends value layout ∧
      form.Receives layout value
  /-- A value whose field does not fit is refused, and nothing is done to the endpoint. -/
  refused : ∀ value, 0xFFFF < (form.shape value).field.length → ∀ endpoint : Endpoint,
    ∃ message, endpoint.sendMessage (form.layout value) =
      some (.error (.io ⟨.invalidInput, message⟩), endpoint)
  /-- A value is received from bytes exactly if they begin with a layout. -/
  complete : ∀ (endpoint : Endpoint) (input : Bytes), endpoint.Offers input [] →
    ∃ result after, endpoint.receiveMessage form.reader = some (result, after) ∧
      ((∃ value, result = .ok value) ↔
        ∃ shape layout, form.Allows shape ∧ shape.Spells layout ∧ layout <+: input)
  /-- A value which has been received from valid bytes is sent in the bytes which it took. -/
  reproduced : ∀ (endpoint after : Endpoint) (input : Bytes) (value : Value),
    endpoint.Offers input [] → endpoint.receiveMessage form.reader = some (.ok value, after) →
      ∃ shape layout rest, form.Allows shape ∧ shape.Spells layout ∧ input = layout ++ rest ∧
        after.Offers rest [] ∧ (form.Valid shape.field → form.Sends value layout)

variable {form : Form Value}

theorem Proper.run_iff_spells (proper : form.Proper) (input rest : Bytes) (value : Value) :
    form.reader.run input = (.ok value, rest) ↔
      ∃ shape layout, form.Allows shape ∧ shape.Spells layout ∧ input = layout ++ rest ∧
        form.value shape = value := by
  refine (proper.run_iff input value rest).trans ?_
  constructor
  · rintro ⟨shape, field, allowed, long, rfl, told⟩
    exact ⟨shape, _, allowed, (shape.spells_iff _).mpr ⟨field, long, rfl⟩, rfl, told⟩
  · rintro ⟨shape, layout, allowed, spells, rfl, told⟩
    obtain ⟨field, long, rfl⟩ := (shape.spells_iff _).mp spells
    exact ⟨shape, field, allowed, long, rfl, told⟩

/-- A value is sent in its layout. -/
theorem Proper.sends (proper : form.Proper) {value : Value} {layout : Bytes}
    (spells : (form.shape value).Spells layout) : form.Sends value layout := by
  intro endpoint willing
  obtain ⟨field, long, rfl⟩ := (Shape.spells_iff ..).mp spells
  obtain ⟨after, sent, written⟩ := willing.send ((form.shape value).head ++ field)
  refine ⟨after, ?_, written⟩
  rw [proper.layout_eq, long]
  exact congrArg (Option.map _) sent

/-- A kind of record which is read and written as its bytes tell is sent and received so. -/
theorem Proper.codec (proper : form.Proper) : form.Codec where
  sent value fits := by
    obtain ⟨field, long⟩ := (Wire.long_eq_ok_iff _).mpr fits
    have spells := (Shape.spells_iff (form.shape value) _).mpr ⟨field, long, rfl⟩
    refine ⟨_, spells, proper.sends spells, fun endpoint more later offers => ?_⟩
    exact offers.receiveMessage ((proper.run_iff_spells ..).mpr
      ⟨form.shape value, _, proper.allows value, spells, rfl, proper.value_shape value⟩)
  refused value long endpoint := by
    rw [proper.layout_eq, Wire.long, if_neg (Nat.not_le_of_lt long)]
    exact ⟨_, rfl⟩
  complete endpoint input offers := by
    obtain ⟨after, received, -⟩ := offers.receiveMessage_eq form.reader
    refine ⟨_, after, received, ?_⟩
    constructor
    · rintro ⟨value, read⟩
      obtain ⟨shape, layout, allowed, spells, cut, -⟩ :=
        (proper.run_iff_spells input _ value).mp (Prod.ext read rfl)
      exact ⟨shape, layout, allowed, spells, _, cut.symm⟩
    · rintro ⟨shape, layout, allowed, spells, rest, cut⟩
      have read := (proper.run_iff_spells input rest _).mpr
        ⟨shape, layout, allowed, spells, cut.symm, rfl⟩
      exact ⟨form.value shape, congrArg Prod.fst read⟩
  reproduced endpoint after input value offers received := by
    obtain ⟨_, received_here, left⟩ := offers.receiveMessage_eq form.reader
    rw [received] at received_here
    simp only [Option.some.injEq, Prod.mk.injEq] at received_here
    obtain ⟨read, rfl⟩ := received_here
    obtain ⟨shape, layout, allowed, spells, cut, rfl⟩ :=
      (proper.run_iff_spells input _ value).mp (Prod.ext read.symm rfl)
    refine ⟨shape, layout, _, allowed, spells, cut, left, fun valid => ?_⟩
    refine proper.sends ?_
    rwa [proper.shape_value shape allowed valid]

end Form

/-- The greetings of a tunnel session and the records of its streams are sent in their documented
layouts and received from them. -/
theorem codec_of_records :
    clientHello.Codec ∧ serverHello.Codec ∧ streamRequest.Codec ∧ streamResponse.Codec :=
  ⟨clientHello_proper.codec, serverHello_proper.codec, streamRequest_proper.codec,
    streamResponse_proper.codec⟩

end Tunnel
end TunnelProxy
