import TunnelProxy.Proofs.Socks.Conversation
import TunnelProxy.Proofs.Text.Utf8

/-!
# Credentials of the only user

A front-end with a user does nothing for a client unless the client has presented credentials whose
texts are those of the user.  A text is read leniently from its bytes, so these are the bytes of the
user's name and password exactly if neither holds the character which stands for malformed bytes.
-/

namespace TunnelProxy
namespace Socks

open Text.Utf8 (decode encode replacement)
open Wire (Reader)

/-- Credentials are read exactly from the layouts of their fields. -/
theorem Credentials.run_reader_iff (input rest : Bytes) (given : Credentials) :
    Credentials.reader.run input = (.ok given, rest) ↔
      ∃ username password name word, Wire.short username = .ok name ∧
        Wire.short password = .ok word ∧ input = 1 :: (name ++ word ++ rest) ∧
          given = ⟨decode username, decode password⟩ := by
  simp only [Credentials.reader, Reader.run_bind_ok_iff, Reader.run_byte_iff]
  constructor
  · rintro ⟨code, middle, rfl, read⟩
    split at read
    · rename_i known
      subst known
      simp only [Reader.run_bind_ok_iff, Reader.run_short_iff, Reader.run_pure] at read
      obtain ⟨username, _, ⟨name, named, rfl⟩, password, _, ⟨word, worded, rfl⟩, built⟩ := read
      cases built
      exact ⟨username, password, name, word, named, worded, by simp [version], rfl⟩
    · cases read
  · rintro ⟨username, password, name, word, named, worded, rfl, rfl⟩
    refine ⟨1, _, rfl, ?_⟩
    simp only [version, if_true, Reader.run_bind_ok_iff, Reader.run_short_iff]
    exact ⟨username, word ++ rest, ⟨name, named, by simp⟩, password, rest, ⟨word, worded, rfl⟩, rfl⟩

/-- The bytes of a greeting, of the version and of two fields were read. -/
def Submits (bytes username password : Bytes) : Prop :=
  ∃ offer name word rest, Wire.short username = .ok name ∧ Wire.short password = .ok word ∧
    MethodOffer.reader.run bytes = (.ok offer, 1 :: (name ++ word ++ rest))

theorem presents_iff (bytes : Bytes) (given : Credentials) :
    Presents bytes given ↔ ∃ username password, Submits bytes username password ∧
      given = ⟨decode username, decode password⟩ := by
  simp only [Presents, Submits, Reader.run_bind_ok_iff, Credentials.run_reader_iff]
  constructor
  · rintro ⟨rest, offer, middle, greeted, username, password, name, word, named, worded, rfl, rfl⟩
    exact ⟨username, password, ⟨offer, name, word, rest, named, worded, greeted⟩, rfl⟩
  · rintro ⟨username, password, ⟨offer, name, word, rest, named, worded, greeted⟩, rfl⟩
    exact ⟨rest, offer, _, greeted, username, password, name, word, named, worded, rfl, rfl⟩

/-! ## What is done for a client -/

/-- Whether something is done for a client: a hook fires, a destination is dialed, bytes are relayed,
or anything longer than the messages of the negotiation is written. -/
def engages : TunnelProxy.Request → Bool
  | .observe .. | .dial .. | .relay .. => true
  | .send _ bytes => 2 < bytes.length
  | _ => false

section Negotiation

variable {expected : Credentials} {client : StreamRef} {deadline : Option Nat}
  {exchanges : List Exchange} {outcome : Except Error Unit}

/-- The messages of the negotiation are short. -/
theorem asks_nothing_of_negotiate (access : Access) (client : StreamRef) (deadline : Option Nat) :
    (access.negotiate client deadline).run.Asks (fun request => ¬ engages request) := by
  have told : ∀ first second : UInt8, (Talk.write client (.ok [first, second])).run.Asks
      (fun request => ¬ engages request) :=
    fun first second => ⟨by simp [engages], fun _ => trivial⟩
  have read : ∀ {α : Type} (reader : Reader α), (Talk.read client deadline reader).run.Asks
      (fun request => ¬ engages request) := fun reader => Talk.asks_read reader (by simp [engages])
  have authorized : (access.authorize client deadline).run.Asks (fun request => ¬ engages request) := by
    cases access with
    | everybody => trivial
    | user expected =>
        refine Talk.asks_bind (read _) fun given => ?_
        split
        · exact told ..
        · exact Talk.asks_bind (told ..) fun _ => trivial
  refine Talk.asks_bind (read _) fun offer => ?_
  split
  · exact Talk.asks_bind (told ..) fun _ => Talk.asks_bind (told ..) fun _ => authorized
  · exact Talk.asks_bind (told ..) fun _ => authorized

/-- How a client is checked which has to present credentials. -/
inductive Check (expected : Credentials) (client : StreamRef) :
    List Exchange → Except Error Unit → Prop
  /-- No credentials were read. -/
  | unpresented {exchanges : List Exchange} (error : Error)
      (none : ∀ given, ¬ Presents (heard client exchanges) given) :
      Check expected client exchanges (.error error)
  /-- Other credentials were read, and the client is told so as far as possible. -/
  | wrong {before : List Exchange} {given : Credentials} (reply : Except IoError Unit)
      (presented : Presents (heard client before) given) (different : given ≠ expected) :
      Check expected client (before ++ [⟨.send client [1, 1], reply⟩])
        (reply.mapError Error.io >>= fun _ => .error .unrecognizedUsernamePassword)
  /-- The credentials of the user were read. -/
  | right {exchanges : List Exchange} (outcome : Except Error Unit)
      (presented : Presents (heard client exchanges) expected) :
      Check expected client exchanges outcome

theorem heard_append_send (front : List Exchange) (bytes : Bytes) (reply : Except IoError Unit) :
    heard client (front ++ [⟨.send client bytes, reply⟩]) = heard client front := by
  simp [heard, Exchange.heard]

theorem not_presents_of_greeting {bytes : Bytes} {offer : MethodOffer}
    (greeted : MethodOffer.reader.run bytes = (.ok offer, [])) (given : Credentials) :
    ¬ Presents bytes given := by
  rintro ⟨rest, read⟩
  rw [Reader.run_bind, greeted] at read
  cases read

theorem presents_of_append {front back : Bytes} {offer : MethodOffer} {given : Credentials}
    (greeted : MethodOffer.reader.run front = (.ok offer, []))
    (read : Credentials.reader.run back = (.ok given, [])) : Presents (front ++ back) given :=
  (presents_append_iff greeted back given).mpr ⟨[], read⟩

theorem check_of_authorize {front : List Exchange} {offer : MethodOffer}
    (greeted : MethodOffer.reader.run (heard client front) = (.ok offer, []))
    (run : Talk.Run ((Access.user expected).authorize client deadline) exchanges outcome) :
    Check expected client (front ++ exchanges) outcome := by
  rcases (Talk.run_bind_iff ..).mp run with
    ⟨reads, given, rest, rfl, reading, judging⟩ | ⟨error, reading, rfl⟩
  swap
  · refine .unpresented error fun given presented => ?_
    rw [heard_append, presents_append_iff greeted] at presented
    obtain ⟨rest, read⟩ := presented
    exact run_heard_ne_ok reading given rest read
  have read := run_heard_of_read reading
  split at judging
  · rename_i same
    subst same
    refine .right outcome ?_
    rw [heard_append, heard_append, heard_of_write judging, List.append_nil]
    exact presents_of_append greeted read
  · rename_i different
    have presented : Presents (heard client (front ++ reads)) given := by
      rw [heard_append]
      exact presents_of_append greeted read
    rw [← List.append_assoc]
    rcases (Talk.run_write_bind_iff ..).mp judging with ⟨_, rfl, failing⟩ | ⟨cause, rfl, rfl⟩
    · obtain ⟨rfl, rfl⟩ := (Talk.run_throw_iff ..).mp failing
      exact .wrong (.ok ()) presented different
    · exact .wrong (.error cause) presented different

theorem check_of_run
    (run : Talk.Run ((Access.user expected).negotiate client deadline) exchanges outcome) :
    Check expected client exchanges outcome := by
  rcases (Talk.run_bind_iff ..).mp run with
    ⟨reads, offer, rest, rfl, reading, choosing⟩ | ⟨error, reading, rfl⟩
  swap
  · refine .unpresented error fun given presented => ?_
    obtain ⟨rest, read⟩ := presented
    obtain ⟨offer, middle, greeted, -⟩ := (Reader.run_bind_ok_iff ..).mp read
    exact run_heard_ne_ok reading offer middle greeted
  -- Whatever is written about the method, nothing more is read than the greeting before the check.
  have chosen : ∀ {front rest : List Exchange} {choice : Bytes},
      MethodOffer.reader.run (heard client front) = (.ok offer, []) →
        Talk.Run (do
          Talk.write client (.ok choice)
          (Access.user expected).authorize client deadline) rest outcome →
            Check expected client (front ++ rest) outcome := by
    intro front rest choice greeted run
    rcases (Talk.run_write_bind_iff ..).mp run with ⟨last, rfl, authorizing⟩ | ⟨cause, rfl, rfl⟩
    · rw [List.append_cons]
      exact check_of_authorize (by rw [heard_append_send]; exact greeted) authorizing
    · refine .unpresented _ fun given => ?_
      rw [heard_append_send]
      exact not_presents_of_greeting greeted given
  have greeted := run_heard_of_read reading
  split at choosing
  · rcases (Talk.run_write_bind_iff ..).mp choosing with ⟨last, rfl, repeating⟩ | ⟨cause, rfl, rfl⟩
    · rw [List.append_cons]
      exact chosen (by rw [heard_append_send]; exact greeted) repeating
    · refine .unpresented _ fun given => ?_
      rw [heard_append_send]
      exact not_presents_of_greeting greeted given
  · exact chosen greeted choosing

/-- A client which passes the check has presented the credentials of the user. -/
theorem presents_of_negotiate
    (run : Talk.Run ((Access.user expected).negotiate client deadline) exchanges (.ok ())) :
    Presents (heard client exchanges) expected := by
  generalize passed : (Except.ok () : Except Error Unit) = outcome at run
  cases check_of_run run with
  | unpresented => cases passed
  | wrong reply => cases reply <;> cases passed
  | right _ presented => exact presented

end Negotiation

/-! ## Exact credentials -/

namespace Credentials

variable (expected : Credentials)

/-- The name and the password fit into their fields. -/
def Fits : Prop :=
  (encode expected.username).length ≤ 0xFF ∧ (encode expected.password).length ≤ 0xFF

/-- Of all bytes which fit into the fields, only those of the credentials are read as them. -/
def Exact : Prop :=
  ∀ username password : Bytes, username.length ≤ 0xFF → password.length ≤ 0xFF →
    decode username = expected.username → decode password = expected.password →
      username = encode expected.username ∧ password = encode expected.password

variable {expected}

theorem exact_of_not_mem (name : replacement ∉ expected.username.toList)
    (word : replacement ∉ expected.password.toList) : expected.Exact :=
  fun username password _ _ named worded =>
    ⟨(Text.Utf8.decode_injective_iff _).mpr name username named,
      (Text.Utf8.decode_injective_iff _).mpr word password worded⟩

/-- Other bytes than those of the credentials are read as them exactly if a replacement character
stands in them. -/
theorem exact_iff (fits : expected.Fits) :
    expected.Exact ↔
      replacement ∉ expected.username.toList ∧ replacement ∉ expected.password.toList := by
  constructor
  · intro exact
    have named := Text.Utf8.decode_encode expected.username
    have worded := Text.Utf8.decode_encode expected.password
    constructor
    · intro replaced
      obtain ⟨bytes, read, shorter⟩ := Text.Utf8.exists_decode_eq replaced
      have short : bytes.length ≤ 0xFF := Nat.le_trans (Nat.le_of_lt shorter) fits.1
      rw [(exact bytes _ short fits.2 read worded).1] at shorter
      exact Nat.lt_irrefl _ shorter
    · intro replaced
      obtain ⟨bytes, read, shorter⟩ := Text.Utf8.exists_decode_eq replaced
      have short : bytes.length ≤ 0xFF := Nat.le_trans (Nat.le_of_lt shorter) fits.2
      rw [(exact _ bytes fits.1 short named read).2] at shorter
      exact Nat.lt_irrefl _ shorter
  · rintro ⟨name, word⟩
    exact exact_of_not_mem name word

end Credentials

/-! ## The gate -/

namespace FrontEnd

/-- What holds of a conversation if the front-end has a user. -/
structure Guarded (expected : Credentials) (client : StreamRef) (exchanges : List Exchange)
    (outcome : Except Error Unit) : Prop where
  /-- Nothing is done for a client unless the texts of its fields are those of the user. -/
  engaged : Asked engages exchanges → ∃ username password,
    Submits (heard client exchanges) username password ∧ decode username = expected.username ∧
      decode password = expected.password
  /-- A client with other texts is told so as far as possible, which is the end. -/
  refused : ∀ username password, Submits (heard client exchanges) username password →
    ¬ (decode username = expected.username ∧ decode password = expected.password) →
      ¬ Asked engages exchanges ∧
        ∃ before reply, exchanges = before ++ [⟨.send client [1, 1], reply⟩, ⟨.release client, ()⟩] ∧
          outcome = (reply.mapError Error.io >>= fun _ => .error .unrecognizedUsernamePassword)
  /-- Where no replacement character stands in the credentials, the fields have to be their bytes. -/
  exact : replacement ∉ expected.username.toList → replacement ∉ expected.password.toList →
    Asked engages exchanges → Submits (heard client exchanges) (encode expected.username)
      (encode expected.password)

variable {expected : Credentials} {client : StreamRef} {exchanges : List Exchange}
  {outcome : Except Error Unit}

theorem presents_unique {bytes : Bytes} {given other : Credentials} (presented : Presents bytes given)
    (again : Presents bytes other) : given = other := by
  obtain ⟨_, read⟩ := presented
  obtain ⟨_, same⟩ := again
  rw [read] at same
  cases same
  rfl

/-- A conversation in which the credentials of the user were presented is as it should be. -/
theorem guarded_of_presents (presented : Presents (heard client exchanges) expected) :
    Guarded expected client exchanges outcome := by
  obtain ⟨username, password, submitted, same⟩ := (presents_iff ..).mp presented
  have texts : decode username = expected.username ∧ decode password = expected.password := by
    simp [same]
  constructor
  · exact fun _ => ⟨username, password, submitted, texts⟩
  · intro other word submitted different
    have again := (presents_iff _ ⟨decode other, decode word⟩).mpr ⟨other, word, submitted, rfl⟩
    cases presents_unique presented again
    exact absurd ⟨rfl, rfl⟩ different
  · intro name word _
    obtain ⟨_, _, _, _, named, worded, _⟩ := id submitted
    obtain ⟨rfl, rfl⟩ := Credentials.exact_of_not_mem name word username password
      (Wire.length_le_of_short named) (Wire.length_le_of_short worded) texts.1 texts.2
    exact submitted

/-- A conversation which does not get beyond the check is as it should be. -/
theorem guarded_of_check (checked : Check expected client exchanges outcome)
    (quiet : ¬ Asked engages exchanges) :
    Guarded expected client (exchanges ++ [⟨.release client, ()⟩]) outcome := by
  have sent : ∀ exchanges, heard client (exchanges ++ [⟨.release client, ()⟩]) =
      heard client exchanges := fun exchanges => by simp [heard, Exchange.heard]
  have idle : ¬ Asked engages (exchanges ++ [⟨.release client, ()⟩]) := by
    simp [quiet, engages]
  cases checked with
  | unpresented error none =>
      refine ⟨fun asked => absurd asked idle, ?_, fun _ _ asked => absurd asked idle⟩
      intro username password submitted _
      rw [sent] at submitted
      exact absurd ((presents_iff ..).mpr ⟨username, password, submitted, rfl⟩) (none _)
  | @wrong before given reply presented different =>
      refine ⟨fun asked => absurd asked idle, ?_, fun _ _ asked => absurd asked idle⟩
      exact fun _ _ _ _ => ⟨idle, before, reply, by simp, rfl⟩
  | right _ presented => exact guarded_of_presents (by rwa [sent])

/-- Nothing is done for a client of a front-end with a user unless the client presents the texts of
its name and password; they are presented by no other bytes than theirs exactly if no replacement
character stands in them. -/
theorem guarded_of_run {frontEnd : FrontEnd} {peer : Net.SocketAddress}
    (required : frontEnd.access = .user expected)
    (run : Talk.Run (frontEnd.handle peer client) exchanges outcome) :
    Guarded expected client exchanges outcome ∧ (expected.Fits →
      (expected.Exact ↔
        replacement ∉ expected.username.toList ∧ replacement ∉ expected.password.toList)) := by
  refine ⟨?_, Credentials.exact_iff⟩
  have passed : ∀ {first rest}, Talk.Run (frontEnd.access.negotiate client frontEnd.timeout) first
      (.ok ()) → exchanges = first ++ rest → Guarded expected client exchanges outcome := by
    rintro first rest negotiated rfl
    obtain ⟨later, read⟩ := presents_of_negotiate (required ▸ negotiated)
    refine guarded_of_presents ⟨later ++ heard client rest, ?_⟩
    rw [heard_append]
    exact Reader.run_append read _
  cases handling_of_run run with
  | @denied first error negotiated =>
      rw [required] at negotiated
      refine guarded_of_check (check_of_run negotiated) ?_
      rintro ⟨exchange, member, engaged⟩
      have asks := asks_nothing_of_negotiate (.user expected) client frontEnd.timeout
      exact asks.of_after negotiated exchange member engaged
  | unasked negotiated => exact passed negotiated (List.append_assoc ..)
  | dispatching negotiated => exact passed negotiated (List.append_assoc ..)

/-- A client is let in whose name is a byte which no text has, if the name of the user is the
character which stands for such bytes. -/
theorem guarded_of_malformed_name :
    ∃ (frontEnd : FrontEnd) (expected : Credentials) (client : StreamRef)
      (exchanges : List Exchange) (outcome : Except Error Unit),
      frontEnd.access = .user expected ∧
        Talk.Run (frontEnd.handle default client) exchanges outcome ∧
        Asked engages exchanges ∧
        ¬ Submits (heard client exchanges) (encode expected.username) (encode expected.password) ∧
        Guarded expected client exchanges outcome := by
  let expected : Credentials := ⟨"\uFFFD", "x"⟩
  let frontEnd : FrontEnd := ⟨.user expected, .frontEnd (.fixed .block), none⟩
  let client : StreamRef := .connection 0
  let target : Net.Address := .ip (.v4 ⟨1, 2, 3, 4⟩) 80
  obtain ⟨greeting, greetingHeard, greeted⟩ := Talk.exists_read client none
    (show MethodOffer.reader.run [5, 1, 2] = (.ok ⟨5, [.userPass]⟩, []) by rfl)
  obtain ⟨naming, namingHeard, named⟩ := Talk.exists_read client none
    (show Credentials.reader.run [1, 1, 0xFF, 1, 120] = (.ok expected, []) by decide +kernel)
  obtain ⟨request, requestHeard, requested⟩ := Talk.exists_read client none
    (show Request.reader.run [5, 1, 0, 1, 1, 2, 3, 4, 0, 80] = (.ok ⟨5, .connect, target⟩, []) by rfl)
  let error : Error := .blocked target
  let before : List Exchange := greeting ++ (⟨.send client [5, 2], .ok ()⟩ ::
    (naming ++ [⟨.send client [1, 0], .ok ()⟩]))
  have negotiated : Talk.Run (frontEnd.access.negotiate client none) before (.ok ()) := by
    refine (Talk.run_bind_iff ..).mpr (.inl ⟨greeting, _, _, rfl, greeted, ?_⟩)
    refine (Talk.run_write_bind_iff ..).mpr (.inl ⟨_, rfl, ?_⟩)
    refine (Talk.run_bind_iff ..).mpr (.inl ⟨naming, expected, _, rfl, named, ?_⟩)
    rw [if_pos rfl]
    exact .ask trivial (.start _)
  have asked : Talk.Run (frontEnd.request client) request (.ok target) :=
    (Talk.run_attempt_bind_iff ..).mpr ⟨request, _, [], by simp, requested, .start _⟩
  have connected : Talk.Run (frontEnd.connect client target ⟨.block, ""⟩)
      [⟨.send client (replyBytes (.refused .hostUnreachable)), .ok ()⟩] (.error error) := by
    refine (Talk.run_attempt_bind_iff ..).mpr ⟨[], .error error, _, rfl, .start _, ?_⟩
    dsimp only [refuse, reply]
    rw [Reply.layout_ofOutcome]
    exact .ask trivial (.start _)
  have run := run_handle default negotiated asked connected
  refine ⟨frontEnd, expected, client, _, _, rfl, run, ?_, ?_, (guarded_of_run rfl run).1⟩
  · simp [service, engages]
  · rintro ⟨offer, name, word, rest, written, -, read⟩
    have nothing : heard client [] = [] := rfl
    rw [List.append_nil] at greetingHeard namingHeard
    simp only [before, service, heard_append, heard_cons, Exchange.heard, nothing, greetingHeard,
      namingHeard, List.append_nil, List.nil_append, List.append_assoc] at read
    rw [Reader.run_append (show MethodOffer.reader.run [5, 1, 2] =
      (.ok ⟨5, [.userPass]⟩, []) by rfl)] at read
    have three : (.ok name : Except Error Bytes) = .ok [3, 0xEF, 0xBF, 0xBD] := by
      rw [← written]
      decide
    cases three
    simp at read

end FrontEnd
end Socks
end TunnelProxy
