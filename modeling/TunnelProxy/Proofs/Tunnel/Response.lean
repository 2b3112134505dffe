import TunnelProxy.Proofs.Net.AddressText
import TunnelProxy.Proofs.Session.Run
import TunnelProxy.Proofs.Text.Cut
import TunnelProxy.Proofs.Wire.Layout
import TunnelProxy.Tunnel.Server

/-!
# The answers of the tunnel server

Each request for a connection calls for one answer, which depends on the rules and on what comes of
connecting to the destination.  The answer is written if it has a layout, and nothing is written
otherwise; bytes are relayed only behind an answer which grants the request.
-/

namespace TunnelProxy
namespace Tunnel

theorem StreamResponse.layout_eq_ok_iff (response : StreamResponse) :
    (∃ bytes, response.layout = .ok bytes) ↔
      (Text.Utf8.encode response.message).length ≤ 0xFFFF := by
  rw [StreamResponse.layout, Wire.long]
  split <;> simp_all [bind, Except.bind, pure, Except.pure]

namespace Server

variable (server : Server)

/-! ## What serving a stream asks for -/

/-- What serving a stream of a client asks for. -/
inductive Serves (peer : Net.SocketAddress) (token : Bytes) (stream : StreamRef) : Request → Prop
  /-- The request is read. -/
  | read (count : Nat) : Serves peer token stream (.receive stream count none)
  /-- The answer is written. -/
  | write (bytes : Bytes) : Serves peer token stream (.send stream bytes)
  /-- Streams are given up. -/
  | release (given : StreamRef) : Serves peer token stream (.release given)
  /-- The destination is connected to from this host. -/
  | dial (address : Net.Address) : Serves peer token stream (.dial ⟨.direct, address⟩)
  /-- Bytes are relayed between the stream and the destination. -/
  | relay (destination : StreamRef) :
      Serves peer token stream (.relay stream destination server.idle)
  /-- The decision about a destination is told. -/
  | decided {address : String} {target : Net.Address}
      (parsed : Net.Address.parse? address = some target) :
      Serves peer token stream
        (.observe (.request ⟨peer, some token, address⟩ (server.dispatcher.decide target)))
  /-- The end is told. -/
  | finished (info : RequestInfo) (failure : Option Error) :
      Serves peer token stream (.observe (.finished info failure))

section Serves

variable {server} {peer : Net.SocketAddress} {token : Bytes} {stream : StreamRef}

theorem asks_refuse {α : Type} (message : String) (error : Error) :
    (refuse stream message error : Talk α).run.Asks (server.Serves peer token stream) :=
  Talk.asks_bind (Talk.asks_bind (Talk.asks_attempt (Talk.asks_write _ .write)) fun _ => trivial)
    fun _ => trivial

theorem asks_dial (decision : Acl.Decision) (target : Net.Address) :
    (dial decision target).run.Asks (server.Serves peer token stream) := by
  refine Talk.asks_bind ?_ fun route => ⟨.dial route.address, fun _ => trivial⟩
  cases decision.route target <;> trivial

theorem asks_connect (address : String) :
    (server.connect ⟨peer, some token, address⟩ stream).run.Asks
      (server.Serves peer token stream) := by
  refine Talk.asks_releasing (.release stream) ?_
  cases parsed : Net.Address.parse? address with
  | none => exact asks_refuse ..
  | some target =>
      refine Talk.asks_bind ⟨.decided parsed, fun _ => trivial⟩ fun _ => ?_
      refine Talk.asks_bind (Talk.asks_attempt (asks_dial _ target)) fun dialed => ?_
      cases dialed with
      | error error => exact asks_refuse ..
      | ok destination =>
          refine Talk.asks_releasing (.release destination) ?_
          refine Talk.asks_bind (Talk.asks_write _ .write) fun _ => ?_
          exact ⟨.relay destination, fun _ => trivial⟩

end Serves

theorem asks_handleStream (peer : Net.SocketAddress) (token : Bytes) (stream : StreamRef) :
    (server.handleStream peer token stream).Asks (server.Serves peer token stream) := by
  refine Program.asks_bind (Talk.asks_read _ .read) fun request => ?_
  cases request with
  | error error => exact ⟨.release stream, fun _ => trivial⟩
  | ok request =>
      dsimp only
      split
      · exact ⟨.release stream, fun _ => trivial⟩
      · refine Program.asks_bind (asks_connect request.address) fun result => ?_
        cases result <;> exact ⟨.finished _ _, fun _ => trivial⟩

/-! ## Answers -/

/-- The answer which a request calls for if connecting to a destination gives what `reach` says. -/
def answer (address : String) (reach : Acl.Route → Except Error StreamRef) : StreamResponse :=
  match Net.Address.parse? address with
  | none => .refused "invalid address"
  | some target =>
      match (server.dispatcher.decide target).route target with
      | .error error => .refused (refusal error)
      | .ok route =>
          match reach ⟨.direct, route.address⟩ with
          | .error error => .refused (refusal error)
          | .ok _ => .granted

/-- A destination was reached. -/
def Reached (exchanges : List Exchange) : Prop :=
  ∃ route destination, (⟨.dial route, .ok destination⟩ : Exchange) ∈ exchanges

/-- What is written for an answer. -/
def written (response : StreamResponse) : List Bytes :=
  match response.layout with
  | .ok bytes => [bytes]
  | .error _ => []

/-- Whether something dials or moves bytes of streams other than by reading. -/
def isTransfer : Request → Bool
  | .send .. | .dial .. | .relay .. => true
  | _ => false

/-- A request gets an answer as far as it has a layout. -/
structure Responds (stream : StreamRef) (exchanges : List Exchange) (response : StreamResponse) :
    Prop where
  /-- Nothing but the answer is written. -/
  messages : messages stream exchanges = written response
  /-- The answer says whether the destination was reached. -/
  accepted : response.accepted = true ↔ Reached exchanges
  /-- Bytes are relayed behind an answer which grants the request only. -/
  relayed : Throughout
    (fun past exchange => ∀ near far idle, exchange.request = .relay near far idle →
      response.accepted = true ∧ near = stream ∧
        TunnelProxy.messages stream past = written response) [] exchanges

/-- Writing an answer in full. -/
def answering (stream : StreamRef) (response : StreamResponse) : List Exchange :=
  (written response).map fun bytes => ⟨.send stream bytes, .ok ()⟩

/-- Whatever is written to a stream is written in full. -/
def Delivered (stream : StreamRef) (exchanges : List Exchange) : Prop :=
  ∀ bytes (reply : Except IoError Unit), (⟨.send stream bytes, reply⟩ : Exchange) ∈ exchanges →
    reply = .ok ()

/-- Destinations answer as `reach` says. -/
def Dialed (reach : Acl.Route → Except Error StreamRef) (exchanges : List Exchange) : Prop :=
  ∀ route (reply : Except Error StreamRef), (⟨.dial route, reply⟩ : Exchange) ∈ exchanges →
    reply = reach route

theorem Delivered.sublist {stream : StreamRef} {part whole : List Exchange}
    (delivered : Delivered stream whole) (sublist : part ⊆ whole) : Delivered stream part :=
  fun bytes reply member => delivered bytes reply (sublist member)

/-! ## The courses of a request -/

/-- How a request for a connection can go, and the answer it calls for. -/
inductive Course (info : RequestInfo) (stream : StreamRef) :
    List Exchange → StreamResponse → Prop
  /-- The destination is no destination. -/
  | invalid :
      Course info stream (answering stream (.refused "invalid address")) (.refused "invalid address")
  /-- The rules do not lead to a destination. -/
  | ruledOut (decision : Acl.Decision) (message : String) :
      Course info stream
        (⟨.observe (.request info decision), ()⟩ :: answering stream (.refused message))
        (.refused message)
  /-- The destination is not reached. -/
  | unreached (decision : Acl.Decision) (route : Acl.Route) (error : Error) (message : String) :
      Course info stream
        (⟨.observe (.request info decision), ()⟩ :: ⟨.dial route, .error error⟩ ::
          answering stream (.refused message))
        (.refused message)
  /-- The destination is reached. -/
  | reached (decision : Acl.Decision) (route : Acl.Route) (destination : StreamRef)
      (relayed : Except Error Unit) (idle : Option Nat) :
      Course info stream
        (⟨.observe (.request info decision), ()⟩ :: ⟨.dial route, .ok destination⟩ ::
          answering stream .granted ++
            [⟨.relay stream destination idle, relayed⟩, ⟨.release destination, ()⟩])
        .granted

theorem run_refuse {α : Type} {stream : StreamRef} {message : String} {error : Error}
    {exchanges : List Exchange} {outcome : Except Error α}
    (run : Talk.Run (refuse stream message error) exchanges outcome)
    (delivered : Delivered stream exchanges) :
    exchanges = answering stream (.refused message) := by
  have tried : ∃ result, Talk.Run (Talk.write stream (StreamResponse.refused message).layout)
      exchanges result := by
    rcases (Talk.run_bind_iff ..).mp run with ⟨front, _, back, rfl, tried, failed⟩ | ⟨_, tried, -⟩
    · obtain ⟨rfl, -⟩ := (Talk.run_throw_iff ..).mp failed
      obtain ⟨_, attempted, -⟩ := (Talk.run_map_iff ..).mp tried
      obtain ⟨result, run, -⟩ := (Talk.run_attempt_iff ..).mp attempted
      exact ⟨result, by simpa using run⟩
    · obtain ⟨_, attempted, -⟩ := (Talk.run_map_iff ..).mp tried
      obtain ⟨result, run, -⟩ := (Talk.run_attempt_iff ..).mp attempted
      exact ⟨result, run⟩
  obtain ⟨result, run⟩ := tried
  rw [answering, written]
  cases layout : (StreamResponse.refused message).layout with
  | error error =>
      rw [layout] at run
      exact ((Talk.run_write_error_iff ..).mp run).1
  | ok bytes =>
      rw [layout] at run
      obtain ⟨reply, rfl, -⟩ := (Talk.run_write_ok_iff ..).mp run
      rw [delivered bytes reply List.mem_cons_self]
      rfl

theorem run_dial {decision : Acl.Decision} {target : Net.Address} {exchanges : List Exchange}
    {outcome : Except Error StreamRef}
    (run : Talk.Run (dial decision target) exchanges outcome) :
    (∃ error, decision.route target = .error error ∧ exchanges = [] ∧ outcome = .error error) ∨
      ∃ route, decision.route target = .ok route ∧
        exchanges = [⟨.dial ⟨.direct, route.address⟩, outcome⟩] := by
  cases routed : decision.route target with
  | error error =>
      rw [dial, routed] at run
      obtain ⟨rfl, rfl⟩ := (Program.run_done_iff ..).mp run
      exact .inl ⟨error, rfl, rfl, rfl⟩
  | ok route =>
      rw [dial, routed] at run
      obtain ⟨rfl, -⟩ := (Program.run_request_iff (.dial ..) ..).mp run
      exact .inr ⟨route, rfl, rfl⟩

theorem run_serve {stream destination : StreamRef} {idle : Option Nat} {exchanges : List Exchange}
    {outcome : Except Error Unit}
    (run : Talk.Run (Talk.releasing destination do
      Talk.write stream StreamResponse.granted.layout
      Talk.relay stream destination idle) exchanges outcome)
    (delivered : Delivered stream exchanges) :
    exchanges = answering stream .granted ++
      [⟨.relay stream destination idle, outcome⟩, ⟨.release destination, ()⟩] := by
  obtain ⟨front, rfl, body⟩ := (Talk.run_releasing_iff ..).mp run
  have granted : StreamResponse.granted.layout = .ok [1, 0, 0] := rfl
  rw [granted] at body
  rcases (Talk.run_bind_iff ..).mp body with ⟨_, _, relaying, rfl, sent, relayed⟩ | ⟨_, sent, -⟩
  · obtain ⟨reply, rfl, -⟩ := (Talk.run_write_ok_iff ..).mp sent
    obtain ⟨rfl, -⟩ := (Program.run_request_iff (.relay ..) ..).mp relayed
    rw [delivered [1, 0, 0] reply (by simp)]
    rfl
  · obtain ⟨reply, rfl, failed⟩ := (Talk.run_write_ok_iff ..).mp sent
    rw [delivered [1, 0, 0] reply (by simp)] at failed
    cases failed

theorem course_of_run {info : RequestInfo} {stream : StreamRef} {exchanges : List Exchange}
    {outcome : Except Error Unit} {reach : Acl.Route → Except Error StreamRef}
    (run : Talk.Run (server.connect info stream) exchanges outcome)
    (delivered : Delivered stream exchanges) (dialed : Dialed reach exchanges) :
    ∃ front, exchanges = front ++ [⟨.release stream, ()⟩] ∧
      Course info stream front (server.answer info.address reach) := by
  obtain ⟨front, rfl, body⟩ := (Talk.run_releasing_iff ..).mp run
  refine ⟨front, rfl, ?_⟩
  replace delivered := delivered.sublist (List.subset_append_left front _)
  rw [answer]
  cases parsed : Net.Address.parse? info.address with
  | none =>
      rw [parsed] at body
      rw [run_refuse body delivered]
      exact .invalid
  | some target =>
      rw [parsed] at body
      dsimp only at body ⊢
      obtain ⟨_, rfl, deciding⟩ := (Talk.run_observe_bind_iff ..).mp body
      obtain ⟨_, result, last, rfl, dialing, ending⟩ := (Talk.run_attempt_bind_iff ..).mp deciding
      rcases run_dial dialing with ⟨error, routed, rfl, rfl⟩ | ⟨route, routed, rfl⟩
      · rw [run_refuse ending (delivered.sublist (by simp)), routed]
        exact .ruledOut _ _
      · rw [routed]
        dsimp only
        rw [← dialed _ result (by simp)]
        cases result with
        | error error =>
            rw [run_refuse ending (delivered.sublist (by simp))]
            exact .unreached _ _ _ _
        | ok destination =>
            rw [run_serve ending (delivered.sublist (by simp))]
            exact .reached _ _ destination outcome server.idle

theorem messages_eq_nil {stream : StreamRef} {exchanges : List Exchange}
    (quiet : ¬ Asked isTransfer exchanges) : messages stream exchanges = [] := by
  rw [messages, List.flatMap_eq_nil_iff]
  rintro ⟨request, reply⟩ member
  cases request with
  | send => exact absurd ⟨_, member, rfl⟩ quiet
  | _ => rfl

theorem messages_answering (stream : StreamRef) (response : StreamResponse) :
    messages stream (answering stream response) = written response := by
  rw [answering, written]
  cases response.layout <;> simp [messages, Exchange.messages]

/-- Where nothing is relayed, nothing has to be said about relays. -/
theorem throughout_of_not_relay {stated : List Exchange → StreamRef → Prop}
    {past exchanges : List Exchange}
    (none : ∀ exchange ∈ exchanges, ∀ near far idle, exchange.request ≠ .relay near far idle) :
    Throughout (fun past exchange => ∀ near far idle, exchange.request = .relay near far idle →
      stated past near) past exchanges :=
  throughout_of_forall fun _ exchange member near far idle same =>
    absurd same (none exchange member near far idle)

/-- A request which is refused is told so and nothing else. -/
theorem responds_refused {stream : StreamRef} (front : List Exchange) {message : String}
    (unsent : messages stream front = []) (unreached : ¬ Reached front)
    (none : ∀ exchange ∈ front, ∀ near far idle, exchange.request ≠ .relay near far idle) :
    Responds stream (front ++ answering stream (.refused message)) (.refused message) := by
  constructor
  · rw [messages_append, unsent, messages_answering, List.nil_append]
  · refine ⟨fun impossible => absurd impossible Bool.false_ne_true, ?_⟩
    rintro ⟨route, destination, member⟩
    rcases List.mem_append.mp member with early | late
    · exact absurd ⟨route, destination, early⟩ unreached
    · simp [answering] at late
  · apply throughout_of_not_relay
    intro exchange member
    rcases List.mem_append.mp member with early | late
    · exact none exchange early
    · obtain ⟨bytes, -, rfl⟩ := List.mem_map.mp late
      simp

theorem responds_of_course {info : RequestInfo} {stream : StreamRef} {exchanges : List Exchange}
    {response : StreamResponse} (course : Course info stream exchanges response) :
    Responds stream exchanges response := by
  cases course with
  | invalid =>
      rw [← List.nil_append (answering ..)]
      exact responds_refused [] rfl (by simp [Reached]) (by simp)
  | ruledOut decision message =>
      exact responds_refused [_] rfl (by simp [Reached]) (by simp)
  | unreached decision route error message =>
      exact responds_refused [_, _] rfl (by simp [Reached]) (by simp)
  | reached decision route destination relayed idle =>
      have answer : answering stream .granted = [⟨.send stream [1, 0, 0], .ok ()⟩] := rfl
      have granted : written .granted = [[1, 0, 0]] := rfl
      rw [answer]
      constructor
      · simp [messages, Exchange.messages, granted]
      · exact ⟨fun _ => ⟨route, destination, by simp⟩, fun _ => rfl⟩
      · refine ⟨by simp, by simp, by simp, ?_, by simp, trivial⟩
        intro near far limit same
        cases same
        exact ⟨rfl, rfl, by simp [messages, Exchange.messages, granted]⟩

/-- What neither dials nor writes nor relays does not change how a request is answered. -/
theorem Responds.frame {stream : StreamRef} {front exchanges back : List Exchange}
    {response : StreamResponse} (responds : Responds stream exchanges response)
    (before : ¬ Asked isTransfer front) (behind : ¬ Asked isTransfer back) :
    Responds stream (front ++ exchanges ++ back) response := by
  have quiet : ∀ part, ¬ Asked isTransfer part → ∀ exchange ∈ part, ∀ near far idle,
      exchange.request ≠ .relay near far idle := by
    intro part unasked exchange member near far idle same
    exact unasked ⟨exchange, member, same ▸ rfl⟩
  constructor
  · rw [messages_append, messages_append, messages_eq_nil before, messages_eq_nil behind,
      responds.messages, List.nil_append, List.append_nil]
  · rw [responds.accepted]
    constructor
    · rintro ⟨route, destination, member⟩
      exact ⟨route, destination, by simp [member]⟩
    · rintro ⟨route, destination, member⟩
      rcases List.mem_append.mp member with member | late
      · rcases List.mem_append.mp member with early | middle
        · exact absurd ⟨_, early, rfl⟩ before
        · exact ⟨route, destination, middle⟩
      · exact absurd ⟨_, late, rfl⟩ behind
  · refine (throughout_append ..).mpr ⟨(throughout_append ..).mpr ⟨?_, ?_⟩, ?_⟩
    · exact throughout_of_not_relay (quiet front before)
    · rw [List.nil_append, ← List.append_nil front]
      refine responds.relayed.shift fun past exchange holds near far idle same => ?_
      rw [messages_append, messages_eq_nil before]
      exact holds near far idle same
    · exact throughout_of_not_relay (quiet back behind)

/-! ## Streams of a client -/

/-- How serving a stream of a client can go. -/
inductive Service (peer : Net.SocketAddress) (token : Bytes) (stream : StreamRef) :
    List Exchange → Except Error StreamRequest → Prop
  /-- No request is read. -/
  | unread {error : Error} : Service peer token stream [⟨.release stream, ()⟩] (.error error)
  /-- Datagrams are asked for. -/
  | datagrams {request : StreamRequest} (asked : request.datagrams = true) :
      Service peer token stream [⟨.release stream, ()⟩] (.ok request)
  /-- A connection is asked for. -/
  | connection {request : StreamRequest} {exchanges : List Exchange} {outcome : Except Error Unit}
      (failure : Option Error) (told : ∀ error, failure = some error ↔ outcome = .error error)
      (asked : request.datagrams = false)
      (run : Talk.Run (server.connect ⟨peer, some token, request.address⟩ stream) exchanges outcome) :
      Service peer token stream
        (exchanges ++ [⟨.observe (.finished ⟨peer, some token, request.address⟩ failure), ()⟩])
        (.ok request)

theorem service_of_run {peer : Net.SocketAddress} {token : Bytes} {stream : StreamRef}
    {exchanges : List Exchange}
    (run : Program.Run (server.handleStream peer token stream) exchanges ()) :
    ∃ reads result rest, exchanges = reads ++ rest ∧
      Talk.Run (Talk.read stream none StreamRequest.reader) reads result ∧
      server.Service peer token stream rest result := by
  obtain ⟨reads, result, rest, rfl, reading, serving⟩ := (Program.run_bind_iff ..).mp run
  refine ⟨reads, result, rest, rfl, reading, ?_⟩
  cases result with
  | error error =>
      obtain ⟨rfl, -⟩ := (Program.run_request_iff (.release stream) ..).mp serving
      exact .unread
  | ok request =>
      dsimp only at serving
      split at serving
      · obtain ⟨rfl, -⟩ := (Program.run_request_iff (.release stream) ..).mp serving
        exact .datagrams ‹_›
      · obtain ⟨front, outcome, last, rfl, connecting, finishing⟩ := (Program.run_bind_iff ..).mp serving
        have asked : request.datagrams = false := by simpa using ‹¬ request.datagrams = true›
        cases outcome with
        | ok _ =>
            obtain ⟨rfl, -⟩ := (Program.run_request_iff (.observe _) ..).mp finishing
            exact .connection none (by simp) asked connecting
        | error error =>
            obtain ⟨rfl, -⟩ := (Program.run_request_iff (.observe _) ..).mp finishing
            exact .connection (some error) (by simp) asked connecting

theorem heard_of_course {info : RequestInfo} {stream : StreamRef} {exchanges : List Exchange}
    {response : StreamResponse} (course : Course info stream exchanges response) :
    heard stream exchanges = [] := by
  have silent : ∀ response, heard stream (answering stream response) = [] := by
    intro response
    simp [heard, answering, List.flatMap_map, Exchange.heard]
  have nothing : heard stream [] = [] := rfl
  cases course <;> simp [heard_cons, silent, Exchange.heard, nothing]

/-- A request for a connection which has been read is answered as far as its answer has a layout. -/
theorem responds_of_run {peer : Net.SocketAddress} {token : Bytes} {stream : StreamRef}
    {exchanges : List Exchange} {request : StreamRequest}
    {reach : Acl.Route → Except Error StreamRef}
    (run : Program.Run (server.handleStream peer token stream) exchanges ())
    (read : StreamRequest.reader.run (heard stream exchanges) = (.ok request, []))
    (connection : request.datagrams = false)
    (delivered : Delivered stream exchanges) (dialed : Dialed reach exchanges) :
    Responds stream exchanges (server.answer request.address reach) := by
  obtain ⟨reads, result, rest, rfl, reading, service⟩ := server.service_of_run run
  have same : heard stream rest = [] → result = .ok request := by
    intro silent
    rw [(Talk.run_read reading).2]
    simpa [silent] using read
  cases service with
  | unread => cases same rfl
  | datagrams asked =>
      cases same rfl
      rw [connection] at asked
      cases asked
  | connection failure told asked connecting =>
      obtain ⟨front, rfl, course⟩ := server.course_of_run connecting
        (delivered.sublist fun exchange member => by simp [member])
        (fun route reply member => dialed route reply (by simp [member]))
      have silent : heard stream [] = [] := rfl
      cases same (by simp [heard_of_course course, heard_cons, Exchange.heard, silent])
      have only := Talk.onlyReads_of_run reading
      rw [List.append_assoc front, ← List.append_assoc]
      exact (responds_of_course course).frame (only.not_asked (by simp [isTransfer]))
        (by simp [isTransfer])

/-- Exactly one whole answer was written to a stream. -/
def AnsweredOnce (stream : StreamRef) (exchanges : List Exchange) : Prop :=
  ∃ response : StreamResponse, ∃ bytes, response.layout = .ok bytes ∧
    messages stream exchanges = [bytes] ∧ (response.accepted = true ↔ Reached exchanges) ∧
      ∀ before near far idle reply after,
        exchanges = before ++ ⟨.relay near far idle, reply⟩ :: after →
          response.accepted = true ∧ near = stream ∧ messages stream before = [bytes]

/-- Nothing was written to a stream, and nothing was relayed. -/
def Unanswered (stream : StreamRef) (exchanges : List Exchange) : Prop :=
  messages stream exchanges = [] ∧
    ∀ exchange ∈ exchanges, ∀ near far idle, exchange.request ≠ .relay near far idle

theorem Responds.answeredOnce {stream : StreamRef} {exchanges : List Exchange}
    {response : StreamResponse} (responds : Responds stream exchanges response) {bytes : Bytes}
    (layout : response.layout = .ok bytes) : AnsweredOnce stream exchanges := by
  have whole : written response = [bytes] := by rw [written, layout]
  refine ⟨response, bytes, layout, by rw [responds.messages, whole], responds.accepted, ?_⟩
  intro before near far idle reply after split
  rw [← whole]
  exact responds.relayed.at_split split near far idle rfl

theorem Responds.unanswered {stream : StreamRef} {exchanges : List Exchange} {message : String}
    (responds : Responds stream exchanges (.refused message)) {error : Error}
    (layout : (StreamResponse.refused message).layout = .error error) :
    Unanswered stream exchanges := by
  have nothing : written (.refused message) = [] := by rw [written, layout]
  refine ⟨by rw [responds.messages, nothing], ?_⟩
  intro exchange member near far idle same
  obtain ⟨before, after, split⟩ := List.append_of_mem member
  obtain ⟨impossible, -, -⟩ := responds.relayed.at_split split near far idle same
  exact Bool.false_ne_true impossible

theorem answer_cases (address : String) (reach : Acl.Route → Except Error StreamRef) :
    server.answer address reach = .granted ∨
      ∃ message, server.answer address reach = .refused message := by
  rw [answer]
  split
  · exact .inr ⟨_, rfl⟩
  · split
    · exact .inr ⟨_, rfl⟩
    · split
      · exact .inr ⟨_, rfl⟩
      · exact .inl rfl

/-- A request for a connection gets exactly one answer, which tells whether the destination was
reached and comes before all relayed bytes, exactly if the text of its answer fits into the answer;
otherwise it gets none, and nothing is relayed. -/
theorem answeredOnce_iff_fits {peer : Net.SocketAddress} {token : Bytes} {stream : StreamRef}
    {exchanges : List Exchange} {request : StreamRequest}
    {reach : Acl.Route → Except Error StreamRef}
    (run : Program.Run (server.handleStream peer token stream) exchanges ())
    (read : StreamRequest.reader.run (heard stream exchanges) = (.ok request, []))
    (connection : request.datagrams = false)
    (delivered : Delivered stream exchanges) (dialed : Dialed reach exchanges) :
    (AnsweredOnce stream exchanges ↔
      (Text.Utf8.encode (server.answer request.address reach).message).length ≤ 0xFFFF) ∧
    (Unanswered stream exchanges ↔
      0xFFFF < (Text.Utf8.encode (server.answer request.address reach).message).length) := by
  have responds := server.responds_of_run run read connection delivered dialed
  have exclusive : AnsweredOnce stream exchanges → ¬ Unanswered stream exchanges := by
    rintro ⟨_, bytes, -, wrote, -⟩ ⟨silent, -⟩
    rw [silent] at wrote
    cases wrote
  rw [← Nat.not_le, ← StreamResponse.layout_eq_ok_iff]
  cases layout : (server.answer request.address reach).layout with
  | ok bytes =>
      have answered := responds.answeredOnce layout
      exact ⟨⟨fun _ => ⟨bytes, rfl⟩, fun _ => answered⟩,
        ⟨fun unanswered => absurd unanswered (exclusive answered), fun none => absurd ⟨bytes, rfl⟩ none⟩⟩
  | error error =>
      have unanswered : Unanswered stream exchanges := by
        rcases server.answer_cases request.address reach with granted | ⟨message, refused⟩
        · rw [granted] at layout
          cases layout
        · rw [refused] at responds layout
          exact responds.unanswered layout
      have unfit : ¬ ∃ bytes, (.error error : Except Error Bytes) = .ok bytes := nofun
      exact ⟨⟨fun answered => absurd unanswered (exclusive answered), fun fits => absurd fits unfit⟩,
        ⟨fun _ => unfit, fun _ => unanswered⟩⟩

/-- A stream whose request is read is served as connecting to the destination goes. -/
theorem exists_serving {peer : Net.SocketAddress} {token : Bytes} {stream : StreamRef} {bytes : Bytes}
    {request : StreamRequest} (read : StreamRequest.reader.run bytes = (.ok request, []))
    (connection : request.datagrams = false) {exchanges : List Exchange} {outcome : Except Error Unit}
    (connecting : Talk.Run (server.connect ⟨peer, some token, request.address⟩ stream) exchanges
      outcome) :
    ∃ (reads : List Exchange) (failure : Option Error), OnlyReads reads ∧ heard stream reads = bytes ∧
      Program.Run (server.handleStream peer token stream) (reads ++ (exchanges ++
        [⟨.observe (.finished ⟨peer, some token, request.address⟩ failure), ()⟩])) () := by
  obtain ⟨reads, sent, reading⟩ := Talk.exists_read stream none read
  refine ⟨reads, match outcome with | .ok () => none | .error error => some error,
    Talk.onlyReads_of_run reading, by simpa using sent,
    (Program.run_bind_iff ..).mpr ⟨reads, _, _, rfl, reading, ?_⟩⟩
  dsimp only
  rw [if_neg (by simp [connection])]
  refine (Program.run_bind_iff ..).mpr ⟨exchanges, outcome, [_], rfl, connecting, ?_⟩
  cases outcome <;> exact .ask trivial (.start _)

/-- A stream whose destination can be reached is connected to it. -/
theorem exists_granted_stream (peer : Net.SocketAddress) (token : Bytes)
    (stream destination : StreamRef) {bytes : Bytes} {request : StreamRequest}
    {target : Net.Address} {route : Acl.Route}
    (read : StreamRequest.reader.run bytes = (.ok request, []))
    (connection : request.datagrams = false)
    (parsed : Net.Address.parse? request.address = some target)
    (routed : (server.dispatcher.decide target).route target = .ok route) :
    ∃ exchanges, Program.Run (server.handleStream peer token stream) exchanges () ∧
      heard stream exchanges = bytes ∧
        (⟨.dial ⟨.direct, route.address⟩, .ok destination⟩ : Exchange) ∈ exchanges ∧
          (⟨.relay stream destination server.idle, .ok ()⟩ : Exchange) ∈ exchanges := by
  let info : RequestInfo := ⟨peer, some token, request.address⟩
  let acting : List Exchange :=
    [⟨.observe (.request info (server.dispatcher.decide target)), ()⟩,
      ⟨.dial ⟨.direct, route.address⟩, .ok destination⟩, ⟨.send stream [1, 0, 0], .ok ()⟩,
      ⟨.relay stream destination server.idle, .ok ()⟩, ⟨.release destination, ()⟩]
  have dialing : Talk.Run (dial (server.dispatcher.decide target) target)
      [⟨.dial ⟨.direct, route.address⟩, .ok destination⟩] (.ok destination) := by
    rw [dial, routed]
    exact .ask trivial (.start _)
  have connecting : Talk.Run (server.connect info stream) (acting ++ [⟨.release stream, ()⟩])
      (.ok ()) := by
    refine (Talk.run_releasing_iff ..).mpr ⟨acting, rfl, ?_⟩
    rw [show Net.Address.parse? info.address = some target from parsed]
    refine (Talk.run_observe_bind_iff ..).mpr ⟨_, rfl, ?_⟩
    refine (Talk.run_attempt_bind_iff ..).mpr ⟨[_], .ok destination, _, rfl, dialing, ?_⟩
    refine (Talk.run_releasing_iff ..).mpr ⟨[_, _], rfl, ?_⟩
    exact .ask trivial (.ask trivial (.start _))
  obtain ⟨reads, failure, -, sent, run⟩ := server.exists_serving read connection connecting
  refine ⟨_, run, ?_, by simp [acting], by simp [acting]⟩
  have silent : heard stream [] = [] := rfl
  simpa [acting, heard_cons, Exchange.heard, silent] using sent

/-- A request for something which is no destination gets its answer. -/
theorem answeredOnce_invalid_address :
    ∃ (server : Server) (stream : StreamRef) (exchanges : List Exchange),
      Program.Run (server.handleStream default [] stream) exchanges () ∧
        AnsweredOnce stream exchanges := by
  let server : Server := { ceiling := {}, dispatcher := .server .none }
  let stream : StreamRef := .shared 0 3
  have invalid : Net.Address.parse? "x" = none := rfl
  have asked : StreamRequest.reader.run [0, 0, 1, 120] = (.ok ⟨false, "x"⟩, []) := by decide +kernel
  obtain ⟨bytes, layout⟩ := (StreamResponse.layout_eq_ok_iff (.refused "invalid address")).mpr
    (by decide +kernel)
  have refusing : Talk.Run (server.connect ⟨default, some [], "x"⟩ stream)
      [⟨.send stream bytes, .ok ()⟩, ⟨.release stream, ()⟩]
      (.error (.invalidAddress "x")) := by
    refine (Talk.run_releasing_iff ..).mpr ⟨[_], rfl, ?_⟩
    dsimp only
    rw [invalid]
    dsimp only [refuse]
    rw [layout]
    exact .ask trivial (.start _)
  obtain ⟨reads, failure, only, sent, run⟩ := server.exists_serving asked rfl refusing
  let rest : List Exchange := [⟨.send stream bytes, .ok ()⟩, ⟨.release stream, ()⟩,
    ⟨.observe (.finished ⟨default, some [], "x"⟩ failure), ()⟩]
  have read : StreamRequest.reader.run (heard stream (reads ++ rest)) = (.ok ⟨false, "x"⟩, []) := by
    rw [heard_append, show heard stream rest = [] from rfl, List.append_nil, sent]
    exact asked
  have delivered : Delivered stream (reads ++ rest) := by
    intro sent reply member
    have last : (stream = stream ∧ sent = bytes) ∧ reply = .ok () := by
      simpa [only.not_mem, rest] using member
    exact last.2
  have dialed : Dialed (fun _ => .error default) (reads ++ rest) := by
    intro route reply member
    simp [only.not_mem, rest] at member
  refine ⟨server, stream, _, run, ?_⟩
  refine (answeredOnce_iff_fits server run read rfl delivered dialed).1.mpr ?_
  rw [answer, invalid]
  decide +kernel

/-- A destination which refuses the connection and whose text fits into the request, but not into the
refusal, is asked for without an answer. -/
theorem exists_unanswered_stream (peer : Net.SocketAddress) (token : Bytes) (stream : StreamRef)
    {target : Net.Address} (parsed : Net.Address.parse? target.text = some target)
    (routed : (server.dispatcher.decide target).route target = .ok ⟨.direct, target⟩)
    (fits : (Text.Utf8.encode target.text).length ≤ 0xFFFF)
    (long : 0xFFFF < (Text.Utf8.encode (Error.connectionRefused target).message).length) :
    ∃ exchanges, Program.Run (server.handleStream peer token stream) exchanges () ∧
      StreamRequest.reader.run (heard stream exchanges) = (.ok (.connection target), []) ∧
        (⟨.dial ⟨.direct, target⟩, .error (.connectionRefused target)⟩ : Exchange) ∈ exchanges ∧
          Unanswered stream exchanges := by
  let info : RequestInfo := ⟨peer, some token, target.text⟩
  let refused : Error := .connectionRefused target
  let acting : List Exchange :=
    [⟨.observe (.request info (server.dispatcher.decide target)), ()⟩,
      ⟨.dial ⟨.direct, target⟩, .error refused⟩]
  obtain ⟨field, written⟩ := (Wire.long_eq_ok_iff _).mpr fits
  have layout := (StreamRequest.layout_eq_ok_iff (.connection target) _).mpr ⟨field, written, rfl⟩
  have asked := StreamRequest.run_layout layout []
  obtain ⟨failure, unfit⟩ : ∃ failure, (StreamResponse.refused (refusal refused)).layout =
      .error failure := by
    cases answer : (StreamResponse.refused (refusal refused)).layout with
    | ok bytes =>
        exact absurd ((StreamResponse.layout_eq_ok_iff _).mp ⟨bytes, answer⟩) (Nat.not_le_of_lt long)
    | error failure => exact ⟨failure, rfl⟩
  have dialing : Talk.Run (dial (server.dispatcher.decide target) target)
      [⟨.dial ⟨.direct, target⟩, .error refused⟩] (.error refused) := by
    rw [dial, routed]
    exact .ask trivial (.start _)
  have connecting : Talk.Run (server.connect info stream) (acting ++ [⟨.release stream, ()⟩])
      (.error refused) := by
    refine (Talk.run_releasing_iff ..).mpr ⟨acting, rfl, ?_⟩
    rw [show Net.Address.parse? info.address = some target from parsed]
    refine (Talk.run_observe_bind_iff ..).mpr ⟨_, rfl, ?_⟩
    refine (Talk.run_attempt_bind_iff ..).mpr ⟨[_], .error refused, [], rfl, dialing, ?_⟩
    dsimp only [refuse]
    rw [unfit]
    exact .start _
  obtain ⟨reads, failure, only, sent, run⟩ := server.exists_serving asked rfl connecting
  let rest : List Exchange :=
    acting ++ [⟨.release stream, ()⟩] ++ [⟨.observe (.finished info failure), ()⟩]
  refine ⟨reads ++ rest, run, ?_, by simp [rest, acting, refused], ?_, ?_⟩
  · rw [heard_append, show heard stream rest = [] from rfl, List.append_nil, sent]
    exact asked
  · rw [messages_append, messages_eq_nil (only.not_asked (by simp [isTransfer]))]
    rfl
  · intro exchange member near far idle relayed
    rcases List.mem_append.mp member with early | late
    · obtain ⟨_, _, _, received⟩ := only exchange early
      rw [received] at relayed
      cases relayed
    · obtain rfl | rfl | rfl | rfl : exchange = _ ∨ exchange = _ ∨ exchange = _ ∨ exchange = _ := by
        simpa [rest, acting] using late
      all_goals cases relayed

/-- The request for a name of 65530 letters is read and the connection is refused, but the text of the
refusal is too long for an answer. -/
theorem unanswered_long_address :
    ∃ (server : Server) (stream : StreamRef) (target : Net.Address) (exchanges : List Exchange),
      target = .domain (String.ofList (List.replicate 65530 'a')) 1 ∧
        Program.Run (server.handleStream default [] stream) exchanges () ∧
          StreamRequest.reader.run (heard stream exchanges) = (.ok (.connection target), []) ∧
            (⟨.dial ⟨.direct, target⟩, .error (.connectionRefused target)⟩ : Exchange) ∈ exchanges ∧
              Unanswered stream exchanges := by
  let server : Server := { ceiling := {}, dispatcher := .server .none }
  let name : String := String.ofList (List.replicate 65530 'a')
  have letters {char : Char} (other : char ≠ 'a') : char ∉ name.toList := by
    rw [String.toList_ofList]
    exact fun member => other (List.eq_of_mem_replicate member)
  have size : (Text.Utf8.encode name).length = 65530 := by
    rw [Text.Utf8.encode, Text.Utf8.length_flatMap_encodeChar, String.toList_ofList,
      Text.Utf8.utf8Len_replicate]
    rfl
  have text_size : (Text.Utf8.encode (Net.Address.domain name 1).text).length = 65532 := by
    have text : (Net.Address.domain name 1).text = name ++ ":" ++ "1" := rfl
    rw [text, Text.Utf8.encode_append, Text.Utf8.encode_append, List.length_append,
      List.length_append, size]
    rfl
  have refusal_size : (Text.Utf8.encode
      (Error.connectionRefused (.domain name 1)).message).length = 65552 := by
    have text : (Error.connectionRefused (.domain name 1)).message =
        "connection refused: " ++ (Net.Address.domain name 1).text := rfl
    rw [text, Text.Utf8.encode_append, List.length_append, text_size]
    rfl
  have parsed : Net.Address.parse? (Net.Address.domain name 1).text = some (.domain name 1) := by
    refine Net.Address.parse?_text_domain 1 ?_ (letters (by decide)) ?_
      (Net.IpAddr.parse?_of_plain (letters (by decide)) (letters (by decide)))
    · intro empty
      rw [empty] at size
      cases size
    · intro opened
      exact letters (by decide) (List.mem_of_mem_head? opened)
  obtain ⟨exchanges, run, read, dialed, unanswered⟩ := exists_unanswered_stream server default []
    (.shared 0 3) parsed rfl (by omega) (by omega)
  exact ⟨server, _, .domain name 1, exchanges, rfl, run, read, dialed, unanswered⟩

end Server
end Tunnel
end TunnelProxy
