import Mathlib.Data.List.Nodup
import TunnelProxy.Proofs.Tunnel.Reconnect

/-!
# The sessions which a tunnel client leaves

Each session which the server gave to a tunnel client is kept, or the client has parted with it.  It
parts with a session by closing it, because the session told that it had been closed, or because no
stream could be opened on it.  A session of the last kind is left as it is: nobody closes it, neither
then nor when the client is given up.
-/

namespace TunnelProxy
namespace Tunnel
namespace Client

variable (client : Client)

/-! ## The sessions which are made -/

/-- The session which an exchange made. -/
def made? : Exchange → Option SessionRef
  | ⟨.connect, (.ok session : Except Error SessionRef)⟩ => some session
  | _ => none

/-- The sessions which were made. -/
def made (exchanges : List Exchange) : List SessionRef :=
  exchanges.filterMap made?

@[simp] theorem made_append (front back : List Exchange) :
    made (front ++ back) = made front ++ made back :=
  List.filterMap_append

@[simp] theorem made_nil : made [] = [] := rfl

theorem made_cons (exchange : Exchange) (exchanges : List Exchange) :
    made (exchange :: exchanges) = (made? exchange).toList ++ made exchanges := by
  rw [made, List.filterMap_cons]
  cases made? exchange <;> rfl

/-- Only who connects makes a session. -/
theorem made_eq_nil {exchanges : List Exchange} (still : requestsOf isTurn exchanges = []) :
    made exchanges = [] := by
  rw [made, List.filterMap_eq_nil_iff]
  rintro ⟨request, reply⟩ member
  have other : ¬ isTurn request := by
    intro turn
    have counted : request ∈ requestsOf isTurn exchanges :=
      List.mem_filter.mpr ⟨List.mem_map.mpr ⟨_, member, rfl⟩, turn⟩
    rw [still] at counted
    cases counted
  cases request with
  | connect => exact absurd rfl other
  | _ => rfl

/-! ## Partings -/

/-- What becomes of a session with which a client parts. -/
inductive Fate where
  /-- The client closes it. -/
  | closed (code : CloseCode)
  /-- It told that it had been closed. -/
  | expired
  /-- No stream could be opened on it.  Nobody closes it. -/
  | stranded (error : Error)

/-- The sessions with which a call parts. -/
structure Parted (call : Call) (outline : Outline) (parted : List (SessionRef × Fate)) : Prop where
  /-- The call goes through one of the courses. -/
  course : client.Course call outline
  /-- The sessions which were kept or made are those with which the call parts and those which are
  kept. -/
  balance : (call.before.toList ++ made call.exchanges).Perm
    (parted.map Prod.fst ++ call.after.toList)
  /-- The call closes those of that fate, and no others. -/
  closes : ∀ session code reason, ⟨.close session code reason, ()⟩ ∈ call.exchanges ↔
    (session, .closed code) ∈ parted ∧ reason = ""
  /-- One which told that it had been closed is parted with once a new one is kept. -/
  expires : ∀ session, (session, .expired) ∈ parted ↔
    call.before = some session ∧ outline.fresh.isSome ∧
      [⟨.isClosed session, true⟩] <+: call.exchanges
  /-- An open one on which no stream could be opened is parted with once a new one is kept.  A new one
  is parted with if no stream can be opened on it after the greetings. -/
  strands : ∀ session error, (session, .stranded error) ∈ parted ↔
    call.before = some session ∧ outline.fresh.isSome ∧
        [⟨.isClosed session, false⟩, ⟨.openStream session, .error error⟩] <+: call.exchanges ∨
      call.exchanges.getLast? = some ⟨.openStream session, .error error⟩
  /-- The server is connected to if no session is kept, or the one which is kept has been closed or
  opens no stream. -/
  connects : (∃ reply, ⟨.connect, reply⟩ ∈ call.exchanges) ↔
    ∃ probing, Unusable call.before probing ∧ probing <+: call.exchanges

/-- What was asked for is a turn if it is of that kind. -/
theorem mem_requestsOf_iff {kind : Request → Bool} {exchanges : List Exchange} {request : Request} :
    request ∈ requestsOf kind exchanges ↔
      kind request ∧ ∃ reply, ⟨request, reply⟩ ∈ exchanges := by
  rw [requestsOf, List.mem_filter, List.mem_map, and_comm]
  refine and_congr_right fun _ => ?_
  constructor
  · rintro ⟨⟨_, reply⟩, member, rfl⟩
    exact ⟨reply, member⟩
  · rintro ⟨reply, member⟩
    exact ⟨_, member, rfl⟩

namespace Course

variable {client : Client} {call : Call} {outline : Outline} (course : client.Course call outline)

include course

theorem connects_iff :
    (∃ reply, ⟨.connect, reply⟩ ∈ call.exchanges) ↔ .connect ∈ outline.turns := by
  rw [← course.requestsOf_eq, mem_requestsOf_iff]
  exact (and_iff_right rfl).symm

theorem closes_iff (session : SessionRef) (code : CloseCode) (reason : String) :
    ⟨.close session code reason, ()⟩ ∈ call.exchanges ↔ .close session code reason ∈ outline.turns := by
  rw [← course.requestsOf_eq, mem_requestsOf_iff]
  constructor
  · intro member
    exact ⟨rfl, _, member⟩
  · rintro ⟨-, _, member⟩
    exact member

end Course

/-- A connection is asked for without opening a stream. -/
theorem Asking.getLast?_ne {target : Net.Address} {stream : StreamRef} {asking : List Exchange}
    {outcome : Except Error StreamRef} (asked : Asking target stream asking outcome)
    (front : List Exchange) (session : SessionRef) (reply : Except Error StreamRef) :
    (front ++ asking).getLast? ≠ some ⟨.openStream session, reply⟩ := by
  have other : asking ≠ [] ∧ ⟨.openStream session, reply⟩ ∉ asking := by
    cases asked with
    | unread _ missed => simp [missed.only.onlyReads.not_mem]
    | refused _ received _ | granted _ received _ => simp [received.only.onlyReads.not_mem]
    | _ => simp
  rw [List.getLast?_append_of_ne_nil _ other.1]
  exact fun last => other.2 (List.mem_of_getLast? last)

theorem Renewal.connects {exchanges : List Exchange} {turns : List Request}
    {outcome : Except Error (StreamRef × SessionRef)}
    (renewal : client.Renewal exchanges turns outcome) : .connect ∈ turns :=
  List.count_pos_iff.mp (renewal.count_connect ▸ Nat.one_pos)

theorem Unusable.connects {before : Option SessionRef} {probing : List Exchange}
    (unusable : Unusable before probing) (rest : List Exchange) :
    ∃ shown, Unusable before shown ∧ shown <+: probing ++ rest :=
  ⟨probing, unusable, List.prefix_append ..⟩

/-- A stream is opened on the session which is kept, and the client parts with none. -/
theorem parted_of_reused (session : SessionRef) {target : Net.Address} {stream : StreamRef}
    {asking : List Exchange} {outcome : Except Error StreamRef}
    (asked : Asking target stream asking outcome) :
    client.Parted ⟨some session, target,
      ⟨.isClosed session, false⟩ :: ⟨.openStream session, .ok stream⟩ :: asking, outcome,
      some session⟩ ⟨[], none, some (stream, asking)⟩ [] := by
  have course : client.Course _ _ := .reused session asked
  refine ⟨course, ?_, fun _ _ _ => ?_, fun _ => ?_, fun _ _ => ?_, ?_⟩
  · simp [made_cons, made?, made_eq_nil asked.requestsOf_eq]
  · simp [course.closes_iff]
  · simp
  · have last := asked.getLast?_ne
      [⟨.isClosed session, false⟩, ⟨.openStream session, .ok stream⟩]
    simpa using last _ _
  · rw [course.connects_iff]
    refine iff_of_false nofun ?_
    rintro ⟨probing, unusable, front⟩
    cases unusable <;> simp at front

/-- No stream is opened, and the client parts with the new session if there is one. -/
theorem parted_of_failed {before : Option SessionRef} (target : Net.Address)
    {probing renewing : List Exchange} {turns : List Request} {error : Error}
    (unusable : Unusable before probing) (renewal : client.Renewal renewing turns (.error error)) :
    ∃ parted, client.Parted ⟨before, target, probing ++ renewing, .error error, before⟩
      ⟨turns, none, none⟩ parted := by
  have course : client.Course ⟨before, target, _, _, _⟩ _ := .failed unusable renewal
  have quiet := made_eq_nil unusable.requestsOf_eq
  have connects := iff_of_true (course.connects_iff.mpr renewal.connects)
    (unusable.connects renewing)
  cases renewal with
  | unconnected error =>
      refine ⟨[], course, ?_, fun _ _ _ => ?_, fun _ => ?_, fun _ _ => ?_, connects⟩
      · simp [made_cons, made?, quiet]
      · rw [course.closes_iff]
        simp
      · simp
      · simp
  | @ungreeted session greetings error code greeting dismissal =>
      refine ⟨[(session, .closed code)], course, ?_, fun _ _ _ => ?_, fun _ => ?_, fun _ _ => ?_,
        connects⟩
      · simp [made_cons, made?, quiet, made_eq_nil greeting.requestsOf_eq]
      · rw [course.closes_iff]
        simp [and_assoc]
      · simp
      · rw [← List.append_assoc, List.getLast?_concat]
        simp
  | @unopened session greetings greeting error =>
      refine ⟨[(session, .stranded error)], course, ?_, fun _ _ _ => ?_, fun _ => ?_,
        fun _ _ => ?_, connects⟩
      · simp [made_cons, made?, quiet, made_eq_nil greeting.requestsOf_eq]
      · rw [course.closes_iff]
        simp
      · simp
      · rw [← List.append_assoc, List.getLast?_concat]
        simp [eq_comm]

/-- A stream is opened on a new session, and the client parts with the one which was kept. -/
theorem parted_of_renewed {before : Option SessionRef} {target : Net.Address}
    {probing renewing asking : List Exchange} {turns : List Request} {stream : StreamRef}
    {session : SessionRef} {outcome : Except Error StreamRef} (unusable : Unusable before probing)
    (renewal : client.Renewal renewing turns (.ok (stream, session)))
    (asked : Asking target stream asking outcome) :
    ∃ parted, client.Parted ⟨before, target, probing ++ renewing ++ asking, outcome, some session⟩
      ⟨turns, some session, some (stream, asking)⟩ parted := by
  have course : client.Course _ _ := .renewed unusable renewal asked
  have last := asked.getLast?_ne (probing ++ renewing)
  have connects := iff_of_true (course.connects_iff.mpr renewal.connects)
    (List.append_assoc probing .. ▸ unusable.connects (renewing ++ asking))
  obtain ⟨greetings, greeting, rfl, rfl⟩ : ∃ greetings, client.Greeting session greetings (.ok ()) ∧
      renewing = ⟨.connect, .ok session⟩ :: greetings ++ [⟨.openStream session, .ok stream⟩] ∧
      turns = [.connect] := by
    cases renewal with
    | opened _ greeting _ => exact ⟨_, greeting, rfl, rfl⟩
  have only : made (probing ++ (⟨.connect, .ok session⟩ :: greetings ++
      [⟨.openStream session, .ok stream⟩]) ++ asking) = [session] := by
    simp [made_cons, made?, made_eq_nil unusable.requestsOf_eq, made_eq_nil greeting.requestsOf_eq,
      made_eq_nil asked.requestsOf_eq]
  cases unusable with
  | absent =>
      refine ⟨[], course, ?_, fun _ _ _ => ?_, fun _ => ?_, fun _ _ => ?_, connects⟩
      · simp only [only]
        simp
      · rw [course.closes_iff]
        simp
      · simp
      · rw [or_iff_left (last _ _)]
        simp
  | closed old =>
      refine ⟨[(old, .expired)], course, ?_, fun _ _ _ => ?_, fun _ => ?_, fun _ _ => ?_, connects⟩
      · simp only [only]
        simp
      · rw [course.closes_iff]
        simp
      · simp [eq_comm]
      · rw [or_iff_left (last _ _)]
        simp
  | refusing old error =>
      refine ⟨[(old, .stranded error)], course, ?_, fun _ _ _ => ?_, fun _ => ?_, fun _ _ => ?_,
        connects⟩
      · simp only [only]
        simp
      · rw [course.closes_iff]
        simp
      · simp
      · rw [or_iff_left (last _ _)]
        simp [eq_comm]

/-- Whatever course a call takes, it parts with a session in one of the three ways or with none. -/
theorem parted_of_course {call : Call} {outline : Outline} (course : client.Course call outline) :
    ∃ parted, client.Parted call outline parted := by
  cases course with
  | reused session asked => exact ⟨[], client.parted_of_reused session asked⟩
  | failed unusable renewal => exact client.parted_of_failed _ unusable renewal
  | renewed unusable renewal asked => exact client.parted_of_renewed unusable renewal asked

/-! ## The life of a client -/

/-- How a client comes about. -/
inductive Begins : List Exchange → Option SessionRef → Prop
  /-- It keeps no session yet. -/
  | empty : Begins [] none
  /-- It makes a session at once. -/
  | connected {exchanges : List Exchange} {session : SessionRef}
      (run : Talk.Run client.establish exchanges (.ok session)) : Begins exchanges (some session)

/-- All that a client does. -/
structure Life where
  /-- What is done for it to come about. -/
  beginning : List Exchange
  /-- The session which is kept at first. -/
  first : Option SessionRef
  /-- The calls. -/
  calls : List Call
  /-- The session which is kept in the end. -/
  last : Option SessionRef
  /-- What is done when the client is given up. -/
  ending : List Exchange

/-- What has been done after some of the calls. -/
def Life.past (life : Life) (count : Nat) : List Exchange :=
  life.beginning ++ (life.calls.take count).flatMap Call.exchanges

/-- The session which is kept after some of the calls. -/
def Life.kept (life : Life) (count : Nat) : Option SessionRef :=
  (life.calls.take count).foldl (fun _ call => call.after) life.first

/-- All that was done. -/
def Life.deeds (life : Life) : List Exchange :=
  life.past life.calls.length ++ life.ending

/-- A client can do so. -/
structure Lives (life : Life) : Prop where
  /-- It comes about in one of the ways. -/
  begins : client.Begins life.beginning life.first
  /-- The calls follow upon each other. -/
  calls : client.Calls life.first life.calls life.last
  /-- It is given up with the session which is kept then. -/
  ends : Program.Run (finish life.last) life.ending ()

/-- A session has told that it had been closed, or the client has closed it. -/
def Over (session : SessionRef) (deeds : List Exchange) : Prop :=
  ⟨.isClosed session, true⟩ ∈ deeds ∨ ∃ code reason, ⟨.close session code reason, ()⟩ ∈ deeds

/-- What becomes of each session of a client. -/
structure Accounted (life : Life) (partings : List (List (SessionRef × Fate))) : Prop where
  /-- The client parts with sessions in its calls, and not otherwise. -/
  calls : List.Forall₂ (fun call parted => ∃ outline, client.Parted call outline parted)
    life.calls partings
  /-- Between calls, the sessions which were made are those with which it has parted and the one which
  it keeps. -/
  between : ∀ count, (made (life.past count)).Perm
    ((partings.take count).flatten.map Prod.fst ++ (life.kept count).toList)
  /-- Each of them is over unless it is kept or has been stranded. -/
  ended : ∀ count, ∀ session ∈ made (life.past count), life.kept count = some session ∨
    Over session (life.past count) ∨
      ∃ error, (session, .stranded error) ∈ (partings.take count).flatten
  /-- It closes the sessions which it parts with by closing, and the one which it keeps in the end. -/
  closes : ∀ session code reason, ⟨.close session code reason, ()⟩ ∈ life.deeds ↔
    ((session, .closed code) ∈ partings.flatten ∨ life.last = some session ∧ code = .generic) ∧
      reason = ""
  /-- In the end each session is over unless it has been stranded. -/
  finished : ∀ session ∈ made life.deeds, Over session life.deeds ∨
    ∃ error, (session, .stranded error) ∈ partings.flatten
  /-- A session which has been stranded is never closed by the client. -/
  abandoned : (made life.deeds).Nodup → ∀ session error,
    (session, .stranded error) ∈ partings.flatten →
      ∀ code reason, ⟨.close session code reason, ()⟩ ∉ life.deeds

variable {client}

theorem Begins.made_eq {exchanges : List Exchange} {first : Option SessionRef}
    (begins : client.Begins exchanges first) : made exchanges = first.toList := by
  cases begins with
  | empty => rfl
  | connected run =>
      rcases client.establish_cases run with ⟨_, greetings, greeting, rfl, same⟩ | ⟨_, _, _, same⟩
      · cases same
        simp [made_cons, made?, made_eq_nil greeting.requestsOf_eq]
      · cases same

theorem Begins.not_close {exchanges : List Exchange} {first : Option SessionRef}
    (begins : client.Begins exchanges first) (session : SessionRef) (code : CloseCode)
    (reason : String) : ⟨.close session code reason, ()⟩ ∉ exchanges := by
  cases begins with
  | empty => simp
  | connected run =>
      rcases client.establish_cases run with ⟨_, greetings, greeting, rfl, same⟩ | ⟨_, _, _, same⟩
      · intro member
        have turn : .close session code reason ∈ requestsOf isTurn (⟨.connect, .ok _⟩ :: greetings) :=
          mem_requestsOf_iff.mpr ⟨rfl, _, member⟩
        simp [greeting.requestsOf_eq, isTurn] at turn
      · cases same

theorem run_finish_iff (kept : Option SessionRef) (exchanges : List Exchange) :
    Program.Run (finish kept) exchanges () ↔
      exchanges = kept.toList.map fun session => ⟨.close session .generic "", ()⟩ := by
  cases kept with
  | none => simp [finish, Program.run_done_iff]
  | some session =>
      rw [finish, Program.run_request_iff (.close ..)]
      simp [Exchange.Admissible]

namespace Calls

variable {first last : Option SessionRef} {calls : List Call}

theorem foldl_eq (run : client.Calls first calls last) :
    calls.foldl (fun _ call => call.after) first = last := by
  induction run with
  | none kept => rfl
  | next call _ _ ih => exact ih

theorem take (run : client.Calls first calls last) (count : Nat) :
    client.Calls first (calls.take count)
      ((calls.take count).foldl (fun _ call => call.after) first) := by
  induction run generalizing count with
  | none kept => cases count <;> exact .none kept
  | next call makes _ ih =>
      cases count with
      | zero => exact .none _
      | succ count => exact .next call makes (ih count)

/-- Each call parts with sessions. -/
theorem exists_partings (run : client.Calls first calls last) : ∃ partings,
    List.Forall₂ (fun call parted => ∃ outline, client.Parted call outline parted) calls partings := by
  induction run with
  | none kept => exact ⟨[], .nil⟩
  | next call makes _ ih =>
      obtain ⟨outline, course, -⟩ := client.course_of_run makes
      obtain ⟨parted, here⟩ := client.parted_of_course course
      obtain ⟨partings, later⟩ := ih
      exact ⟨parted :: partings, .cons ⟨outline, here⟩ later⟩

/-- No session gets lost in calls. -/
theorem balance (run : client.Calls first calls last) {partings : List (List (SessionRef × Fate))}
    (parts : List.Forall₂ (fun call parted => ∃ outline, client.Parted call outline parted)
      calls partings) :
    (first.toList ++ made (calls.flatMap Call.exchanges)).Perm
      (partings.flatten.map Prod.fst ++ last.toList) := by
  induction run generalizing partings with
  | none kept =>
      cases parts
      simp
  | @next call calls last makes later ih =>
      obtain ⟨parted, partings, ⟨outline, here⟩, rest, rfl⟩ := List.forall₂_cons_left_iff.mp parts
      rw [List.flatMap_cons, made_append, List.flatten_cons, List.map_append]
      calc call.before.toList ++ (made call.exchanges ++ made (calls.flatMap Call.exchanges))
        _ = call.before.toList ++ made call.exchanges ++ made (calls.flatMap Call.exchanges) :=
            (List.append_assoc ..).symm
        List.Perm _ (parted.map Prod.fst ++ call.after.toList ++
            made (calls.flatMap Call.exchanges)) := here.balance.append_right _
        _ = parted.map Prod.fst ++ (call.after.toList ++ made (calls.flatMap Call.exchanges)) :=
            List.append_assoc ..
        List.Perm _ (parted.map Prod.fst ++ (partings.flatten.map Prod.fst ++ last.toList)) :=
            (ih rest).append_left _
        _ = parted.map Prod.fst ++ partings.flatten.map Prod.fst ++ last.toList :=
            (List.append_assoc ..).symm

end Calls

/-- A parting belongs to one of the calls. -/
theorem exists_parted {calls : List Call} {partings : List (List (SessionRef × Fate))}
    (parts : List.Forall₂ (fun call parted => ∃ outline, client.Parted call outline parted)
      calls partings) {parting : SessionRef × Fate} (member : parting ∈ partings.flatten) :
    ∃ call ∈ calls, ∃ outline parted, client.Parted call outline parted ∧ parting ∈ parted := by
  induction parts with
  | nil => cases member
  | @cons call parted calls partings here _ ih =>
      obtain ⟨outline, here⟩ := here
      rcases List.mem_append.mp member with now | later
      · exact ⟨call, List.mem_cons_self, outline, parted, here, now⟩
      · obtain ⟨other, called, rest⟩ := ih later
        exact ⟨other, List.mem_cons_of_mem _ called, rest⟩

/-- Calls close the sessions which they part with by closing. -/
theorem closes_iff_of_parts {calls : List Call} {partings : List (List (SessionRef × Fate))}
    (parts : List.Forall₂ (fun call parted => ∃ outline, client.Parted call outline parted)
      calls partings) (session : SessionRef) (code : CloseCode) (reason : String) :
    ⟨.close session code reason, ()⟩ ∈ calls.flatMap Call.exchanges ↔
      (session, .closed code) ∈ partings.flatten ∧ reason = "" := by
  induction parts with
  | nil => simp
  | cons here _ ih =>
      obtain ⟨outline, here⟩ := here
      rw [List.flatMap_cons, List.mem_append, ih, here.closes, List.flatten_cons, List.mem_append,
        or_and_right]

namespace Lives

variable {life : Life} {partings : List (List (SessionRef × Fate))} (lives : client.Lives life)
  (parts : List.Forall₂ (fun call parted => ∃ outline, client.Parted call outline parted)
    life.calls partings)

include lives

theorem kept_length : life.kept life.calls.length = life.last := by
  rw [Life.kept, List.take_length, lives.calls.foldl_eq]

theorem made_deeds : made life.deeds = made (life.past life.calls.length) := by
  have still : made life.ending = [] := by
    rw [(run_finish_iff ..).mp lives.ends]
    cases life.last <;> rfl
  rw [Life.deeds, made_append, still, List.append_nil]

include parts

theorem between (count : Nat) : (made (life.past count)).Perm
    ((partings.take count).flatten.map Prod.fst ++ (life.kept count).toList) := by
  rw [Life.past, made_append, lives.begins.made_eq]
  exact (lives.calls.take count).balance (List.forall₂_take count parts)

theorem ended (count : Nat) {session : SessionRef} (member : session ∈ made (life.past count)) :
    life.kept count = some session ∨ Over session (life.past count) ∨
      ∃ error, (session, .stranded error) ∈ (partings.take count).flatten := by
  have early := List.forall₂_take count parts
  rcases List.mem_append.mp ((lives.between parts count).mem_iff.mp member) with gone | kept
  swap
  · exact .inl (by simpa using kept)
  obtain ⟨⟨_, fate⟩, parted, rfl⟩ := List.mem_map.mp gone
  cases fate with
  | closed code =>
      have closed := (closes_iff_of_parts early ..).mpr ⟨parted, rfl⟩
      exact .inr (.inl (.inr ⟨code, "", List.mem_append_right _ closed⟩))
  | expired =>
      obtain ⟨call, called, _, _, here, there⟩ := exists_parted early parted
      obtain ⟨-, -, told⟩ := (here.expires _).mp there
      have shown := List.mem_flatMap.mpr ⟨call, called, told.subset List.mem_cons_self⟩
      exact .inr (.inl (.inl (List.mem_append_right _ shown)))
  | stranded error => exact .inr (.inr ⟨error, parted⟩)

theorem closes_iff (session : SessionRef) (code : CloseCode) (reason : String) :
    ⟨.close session code reason, ()⟩ ∈ life.deeds ↔
      ((session, .closed code) ∈ partings.flatten ∨ life.last = some session ∧ code = .generic) ∧
        reason = "" := by
  rw [Life.deeds, Life.past, List.take_length, List.mem_append, List.mem_append,
    closes_iff_of_parts parts, (run_finish_iff ..).mp lives.ends,
    or_iff_right (lives.begins.not_close session code reason), or_and_right]
  refine or_congr_right ?_
  cases life.last with
  | none => simp
  | some kept => simp [eq_comm, and_assoc]

theorem finished {session : SessionRef} (member : session ∈ made life.deeds) :
    Over session life.deeds ∨ ∃ error, (session, .stranded error) ∈ partings.flatten := by
  rw [lives.made_deeds] at member
  rcases lives.ended parts _ member with kept | (told | ⟨code, reason, closed⟩) | ⟨error, stranded⟩
  · rw [lives.kept_length] at kept
    exact .inl (.inr ⟨.generic, "", (lives.closes_iff parts ..).mpr ⟨.inr ⟨kept, rfl⟩, rfl⟩⟩)
  · exact .inl (.inl (List.mem_append_left _ told))
  · exact .inl (.inr ⟨code, reason, List.mem_append_left _ closed⟩)
  · rw [parts.length_eq, List.take_length] at stranded
    exact .inr ⟨error, stranded⟩

theorem abandoned (distinct : (made life.deeds).Nodup) {session : SessionRef} {error : Error}
    (stranded : (session, .stranded error) ∈ partings.flatten) (code : CloseCode) (reason : String) :
    ⟨.close session code reason, ()⟩ ∉ life.deeds := by
  have whole := lives.between parts life.calls.length
  rw [← lives.made_deeds, parts.length_eq, List.take_length, ← parts.length_eq, lives.kept_length]
    at whole
  obtain ⟨once, -, apart⟩ := List.nodup_append'.mp (whole.nodup_iff.mp distinct)
  intro member
  obtain ⟨closed | ⟨last, -⟩, -⟩ := (lives.closes_iff parts ..).mp member
  · -- A session with one fate has no other.
    cases List.inj_on_of_nodup_map once stranded closed rfl
  · exact apart (List.mem_map_of_mem stranded) (by simp [last])

end Lives

/-- Whatever the network, the sessions and the server do, a client has closed each session in the end
or been told that it had been closed, unless no stream could be opened on it while it was open.  Such a
session is parted with once another one is kept, or as soon as it was greeted on, and nobody closes
it. -/
theorem accounted_of_lives {life : Life} (lives : client.Lives life) :
    ∃ partings, client.Accounted life partings := by
  obtain ⟨partings, parts⟩ := lives.calls.exists_partings
  exact ⟨partings, parts, lives.between parts, fun count _ member => lives.ended parts count member,
    lives.closes_iff parts, fun _ member => lives.finished parts member,
    fun distinct _ _ stranded => lives.abandoned parts distinct stranded⟩

/-- A session on which the second stream can not be opened is replaced, and left open. -/
theorem accounted_of_stranded_session :
    let client : Client := ⟨⟨1, 1⟩, []⟩
    let target : Net.Address := .domain "a" 80
    let number : Bytes := [0, 0, 0, 0, 0, 0, 0, 1]
    let opening (session : SessionRef) (control stream : StreamRef) : List Exchange :=
      ⟨.connect, .ok session⟩ :: introducing session control (1 :: number ++ number ++ [0, 0]) ++
        [⟨.receive control 1 none, .ok [1]⟩, ⟨.receive control 8 none, .ok number⟩,
          ⟨.receive control 8 none, .ok number⟩, ⟨.receive control 2 none, .ok [0, 0]⟩,
          ⟨.receive control 0 none, .ok []⟩, ⟨.pace session 1, .ok ()⟩, ⟨.release control, ()⟩,
          ⟨.openStream session, .ok stream⟩, ⟨.send stream [0, 0, 4, 97, 58, 56, 48], .ok ()⟩,
          ⟨.receive stream 1 none, .ok [1]⟩, ⟨.receive stream 2 none, .ok [0, 0]⟩,
          ⟨.receive stream 0 none, .ok []⟩]
    let early : Call := ⟨none, target, opening ⟨0⟩ (.shared 0 1) (.shared 0 3), .ok (.shared 0 3),
      some ⟨0⟩⟩
    let late : Call := ⟨some ⟨0⟩, target, ⟨.isClosed ⟨0⟩, false⟩ ::
      ⟨.openStream ⟨0⟩, .error (.io .truncated)⟩ :: opening ⟨1⟩ (.shared 1 1) (.shared 1 3),
      .ok (.shared 1 3), some ⟨1⟩⟩
    let life : Life := ⟨[], none, [early, late], some ⟨1⟩, [⟨.close ⟨1⟩ .generic "", ()⟩]⟩
    client.Lives life ∧ made life.deeds = [⟨0⟩, ⟨1⟩] ∧ ¬ Over ⟨0⟩ life.deeds ∧
      ∃ partings, client.Accounted life partings := by
  intro client target number opening early late life
  have lives : client.Lives life := by
    refine ⟨.empty, .next early (Program.run_of_replay? ?_) (.next late (Program.run_of_replay? ?_)
      (.none _)), Program.run_of_replay? ?_⟩
    all_goals decide +kernel
  refine ⟨lives, rfl, ?_, accounted_of_lives lives⟩
  simp [Over, life, early, late, opening, Life.deeds, Life.past, introducing]

end Client
end Tunnel
end TunnelProxy
