import Mathlib.Data.List.Permutation
import TunnelProxy.Proofs.Service.Run

/-!
# The table of sessions

The guard of a session tells the loop its number when the handler has ended.  Numbers are drawn anew for
each session and may come again, and a guard may tell its number before the session is in the table.
Since the queue keeps its order, the loop nevertheless finds the session which told it, and never has to
wait for one.
-/

namespace TunnelProxy
namespace Service

/-! ## What the guards have told -/

/-- The session the guard of which told the loop, if one did. -/
def Event.ender? : Event → Option Nat
  | ended place _ => some place
  | _ => none

/-- Whether the loop listened to a guard. -/
def Event.isHearing : Event → Bool
  | moved (some (.disconnect _)) _ => true
  | _ => false

/-- The sessions which have ended, in order. -/
def enders (log : List Event) : List Nat :=
  log.filterMap Event.ender?

/-- How many guards the loop has listened to. -/
def hearings (log : List Event) : Nat :=
  log.countP Event.isHearing

/-- The sessions the ends of which the loop has processed. -/
def processed (log : List Event) : List Nat :=
  (enders log).take (hearings log)

/-- The number which a guard tells. -/
def Command.told? : Command → Option UInt32
  | disconnect id => some id
  | _ => none

/-- The numbers which guards have told and which the loop has not taken. -/
def told (service : Service) : List UInt32 :=
  service.queue.filterMap Command.told?

theorem told_post (service : Service) (command : Command) :
    (service.post command).told = service.told ++ command.told?.toList := by
  rw [told, post, List.filterMap_append, List.filterMap_cons, List.filterMap_nil]
  cases command <;> rfl

theorem told_of_cons {service : Service} {command : Command} {queue : List Command}
    (next : service.queue = command :: queue) :
    service.told = command.told?.toList ++ Service.told { service with queue } := by
  rw [told, next, List.filterMap_cons]
  cases command <;> rfl

theorem next?_of_serving {service : Service} {command : Command} {queue : List Command}
    (serves : service.stage = .serving) (next : service.queue = command :: queue) :
    service.next? = some command := by
  rw [next?, serves, next]
  rfl

/-- Only guards tell the loop that sessions have ended. -/
def Guarded (log : List Event) : Prop :=
  ∀ id, .sent (.disconnect id) ∉ log

/-- There is a thread for each session. -/
def Threaded (log : List Event) : Prop :=
  ∀ connection peer choice, .moved (some (.connect connection peer)) choice ∈ log →
    choice.launch ≠ .threadless

@[simp] theorem enders_concat (log : List Event) (event : Event) :
    enders (log ++ [event]) = enders log ++ event.ender?.toList := by
  rw [enders, List.filterMap_append, List.filterMap_cons, List.filterMap_nil]
  cases event.ender? <;> rfl

@[simp] theorem hearings_concat (log : List Event) (event : Event) :
    hearings (log ++ [event]) = hearings log + event.isHearing.toNat := by
  rw [hearings, List.countP_append, List.countP_singleton]
  cases event.isHearing <;> rfl

/-- The session at a place has ended. -/
def HasEnded (service : Service) (place : Nat) : Prop :=
  ∃ session, service.started[place]? = some session ∧ session.ending.isSome

/-- The log of a service and its state agree about the sessions which have ended. -/
structure Traced (log : List Event) (service : Service) : Prop where
  /-- Each session ends once. -/
  once : (enders log).Nodup
  /-- The sessions which have ended are those the guards of which told the loop. -/
  ended_iff : ∀ place, place ∈ enders log ↔ service.HasEnded place
  /-- The loop listens to no more guards than told it something. -/
  few : hearings log ≤ (enders log).length
  /-- What waits in the queue are the numbers of the others, in order. -/
  waiting : List.Forall₂ service.Names service.told ((enders log).drop (hearings log))
  /-- As long as sessions are started, those are listed the ends of which have not been processed. -/
  listed : service.stage.isOpen = true → ∀ place,
    place ∈ service.listed.map Prod.snd ↔ place < service.started.size ∧ place ∉ processed log
  /-- Afterwards they have been interrupted, and the others have not. -/
  interrupted : service.stage.isOpen = false → ∀ place session,
    service.started[place]? = some session →
      session.interrupts = if place ∈ processed log then 0 else 1

/-- Sessions keep their numbers and their ends if each one is changed in something else. -/
theorem names_of_update {before after : Service} (change : Nat → Started → Started)
    (started : ∀ place, after.started[place]? = before.started[place]?.map (change place))
    (id : ∀ place session, (change place session).id = session.id) {name : UInt32} {place : Nat}
    (named : before.Names name place) : after.Names name place := by
  obtain ⟨session, there, same⟩ := named
  exact ⟨change place session, by rw [started, there, Option.map_some], (id ..).trans same⟩

theorem hasEnded_iff_of_update {before after : Service} (change : Nat → Started → Started)
    (started : ∀ place, after.started[place]? = before.started[place]?.map (change place))
    (ending : ∀ place session, (change place session).ending = session.ending) (place : Nat) :
    after.HasEnded place ↔ before.HasEnded place := by
  simp only [HasEnded, started, Option.map_eq_some_iff]
  constructor
  · rintro ⟨_, ⟨session, there, rfl⟩, ended⟩
    exact ⟨session, there, ending place session ▸ ended⟩
  · rintro ⟨session, there, ended⟩
    exact ⟨_, ⟨session, there, rfl⟩, (ending place session).symm ▸ ended⟩

section Collected

variable {service : Service} {place : Nat} {session : Started}
  (found : service.started[place]? = some session) (id : UInt32)

include found

theorem names_of_collected {name : UInt32} {other : Nat} (named : service.Names name other) :
    (service.collected id place session).Names name other :=
  names_of_update _ (started_collected found id)
    (Started.of_changedAt Started.id Started.collect (fun _ => rfl) place) named

theorem hasEnded_collected_iff (other : Nat) :
    (service.collected id place session).HasEnded other ↔ service.HasEnded other :=
  hasEnded_iff_of_update _ (started_collected found id)
    (Started.of_changedAt Started.ending Started.collect (fun _ => rfl) place) other

end Collected

namespace Traced

variable {log : List Event} {before after : Service} {event : Event} (traced : Traced log before)

include traced

theorem lt_size {place : Nat} (member : place ∈ enders log) : place < before.started.size := by
  obtain ⟨session, there, -⟩ := (traced.ended_iff place).mp member
  exact (Array.getElem?_eq_some_iff.mp there).1

/-- What no guard does and the loop does not hear of leaves the trace alone. -/
theorem still (mute : event.ender? = none) (deaf : event.isHearing = false)
    (told : after.told = before.told)
    (names : ∀ id place, before.Names id place → after.Names id place)
    (endings : ∀ place, after.HasEnded place ↔ before.HasEnded place)
    (listed : after.stage.isOpen = true → ∀ place,
      place ∈ after.listed.map Prod.snd ↔ place < after.started.size ∧ place ∉ processed log)
    (interrupted : after.stage.isOpen = false → ∀ place session,
      after.started[place]? = some session →
        session.interrupts = if place ∈ processed log then 0 else 1) :
    Traced (log ++ [event]) after := by
  have ends : enders (log ++ [event]) = enders log := by simp [mute]
  have hears : hearings (log ++ [event]) = hearings log := by simp [deaf]
  have same : processed (log ++ [event]) = processed log := by rw [processed, ends, hears, processed]
  refine ⟨ends ▸ traced.once, fun place => ?_, ends ▸ hears ▸ traced.few, ?_, same ▸ listed,
    same ▸ interrupted⟩
  · rw [ends, traced.ended_iff, endings]
  · rw [ends, hears, told]
    exact traced.waiting.imp names

/-- What does not touch the sessions and tells no numbers leaves the trace alone. -/
theorem congr (mute : event.ender? = none) (deaf : event.isHearing = false)
    (told : after.told = before.told) (table : after.table = before.table)
    (started : after.started = before.started) (stage : after.stage = before.stage) :
    Traced (log ++ [event]) after := by
  have same : after.listed = before.listed := by rw [Service.listed, Service.listed, table, stage]
  refine traced.still mute deaf told (fun id place named => ?_) (fun place => ?_) ?_ ?_
  · rwa [Names, started]
  · rw [HasEnded, HasEnded, started]
  · rw [same, started, stage]
    exact traced.listed
  · rw [started, stage]
    exact traced.interrupted

theorem finish {place : Nat} {session : Started} (running : before.started[place]? = some session)
    (live : session.ending = none) (ending : Ending) :
    Traced (log ++ [.ended place ending]) (before.finish place ending) := by
  have fresh : place ∉ enders log := by
    intro member
    obtain ⟨other, there, ended⟩ := (traced.ended_iff place).mp member
    obtain rfl := Option.some.inj (running.symm.trans there)
    simp [live] at ended
  have ends : enders (log ++ [.ended place ending]) = enders log ++ [place] := enders_concat ..
  have hears : hearings (log ++ [.ended place ending]) = hearings log := hearings_concat ..
  have same : processed (log ++ [.ended place ending]) = processed log := by
    rw [processed, ends, hears, List.take_append_of_le_length traced.few, processed]
  have started (other : Nat) : (before.finish place ending).started[other]? =
      before.started[other]?.map (Started.changedAt place (.finished ending) other) := by
    rw [finish_eq running live]
    exact getElem?_replaced running (.finished ending) other
  have names (id : UInt32) (other : Nat) (named : before.Names id other) :
      (before.finish place ending).Names id other :=
    names_of_update _ started
      (Started.of_changedAt Started.id (.finished ending) (fun _ => rfl) place) named
  have listed : (before.finish place ending).listed = before.listed := by
    rw [finish_eq running live]
    rfl
  have stage : (before.finish place ending).stage = before.stage := by
    rw [finish_eq running live]
    rfl
  have size : (before.finish place ending).started.size = before.started.size := by
    rw [finish_eq running live]
    exact Array.size_setIfInBounds
  have told : (before.finish place ending).told = before.told ++ [session.id] := by
    rw [finish_eq running live, told_post]
    rfl
  refine ⟨?_, fun other => ?_, ?_, ?_, ?_, ?_⟩
  · rw [ends]
    exact traced.once.append (List.nodup_singleton _) (by simpa using fresh)
  · rw [ends, List.mem_append, List.mem_singleton, traced.ended_iff, HasEnded, HasEnded, started]
    by_cases same : other = place
    · subst same
      simp [running, Started.changedAt, Started.finished]
    · simp [same, Started.changedAt]
  · rw [ends, hears, List.length_append]
    exact Nat.le_add_right_of_le traced.few
  · rw [ends, hears, List.drop_append_of_le_length traced.few, told]
    exact List.rel_append (traced.waiting.imp names) (.cons (names _ _ ⟨session, running, rfl⟩) .nil)
  · rw [same, listed, stage, size]
    exact traced.listed
  · rw [same, stage]
    intro closed other changed found
    rw [started] at found
    obtain ⟨old, there, rfl⟩ := Option.map_eq_some_iff.mp found
    rw [Started.of_changedAt Started.interrupts (.finished ending) fun _ => rfl]
    exact traced.interrupted closed other old there

theorem terminate (sound : before.Sound) (serves : before.stage = .serving) {queue : List Command}
    (next : before.queue = .terminate :: queue) (choice : Choice) :
    Traced (log ++ [.moved (some .terminate) choice])
      { before with queue, acceptorTold := true, stage := .terminating }.interruptAll := by
  have settled : before.listed = before.table := listed_of_not_entering (by simp [serves])
  let change (place : Nat) (session : Started) : Started :=
    { session with interrupts := session.interrupts + (before.table.map Prod.snd).count place }
  have started (place : Nat) := started_interruptAll
    { before with queue, acceptorTold := true, stage := .terminating } place
  refine traced.still rfl rfl ?_ (fun _ _ => names_of_update change started fun _ _ => rfl)
    (hasEnded_iff_of_update change started fun _ _ => rfl) nofun fun _ place changed found => ?_
  · exact (told_of_cons next).symm
  · rw [started] at found
    obtain ⟨session, there, rfl⟩ := Option.map_eq_some_iff.mp found
    have spared := (sound.standing place session there).spared (by rw [serves]; rfl)
    have few := List.nodup_iff_count_le_one.mp (settled ▸ sound.places) place
    have isListed := traced.listed (by rw [serves]; rfl) place
    rw [settled, ← List.count_pos_iff,
      and_iff_right (Array.getElem?_eq_some_iff.mp there).1] at isListed
    change session.interrupts + (before.table.map Prod.snd).count place = _
    split
    · have none : ¬ 0 < (before.table.map Prod.snd).count place := mt isListed.mp (not_not.mpr ‹_›)
      omega
    · have some := isListed.mpr ‹_›
      omega

theorem start (serves : before.stage = .serving) {queue : List Command} {connection : Nat}
    {peer : Net.SocketAddress} (next : before.queue = .connect connection peer :: queue)
    (choice : Choice) (threaded : choice.launch ≠ .threadless) (id : UInt32) :
    Traced (log ++ [.moved (some (.connect connection peer)) choice])
      ({ before with queue }.start id choice.launch connection peer) := by
  have taken : Service.told { before with queue } = before.told := (told_of_cons next).symm
  cases launch : choice.launch with
  | uninterruptible => exact traced.congr rfl rfl taken rfl rfl rfl
  | threadless => exact absurd launch threaded
  | running =>
      have settled : before.listed = before.table := listed_of_not_entering (by simp [serves])
      have started (place : Nat) : ({ before with queue }.start id .running connection peer).started[place]? =
          if place = before.started.size then some { id, connection, peer }
          else before.started[place]? := Array.getElem?_push
      refine traced.still rfl rfl taken (fun name place named => ?_) (fun place => ?_)
        (fun _ place => ?_) nofun
      · obtain ⟨session, there, same⟩ := named
        have inside := (Array.getElem?_eq_some_iff.mp there).1
        exact ⟨session, by rw [started, if_neg (Nat.ne_of_lt inside), there], same⟩
      · rw [HasEnded, HasEnded, started]
        split
        · simp [*]
        · rfl
      · have entered : ({ before with queue }.start id .running connection peer).listed =
            before.table ++ [(id, before.started.size)] := rfl
        have size : ({ before with queue }.start id .running connection peer).started.size =
            before.started.size + 1 := Array.size_push ..
        have before_iff := traced.listed (by rw [serves]; rfl) place
        have unprocessed : before.started.size ∉ processed log := fun member =>
          Nat.lt_irrefl _ (traced.lt_size (List.mem_of_mem_take member))
        rw [settled] at before_iff
        rw [entered, size, List.map_append, List.mem_append, before_iff, List.map_cons, List.map_nil,
          List.mem_singleton]
        constructor
        · rintro (⟨inside, out⟩ | rfl)
          · exact ⟨Nat.lt_succ_of_lt inside, out⟩
          · exact ⟨Nat.lt_succ_self _, unprocessed⟩
        · rintro ⟨inside, out⟩
          rcases Nat.lt_succ_iff_lt_or_eq.mp inside with old | new
          · exact .inl ⟨old, out⟩
          · exact .inr new

theorem enter {id : UInt32} {place : Nat} (enters : before.stage = .entering id place)
    (choice : Choice) : Traced (log ++ [.moved none choice]) (before.enter id place) := by
  have same : before.listed = (before.enter id place).listed := by
    rw [Service.listed, enters]
    rfl
  refine traced.still rfl rfl rfl (fun _ _ named => named) (fun _ => Iff.rfl) (fun _ => ?_)
    fun closed => ?_
  · exact same ▸ traced.listed (by rw [enters]; rfl)
  · cases closed

theorem drain (terminates : before.stage = .terminating) {place : Nat} {session : Started}
    (found : before.started[place]? = some session) (id : UInt32) (choice : Choice) :
    Traced (log ++ [.moved none choice]) (before.collected id place session) := by
  refine traced.still rfl rfl rfl (fun _ _ => names_of_collected found id)
    (hasEnded_collected_iff found id) (fun opened => ?_) fun closed other changed there => ?_
  · change before.stage.isOpen = true at opened
    rw [terminates] at opened
    cases opened
  · rw [started_collected found] at there
    obtain ⟨old, was, rfl⟩ := Option.map_eq_some_iff.mp there
    rw [Started.of_changedAt Started.interrupts Started.collect fun _ => rfl]
    exact traced.interrupted closed other old was

theorem leave (terminates : before.stage = .terminating) (choice : Choice) :
    Traced (log ++ [.moved none choice]) { before with stage := .ended } := by
  refine traced.still rfl rfl rfl (fun _ _ named => named) (fun _ => Iff.rfl) nofun fun _ => ?_
  exact traced.interrupted (by rw [terminates]; rfl)

/-- The number which the loop takes next was told by the guard of a session which has ended and stands
in the table under that number. -/
theorem head (sound : before.Sound) (serves : before.stage = .serving) {queue : List Command}
    {id : UInt32} (next : before.queue = .disconnect id :: queue) :
    ∃ place later, (enders log).drop (hearings log) = place :: later ∧ (id, place) ∈ before.table ∧
      List.Forall₂ before.Names (Service.told { before with queue }) later := by
  have waiting := traced.waiting
  rw [told_of_cons next] at waiting
  obtain ⟨place, later, ⟨session, there, same⟩, rest, drop⟩ :=
    List.forall₂_cons_left_iff.mp waiting
  have settled : before.listed = before.table := listed_of_not_entering (by simp [serves])
  have ended : place ∈ enders log := List.mem_of_mem_drop (drop ▸ List.mem_cons_self)
  -- A session ends once, so its end can not have been processed before.
  have unprocessed : place ∉ processed log := by
    intro member
    have apart := traced.once
    rw [← List.take_append_drop (hearings log) (enders log), List.nodup_append'] at apart
    exact apart.2.2 member (drop ▸ List.mem_cons_self)
  have isListed := (traced.listed (by rw [serves]; rfl) place).mpr ⟨traced.lt_size ended, unprocessed⟩
  obtain ⟨⟨name, _⟩, member, rfl⟩ := List.mem_map.mp isListed
  obtain ⟨other, found, rfl⟩ := sound.named name _ member
  obtain rfl := Option.some.inj (there.symm.trans found)
  exact ⟨_, later, drop, same ▸ settled ▸ member, rest⟩

theorem hear (sound : before.Sound) (serves : before.stage = .serving) {queue : List Command}
    {id : UInt32} (next : before.queue = .disconnect id :: queue) {place : Nat} {session : Started}
    (member : (id, place) ∈ before.table) (found : before.started[place]? = some session)
    (choice : Choice) :
    Traced (log ++ [.moved (some (.disconnect id)) choice])
      ({ before with queue }.collected id place session) := by
  have settled : before.listed = before.table := listed_of_not_entering (by simp [serves])
  obtain ⟨teller, later, drop, named, rest⟩ := traced.head sound serves next
  -- The numbers in the table are distinct, so the session which told it is the one that is found.
  have alike : (id, teller) = (id, place) :=
    List.inj_on_of_nodup_map sound.ids (settled ▸ named) (settled ▸ member) rfl
  obtain rfl := (Prod.mk.inj alike).2
  have ends : enders (log ++ [.moved (some (.disconnect id)) choice]) = enders log := by
    simp [Event.ender?]
  have hears : hearings (log ++ [.moved (some (.disconnect id)) choice]) = hearings log + 1 :=
    hearings_concat ..
  have inside : hearings log < (enders log).length := by
    have lengths := congrArg List.length drop
    rw [List.length_drop, List.length_cons] at lengths
    omega
  obtain ⟨here, behind⟩ := List.cons_eq_cons.mp ((List.drop_eq_getElem_cons inside).symm.trans drop)
  have same : processed (log ++ [.moved (some (.disconnect id)) choice]) = processed log ++ [teller] := by
    rw [processed, ends, hears, List.take_add_one, List.getElem?_eq_getElem inside, here]
    rfl
  have taken : Sound { before with queue } := sound.congr rfl rfl rfl
  have found : ({ before with queue } : Service).started[teller]? = some session := found
  refine ⟨ends ▸ traced.once, fun other => ?_, ?_, ?_, fun _ other => ?_, fun closed => ?_⟩
  · rw [ends, traced.ended_iff]
    exact (hasEnded_collected_iff found id other).symm
  · rw [ends, hears]
    exact inside
  · rw [ends, hears, behind]
    exact rest.imp fun _ _ => names_of_collected found id
  · have size : ({ before with queue }.collected id teller session).started.size = before.started.size :=
      Array.size_setIfInBounds
    rw [taken.listed_collected_iff (by simp [serves]) member, same, size, List.mem_append,
      List.mem_singleton, not_or, ← and_assoc]
    exact and_congr_left' (traced.listed (by rw [serves]; rfl) other)
  · change before.stage.isOpen = false at closed
    rw [serves] at closed
    cases closed

theorem step (sound : before.Sound) (step : Step before event after)
    (guarded : ∀ id, event ≠ .sent (.disconnect id))
    (threaded : ∀ connection peer choice, event = .moved (some (.connect connection peer)) choice →
      choice.launch ≠ .threadless) : Traced (log ++ [event]) after := by
  cases step with
  | accept connection peer accepting =>
      exact traced.congr rfl rfl (by simp [told_post, Command.told?]) rfl rfl rfl
  | stop => exact traced.congr rfl rfl rfl rfl rfl rfl
  | send command =>
      have foreign : command.told? = none := by
        cases command with
        | disconnect id => exact absurd rfl (guarded id)
        | _ => rfl
      exact traced.congr rfl rfl (by simp [told_post, foreign]) rfl rfl rfl
  | finish ending running live => exact traced.finish running live ending
  | move choice moves =>
      cases move_of_step moves with
      | terminate stage next =>
          rw [next?_of_serving stage next]
          exact traced.terminate sound stage next choice
      | start stage next fresh =>
          rw [next?_of_serving stage next] at threaded ⊢
          exact traced.start stage next choice (threaded _ _ _ rfl) _
      | ignore stage next unknown =>
          obtain ⟨place, later, -, member, -⟩ := traced.head sound stage next
          exact absurd rfl (unknown _ member)
      | collect stage next listed found ended =>
          rw [next?_of_serving stage next]
          exact traced.hear sound stage next listed found choice
      | enter stage =>
          rw [next?, stage]
          exact traced.enter stage choice
      | drain stage listed found ended =>
          rw [next?, stage]
          exact traced.drain stage found _ choice
      | leave stage nobody stopped =>
          rw [next?, stage]
          exact traced.leave stage choice

end Traced

theorem traced_of_reaches {log : List Event} {service : Service} (reached : Reaches log service)
    (guarded : Guarded log) (threaded : Threaded log) : Traced log service := by
  induction reached with
  | start =>
      refine ⟨List.nodup_nil, fun place => ?_, Nat.zero_le _, .nil, fun _ place => ?_, nofun⟩
      · simp [enders, HasEnded]
      · simp [listed]
  | @step log before after event reached step ih =>
      have early := ih (fun id member => guarded id (List.mem_append_left _ member))
        fun connection peer choice member =>
          threaded connection peer choice (List.mem_append_left _ member)
      have last : event ∈ log ++ [event] := List.mem_append_right _ List.mem_cons_self
      refine early.step (sound_of_reaches reached) step ?_ ?_
      · rintro id rfl
        exact guarded id last
      · rintro connection peer choice rfl
        exact threaded connection peer choice last

/-! ## What the loop finds in the table -/

/-- What the table of a service holds. -/
structure Tabled (log : List Event) (service : Service) : Prop where
  /-- Between two commands these are the sessions which have been started and the ends of which have not
  been processed. -/
  table : service.stage = .serving → ∀ id place,
    (id, place) ∈ service.table ↔ service.Names id place ∧ place ∉ processed log
  /-- Their numbers are distinct. -/
  distinct : (service.table.map Prod.fst).Nodup
  /-- Each one is there once. -/
  single : (service.table.map Prod.snd).Nodup
  /-- The numbers in the queue are those of the sessions which have ended, in order, but for the ends
  which have been processed. -/
  waiting : List.Forall₂ service.Names service.told ((enders log).drop (hearings log))
  /-- The number which is taken next is that of the session which told it.  It is in the table, it has
  ended, and the loop need not wait for it. -/
  found : service.stage = .serving → ∀ id queue, service.queue = .disconnect id :: queue →
    ∃ place, (enders log)[hearings log]? = some place ∧ service.HasEnded place ∧
      (service.table.find? fun entry => entry.1 = id) = some (id, place) ∧
        ∀ choice, (service.step choice).isSome
  /-- Of a session the end of which has not been processed, the loop does not collect more than it has
  interrupted. -/
  first : ∀ place session, service.started[place]? = some session → place ∉ processed log →
    session.collected ≤ session.interrupts
  /-- When the loop terminates, what is still in the table has been interrupted and not collected. -/
  terminating : service.stage = .terminating → ∀ id place, (id, place) ∈ service.table →
    ∃ session, service.started[place]? = some session ∧ session.interrupts = 1 ∧
      session.collected = 0
  /-- In the end each session has ended and been collected once, and been interrupted unless its end
  had been processed. -/
  stopped : service.stage = .ended → ∀ place session, service.started[place]? = some session →
    session.ending.isSome ∧ session.collected = 1 ∧
      session.interrupts = if place ∈ processed log then 0 else 1

namespace Traced

variable {log : List Event} {service : Service} (traced : Traced log service) (sound : service.Sound)

include traced sound

theorem mem_table_iff (serves : service.stage = .serving) (id : UInt32) (place : Nat) :
    (id, place) ∈ service.table ↔ service.Names id place ∧ place ∉ processed log := by
  have settled : service.listed = service.table := listed_of_not_entering (by simp [serves])
  have isListed := traced.listed (by rw [serves]; rfl) place
  rw [settled] at isListed
  constructor
  · intro member
    exact ⟨sound.named id place (settled ▸ member), (isListed.mp (List.mem_map_of_mem member)).2⟩
  · rintro ⟨⟨session, there, rfl⟩, out⟩
    have inside := (Array.getElem?_eq_some_iff.mp there).1
    obtain ⟨⟨name, _⟩, member, rfl⟩ := List.mem_map.mp (isListed.mpr ⟨inside, out⟩)
    obtain ⟨other, found, rfl⟩ := sound.named name _ (settled ▸ member)
    obtain rfl := Option.some.inj (there.symm.trans found)
    exact member

/-- The loop finds the session which told it. -/
theorem found (serves : service.stage = .serving) {id : UInt32} {queue : List Command}
    (next : service.queue = .disconnect id :: queue) :
    ∃ place, (enders log)[hearings log]? = some place ∧ service.HasEnded place ∧
      (service.table.find? fun entry => entry.1 = id) = some (id, place) ∧
        ∀ choice, (service.step choice).isSome := by
  have settled : service.listed = service.table := listed_of_not_entering (by simp [serves])
  obtain ⟨place, later, drop, member, -⟩ := traced.head sound serves next
  have teller : (enders log)[hearings log]? = some place := by
    rw [← List.head?_drop, drop, List.head?_cons]
  have ended : service.HasEnded place :=
    (traced.ended_iff place).mp (List.mem_of_getElem? teller)
  have finds : (service.table.find? fun entry => entry.1 = id) = some (id, place) := by
    cases looked : service.table.find? fun entry => entry.1 = id with
    | none => simpa using List.find?_eq_none.mp looked _ member
    | some entry =>
        have same : entry.1 = id := by simpa using List.find?_some looked
        have there := List.mem_of_find?_eq_some looked
        exact congrArg some
          (List.inj_on_of_nodup_map sound.ids (settled ▸ there) (settled ▸ member) same)
  refine ⟨place, teller, ended, finds, fun choice => ?_⟩
  obtain ⟨session, there, ended⟩ := ended
  obtain ⟨ending, ended⟩ := Option.isSome_iff_exists.mp ended
  simp [Service.step, serves, next, finds, collect?, there, ended]

end Traced

/-- Whatever numbers are drawn, in whatever order connections are accepted and sessions end, the table
holds the sessions the ends of which have not been processed, the loop never waits for a session of
which it hears, and in the end each session has been collected once. -/
theorem tabled_of_reaches {log : List Event} {service : Service} (reached : Reaches log service)
    (guarded : Guarded log) (threaded : Threaded log) : Tabled log service := by
  have sound := sound_of_reaches reached
  have traced := traced_of_reaches reached guarded threaded
  have part := service.table_sublist_listed
  refine ⟨fun serves => traced.mem_table_iff sound serves, (part.map Prod.fst).nodup sound.ids,
    (part.map Prod.snd).nodup sound.places, traced.waiting,
    fun serves _ _ next => traced.found sound serves next, fun place session there out => ?_,
    fun terminates id place member => ?_, fun stopped place session there => ?_⟩
  · have standing := sound.standing place session there
    rcases standing.collected with ⟨fresh, -⟩ | ⟨gone, unlisted, -⟩
    · exact fresh ▸ Nat.zero_le _
    · cases opened : service.stage.isOpen with
      | true =>
          have inside := (Array.getElem?_eq_some_iff.mp there).1
          exact absurd ((traced.listed opened place).mpr ⟨inside, out⟩) unlisted
      | false =>
          have interrupted := traced.interrupted opened place session there
          rw [if_neg out] at interrupted
          exact Nat.le_of_eq (gone.trans interrupted.symm)
  · have listed := part.subset member
    obtain ⟨session, there, -⟩ := sound.named id place listed
    have standing := sound.standing place session there
    have isListed : place ∈ service.listed.map Prod.snd := List.mem_map_of_mem listed
    exact ⟨session, there, standing.interrupted (by rw [terminates]; rfl) isListed,
      standing.collected.elim And.left fun gone => absurd isListed gone.2.1⟩
  · obtain ⟨ended, once⟩ := sound.joined stopped there
    exact ⟨ended, once, traced.interrupted (by rw [stopped]; rfl) place session there⟩

/-- A session panics before it is in the table, a later one gets its number, and both sessions which are
left are interrupted. -/
theorem tabled_of_reused_number :
    let peer : Net.SocketAddress := .v4 ⟨127, 0, 0, 1⟩ 80
    let log : List Event := [
      .accepted 0 peer, .accepted 1 peer,
      .moved (some (.connect 0 peer)) { candidates := [7] }, .ended 0 .panicked, .moved none {},
      .moved (some (.connect 1 peer)) { candidates := [7, 9] }, .moved none {},
      .moved (some (.disconnect 7)) {}, .accepted 2 peer,
      .moved (some (.connect 2 peer)) { candidates := [7] }, .moved none {},
      .sent .terminate, .moved (some .terminate) {}, .ended 2 .regular, .ended 1 .regular,
      .moved none { position := 1 }, .moved none {}, .stopped, .moved none {}]
    let service : Service := {
      queue := [.disconnect 7, .disconnect 9]
      started := #[⟨7, 0, peer, some .panicked, 0, 1⟩, ⟨9, 1, peer, some .regular, 1, 1⟩,
        ⟨7, 2, peer, some .regular, 1, 1⟩]
      stage := .ended
      acceptorTold := true
      acceptorEnded := true }
    Reaches log service ∧ Guarded log ∧ Threaded log ∧ Tabled log service := by
  intro peer log service
  have reached : Reaches ([] ++ log) service := reaches_of_foldlM .start (by cbv)
  have guarded : Guarded log := by simp [Guarded, log]
  have threaded : Threaded log := by
    intro connection peer choice member
    simp only [log, List.mem_cons, Event.moved.injEq, Option.some.injEq, reduceCtorEq, false_and,
      false_or, List.not_mem_nil, or_false] at member
    rcases member with ⟨-, rfl⟩ | ⟨-, rfl⟩ | ⟨-, rfl⟩ <;> simp
  exact ⟨reached, guarded, threaded, tabled_of_reaches reached guarded threaded⟩

end Service
end TunnelProxy
