import Mathlib.Data.List.Nodup
import TunnelProxy.Service.Loop

/-!
# Runs of services

The loop of a service, its sessions, its acceptor and whoever else holds an end of its queue take their
steps in any order.  A log tells what they did.
-/

namespace TunnelProxy
namespace Service

/-! ## Steps -/

/-- What can happen to a service. -/
inductive Event where
  /-- The acceptor accepted a connection and told the loop. -/
  | accepted (connection : Nat) (peer : Net.SocketAddress)
  /-- The acceptor ended. -/
  | stopped
  /-- Someone else told the loop something. -/
  | sent (command : Command)
  /-- The handler of a session ended, and its guard told the loop. -/
  | ended (place : Nat) (ending : Ending)
  /-- The loop took a command, if it takes commands, and went on. -/
  | moved (command : Option Command) (choice : Choice)

/-- The command which the loop takes next, if it takes commands. -/
def next? (service : Service) : Option Command :=
  match service.stage with
  | .serving => service.queue.head?
  | _ => none

/-- The steps of a service. -/
inductive Step : Service → Event → Service → Prop
  /-- A connection is accepted. -/
  | accept {service : Service} (connection : Nat) (peer : Net.SocketAddress)
      (accepting : service.acceptorEnded = false) :
      Step service (.accepted connection peer) (service.post (.connect connection peer))
  /-- The acceptor ends. -/
  | stop {service : Service} : Step service .stopped { service with acceptorEnded := true }
  /-- Someone sends a command. -/
  | send {service : Service} (command : Command) : Step service (.sent command) (service.post command)
  /-- A handler which runs ends. -/
  | finish {service : Service} {place : Nat} {session : Started} (ending : Ending)
      (running : service.started[place]? = some session) (live : session.ending = none) :
      Step service (.ended place ending) (service.finish place ending)
  /-- The loop goes on. -/
  | move {service after : Service} (choice : Choice) (moves : service.step choice = some after) :
      Step service (.moved service.next? choice) after

/-- A service can be like this after some events. -/
inductive Reaches : List Event → Service → Prop
  /-- Nothing has happened. -/
  | start : Reaches [] {}
  /-- One more thing happens. -/
  | step {log : List Event} {before after : Service} {event : Event} (reached : Reaches log before)
      (step : Step before event after) : Reaches (log ++ [event]) after

/-- What an event makes of a service, if it can happen. -/
def Event.follow? (service : Service) : Event → Option Service
  | accepted connection peer =>
      if service.acceptorEnded then none else some (service.post (.connect connection peer))
  | stopped => some { service with acceptorEnded := true }
  | sent command => some (service.post command)
  | ended place ending =>
      match service.started[place]? with
      | some session => if session.ending = none then some (service.finish place ending) else none
      | none => none
  | moved command choice => if command = service.next? then service.step choice else none

theorem step_of_follow? {before after : Service} {event : Event}
    (applies : event.follow? before = some after) : Step before event after := by
  cases event with
  | accepted connection peer =>
      obtain ⟨accepting, same⟩ := Option.ite_none_left_eq_some.mp applies
      cases same
      exact .accept connection peer (by simpa using accepting)
  | stopped =>
      cases applies
      exact .stop
  | sent command =>
      cases applies
      exact .send command
  | ended place ending =>
      rw [Event.follow?] at applies
      split at applies
      · obtain ⟨live, same⟩ := Option.ite_none_right_eq_some.mp applies
        cases same
        exact .finish ending ‹_› live
      · cases applies
  | moved command choice =>
      obtain ⟨rfl, moves⟩ := Option.ite_none_right_eq_some.mp applies
      exact .move choice moves

theorem reaches_of_foldlM {past log : List Event} {before after : Service}
    (reached : Reaches past before) (applies : log.foldlM Event.follow? before = some after) :
    Reaches (past ++ log) after := by
  induction log generalizing past before with
  | nil =>
      cases applies
      rwa [List.append_nil]
  | cons event log ih =>
      obtain ⟨middle, here, later⟩ := Option.bind_eq_some_iff.mp applies
      rw [List.append_cons]
      exact ih (.step reached (step_of_follow? here)) later

/-! ## Steps of the loop -/

/-- One session after it was collected. -/
def collected (service : Service) (id : UInt32) (place : Nat) (session : Started) : Service :=
  { service with
    table := service.table.filter fun entry => entry.1 ≠ id
    started :=
      service.started.setIfInBounds place { session with collected := session.collected + 1 } }

theorem collect?_eq_some_iff {service after : Service} {id : UInt32} {place : Nat} :
    service.collect? id place = some after ↔ ∃ session, service.started[place]? = some session ∧
      session.ending.isSome ∧ after = service.collected id place session := by
  simp only [collect?, Option.bind_eq_bind, Option.bind_eq_some_iff, Option.pure_def,
    Option.some.injEq, Option.isSome_iff_exists, collected]
  constructor
  · rintro ⟨session, found, ending, ended, rfl⟩
    exact ⟨session, found, ⟨ending, ended⟩, rfl⟩
  · rintro ⟨session, found, ⟨ending, ended⟩, rfl⟩
    exact ⟨session, found, ending, ended, rfl⟩

/-- What a step of the loop can do. -/
inductive Move (choice : Choice) : Service → Service → Prop
  /-- It is asked to terminate. -/
  | terminate {before : Service} {queue : List Command} (stage : before.stage = .serving)
      (next : before.queue = .terminate :: queue) :
      Move choice before
        { before with queue, acceptorTold := true, stage := .terminating }.interruptAll
  /-- It tries to start a session under a number which is not in the table. -/
  | start {before : Service} {queue : List Command} {connection : Nat} {peer : Net.SocketAddress}
      {id : UInt32} (stage : before.stage = .serving)
      (next : before.queue = .connect connection peer :: queue)
      (fresh : ∀ entry ∈ before.table, entry.1 ≠ id) :
      Move choice before ({ before with queue }.start id choice.launch connection peer)
  /-- It hears of a session which is not in the table. -/
  | ignore {before : Service} {queue : List Command} {id : UInt32} (stage : before.stage = .serving)
      (next : before.queue = .disconnect id :: queue) (unknown : ∀ entry ∈ before.table, entry.1 ≠ id) :
      Move choice before { before with queue }
  /-- It hears of a session in the table, which has ended, and collects it. -/
  | collect {before : Service} {queue : List Command} {id : UInt32} {place : Nat} {session : Started}
      (stage : before.stage = .serving) (next : before.queue = .disconnect id :: queue)
      (listed : (id, place) ∈ before.table) (found : before.started[place]? = some session)
      (ended : session.ending.isSome) :
      Move choice before ({ before with queue }.collected id place session)
  /-- It puts a session into the table. -/
  | enter {before : Service} {id : UInt32} {place : Nat} (stage : before.stage = .entering id place) :
      Move choice before (before.enter id place)
  /-- It collects one of the sessions which are left and have ended. -/
  | drain {before : Service} {id : UInt32} {place : Nat} {session : Started}
      (stage : before.stage = .terminating) (listed : (id, place) ∈ before.table)
      (found : before.started[place]? = some session) (ended : session.ending.isSome) :
      Move choice before (before.collected id place session)
  /-- No session is left, and the acceptor has ended. -/
  | leave {before : Service} (stage : before.stage = .terminating) (nobody : before.table = [])
      (stopped : before.acceptorEnded = true) : Move choice before { before with stage := .ended }

theorem freshId?_ne {service : Service} {candidates : List UInt32} {id : UInt32}
    (drawn : service.freshId? candidates = some id) : ∀ entry ∈ service.table, entry.1 ≠ id := by
  intro entry member
  have free := List.find?_some drawn
  have apart := List.all_eq_true.mp free entry member
  simpa using apart

theorem move_of_step {before after : Service} {choice : Choice}
    (moves : before.step choice = some after) : Move choice before after := by
  obtain ⟨queue, table, started, abandoned, stage, told, stopped⟩ := before
  cases stage with
  | serving =>
      rcases queue with - | ⟨command, queue⟩
      · cases moves
      cases command with
      | terminate =>
          cases moves
          exact .terminate rfl rfl
      | connect connection peer =>
          obtain ⟨id, drawn, rfl⟩ := Option.map_eq_some_iff.mp moves
          exact .start rfl rfl (freshId?_ne drawn)
      | disconnect id =>
          simp only [step] at moves
          split at moves
          · rename_i unknown
            cases moves
            refine .ignore rfl rfl fun entry member => ?_
            simpa using List.find?_eq_none.mp unknown entry member
          · rename_i place found
            have same := List.find?_some found
            obtain rfl := of_decide_eq_true same
            obtain ⟨session, there, ended, rfl⟩ := collect?_eq_some_iff.mp moves
            exact .collect rfl rfl (List.mem_of_find?_eq_some found) there ended
  | entering id place =>
      cases moves
      exact .enter rfl
  | terminating =>
      rcases table with - | ⟨entry, table⟩
      · simp only [step] at moves
        split at moves
        · cases moves
          exact .leave rfl rfl ‹_›
        · cases moves
      · obtain ⟨⟨id, place⟩, picked, collected⟩ := Option.bind_eq_some_iff.mp moves
        obtain ⟨session, there, ended, rfl⟩ := collect?_eq_some_iff.mp collected
        exact .drain rfl (List.mem_of_getElem? picked) there ended
  | ended => cases moves

/-! ## The sessions -/

theorem finish_eq {service : Service} {place : Nat} {session : Started}
    (running : service.started[place]? = some session) (live : session.ending = none)
    (ending : Ending) : service.finish place ending =
      { service with
        started := service.started.setIfInBounds place { session with ending := some ending } }.post
          (.disconnect session.id) := by
  simp [finish, running, live]

/-- What becomes of a session at some place if the one at another place, or at the same, is changed. -/
def Started.changedAt (place : Nat) (change : Started → Started) (other : Nat) (session : Started) :
    Started :=
  if other = place then change session else session

/-- What a change leaves alone is left alone at all places. -/
theorem Started.of_changedAt {α : Type} (field : Started → α) (change : Started → Started)
    (kept : ∀ session, field (change session) = field session) (place other : Nat)
    (session : Started) : field (changedAt place change other session) = field session := by
  rw [changedAt]
  split
  · exact kept session
  · rfl

/-- To replace a session means to change the one at its place. -/
theorem getElem?_replaced {started : Array Started} {place : Nat} {session : Started}
    (found : started[place]? = some session) (change : Started → Started) (other : Nat) :
    (started.setIfInBounds place (change session))[other]? =
      started[other]?.map (Started.changedAt place change other) := by
  rw [Array.getElem?_setIfInBounds]
  by_cases same : place = other
  · subst same
    obtain ⟨inside, same⟩ := Array.getElem?_eq_some_iff.mp found
    simp [inside, same, Started.changedAt]
  · cases started[other]? <;> simp [same, Ne.symm same, Started.changedAt]

/-- A session after it has ended. -/
def Started.finished (ending : Ending) (session : Started) : Started :=
  { session with ending := some ending }

/-- A session after it was collected once more. -/
def Started.collect (session : Started) : Started :=
  { session with collected := session.collected + 1 }

theorem started_collected {service : Service} {place : Nat} {session : Started}
    (found : service.started[place]? = some session) (id : UInt32) (other : Nat) :
    (service.collected id place session).started[other]? =
      service.started[other]?.map (Started.changedAt place Started.collect other) :=
  getElem?_replaced found Started.collect other

/-- Who stands in the table is interrupted, and nobody else. -/
theorem started_interruptAll (service : Service) (place : Nat) :
    service.interruptAll.started[place]? = service.started[place]?.map fun session =>
      { session with
        interrupts := session.interrupts + (service.table.map Prod.snd).count place } := by
  obtain ⟨queue, table, started, abandoned, stage, told, stopped⟩ := service
  simp only [interruptAll]
  induction table generalizing started with
  | nil => simp
  | cons entry table ih =>
      rw [List.foldl_cons, ih, Array.getElem?_modify, List.map_cons, List.count_cons]
      split
      · subst_vars
        cases started[entry.2]? with
        | none => rfl
        | some session => simp [Nat.add_assoc, Nat.add_comm 1]
      · rename_i apart
        simp [apart]

/-- Whether sessions are still started. -/
def Stage.isOpen : Stage → Bool
  | serving | entering .. => true
  | terminating | ended => false

/-- The sessions which have been started and not collected: those in the table, and one which is not
in it yet. -/
def listed (service : Service) : List (UInt32 × Nat) :=
  match service.stage with
  | .entering id place => service.table ++ [(id, place)]
  | _ => service.table

theorem listed_of_not_entering {service : Service}
    (settled : ∀ id place, service.stage ≠ .entering id place) : service.listed = service.table := by
  rw [listed]
  split
  · exact absurd ‹_› (settled _ _)
  · rfl

theorem table_sublist_listed (service : Service) : service.table.Sublist service.listed := by
  rw [listed]
  split
  · exact List.sublist_append_left ..
  · exact .refl _

/-- The session at a place has a number. -/
def Names (service : Service) (id : UInt32) (place : Nat) : Prop :=
  ∃ session, service.started[place]? = some session ∧ session.id = id

/-- How a session stands with the loop. -/
structure Standing (isOpen : Bool) (isListed : Prop) (session : Started) : Prop where
  /-- It is collected once it is not listed any more, and only after it has ended. -/
  collected : session.collected = 0 ∧ isListed ∨
    session.collected = 1 ∧ ¬ isListed ∧ session.ending.isSome
  /-- It is not interrupted as long as sessions are started. -/
  spared : isOpen = true → session.interrupts = 0
  /-- Afterwards it has been interrupted if it is listed. -/
  interrupted : isOpen = false → isListed → session.interrupts = 1
  /-- It is interrupted at most once. -/
  once : session.interrupts ≤ 1

/-- The table of a service and the sessions agree. -/
structure Sound (service : Service) : Prop where
  /-- The numbers are distinct. -/
  ids : (service.listed.map Prod.fst).Nodup
  /-- Each session is listed once. -/
  places : (service.listed.map Prod.snd).Nodup
  /-- Sessions are listed under their numbers. -/
  named : ∀ id place, (id, place) ∈ service.listed → service.Names id place
  /-- Each session stands with the loop as its entry and the stage tell. -/
  standing : ∀ place session, service.started[place]? = some session →
    Standing service.stage.isOpen (place ∈ service.listed.map Prod.snd) session
  /-- Nothing is left in the end. -/
  empty : service.stage = .ended → service.table = []

namespace Sound

variable {before after : Service} (sound : before.Sound)

include sound

/-- Sessions stay sound if each one is changed in accordance with what becomes of its entry. -/
theorem update (change : Nat → Started → Started)
    (started : ∀ place, after.started[place]? = before.started[place]?.map (change place))
    (id : ∀ place session, (change place session).id = session.id)
    (listed : after.listed.Sublist before.listed)
    (standing : ∀ place session, before.started[place]? = some session →
      Standing before.stage.isOpen (place ∈ before.listed.map Prod.snd) session →
        Standing after.stage.isOpen (place ∈ after.listed.map Prod.snd) (change place session))
    (empty : after.stage = .ended → after.table = []) : after.Sound := by
  refine ⟨(listed.map Prod.fst).nodup sound.ids, (listed.map Prod.snd).nodup sound.places,
    fun name place member => ?_, fun place changed found => ?_, empty⟩
  · obtain ⟨session, there, same⟩ := sound.named name place (listed.subset member)
    exact ⟨change place session, by rw [started, there, Option.map_some], (id ..).trans same⟩
  · rw [started] at found
    obtain ⟨session, there, rfl⟩ := Option.map_eq_some_iff.mp found
    exact standing place session there (sound.standing place session there)

/-- What does not touch the sessions keeps them sound. -/
theorem congr (table : after.table = before.table) (started : after.started = before.started)
    (stage : after.stage = before.stage) : after.Sound := by
  have same : after.listed = before.listed := by rw [Service.listed, Service.listed, table, stage]
  refine ⟨same ▸ sound.ids, same ▸ sound.places, fun id place member => ?_,
    same ▸ started ▸ stage ▸ sound.standing, table ▸ stage ▸ sound.empty⟩
  rw [Names, started]
  exact sound.named id place (same ▸ member)

theorem post (command : Command) : (before.post command).Sound :=
  sound.congr rfl rfl rfl

theorem finish {place : Nat} {session : Started} (running : before.started[place]? = some session)
    (live : session.ending = none) (ending : Ending) : (before.finish place ending).Sound := by
  rw [finish_eq running live]
  have ended : Sound
      { before with started := before.started.setIfInBounds place (session.finished ending) } := by
    refine sound.update _ (getElem?_replaced running (.finished ending))
      (Started.of_changedAt Started.id (.finished ending) (fun _ => rfl) place) (.refl _)
      (fun other session there standing => ?_) sound.empty
    rw [Started.changedAt]
    split
    · refine ⟨?_, standing.spared, standing.interrupted, standing.once⟩
      exact standing.collected.imp_right fun ⟨once, gone, _⟩ => ⟨once, gone, rfl⟩
    · exact standing
  exact ended.post _

theorem terminate (serves : before.stage = .serving) (queue : List Command) :
    Sound { before with queue, acceptorTold := true, stage := .terminating }.interruptAll := by
  have settled : before.listed = before.table := listed_of_not_entering (by simp [serves])
  refine sound.update (fun place session =>
      { session with
        interrupts := session.interrupts + (before.table.map Prod.snd).count place })
    (started_interruptAll _) (fun _ _ => rfl) (settled ▸ .refl _)
    (fun place session there standing => ?_) nofun
  have spared := standing.spared (by rw [serves]; rfl)
  have few := List.nodup_iff_count_le_one.mp (settled ▸ sound.places) place
  refine ⟨settled ▸ standing.collected, nofun, fun _ isListed => ?_, ?_⟩
  · have there : 0 < (before.table.map Prod.snd).count place := List.count_pos_iff.mpr isListed
    change session.interrupts + (before.table.map Prod.snd).count place = 1
    omega
  · change session.interrupts + (before.table.map Prod.snd).count place ≤ 1
    omega

/-- The place of a session which is started next is not listed. -/
theorem size_not_mem : before.started.size ∉ before.listed.map Prod.snd := by
  rw [List.mem_map]
  rintro ⟨⟨id, place⟩, member, rfl⟩
  obtain ⟨session, there, -⟩ := sound.named id _ member
  simp at there

theorem start (serves : before.stage = .serving) (queue : List Command) {id : UInt32}
    (fresh : ∀ entry ∈ before.table, entry.1 ≠ id) (launch : Launch) (connection : Nat)
    (peer : Net.SocketAddress) :
    ({ before with queue }.start id launch connection peer).Sound := by
  cases launch with
  | uninterruptible => exact sound.congr rfl rfl rfl
  | threadless => exact sound.congr rfl rfl rfl
  | running =>
      have settled : before.listed = before.table := listed_of_not_entering (by simp [serves])
      have outside := settled ▸ sound.size_not_mem
      have unnamed : id ∉ before.table.map Prod.fst := by
        rw [List.mem_map]
        rintro ⟨entry, member, same⟩
        exact fresh entry member same
      have entered : ({ before with queue }.start id .running connection peer).listed =
          before.table ++ [(id, before.started.size)] := rfl
      refine ⟨?_, ?_, fun name place member => ?_, fun place session found => ?_, nofun⟩
      · rw [entered, List.map_append]
        exact (settled ▸ sound.ids).append (List.nodup_singleton _) (by simpa using unnamed)
      · rw [entered, List.map_append]
        exact (settled ▸ sound.places).append (List.nodup_singleton _) (by simpa using outside)
      · rw [entered, List.mem_append, List.mem_singleton] at member
        change ∃ session, (before.started.push _)[place]? = _ ∧ _
        rcases member with old | new
        · obtain ⟨session, there, same⟩ := sound.named name place (settled ▸ old)
          have inside := (Array.getElem?_eq_some_iff.mp there).1
          exact ⟨session, by rw [Array.getElem?_push, if_neg (Nat.ne_of_lt inside), there], same⟩
        · obtain ⟨rfl, rfl⟩ := Prod.mk.inj new
          exact ⟨_, Array.getElem?_push_size, rfl⟩
      · change (before.started.push _)[place]? = _ at found
        rw [Array.getElem?_push] at found
        rw [entered, List.map_append, List.mem_append]
        split at found
        · subst_vars
          cases found
          exact ⟨.inl ⟨rfl, .inr List.mem_cons_self⟩, fun _ => rfl, nofun, Nat.zero_le 1⟩
        · rename_i apart
          have standing := sound.standing place session found
          rw [serves, settled] at standing
          have only : (place ∈ before.table.map Prod.snd ∨
              place ∈ [(id, before.started.size)].map Prod.snd) ↔
                place ∈ before.table.map Prod.snd := or_iff_left (by simpa using apart)
          rw [only]
          exact standing

theorem enter {id : UInt32} {place : Nat} (enters : before.stage = .entering id place) :
    (before.enter id place).Sound := by
  have same : before.listed = (before.enter id place).listed := by
    rw [listed, enters]
    rfl
  refine ⟨same ▸ sound.ids, same ▸ sound.places, same ▸ sound.named,
    fun place session found => ?_, nofun⟩
  have standing := sound.standing place session found
  rwa [same, enters] at standing

/-- A session which is collected is not listed any more, and all others are. -/
theorem listed_collected_iff (settled : ∀ id place, before.stage ≠ .entering id place) {id : UInt32}
    {place : Nat} (member : (id, place) ∈ before.table) (session : Started) (other : Nat) :
    other ∈ (before.collected id place session).listed.map Prod.snd ↔
      other ∈ before.listed.map Prod.snd ∧ other ≠ place := by
  have all : before.listed = before.table := listed_of_not_entering settled
  have rest : (before.collected id place session).listed =
      before.table.filter fun entry => entry.1 ≠ id := listed_of_not_entering settled
  have alone (entry : UInt32 × Nat) (listed : entry ∈ before.table) :
      entry.1 = id ↔ entry.2 = place :=
    ⟨fun same => congrArg Prod.snd (List.inj_on_of_nodup_map (all ▸ sound.ids) listed member same),
      fun same => congrArg Prod.fst (List.inj_on_of_nodup_map (all ▸ sound.places) listed member same)⟩
  rw [all, rest]
  constructor
  · intro there
    obtain ⟨entry, kept, rfl⟩ := List.mem_map.mp there
    obtain ⟨listed, apart⟩ := List.mem_filter.mp kept
    exact ⟨List.mem_map_of_mem listed, mt (alone entry listed).mpr (of_decide_eq_true apart)⟩
  · rintro ⟨there, apart⟩
    obtain ⟨entry, listed, rfl⟩ := List.mem_map.mp there
    have kept := decide_eq_true (mt (alone entry listed).mp apart)
    exact List.mem_map_of_mem (List.mem_filter.mpr ⟨listed, kept⟩)

theorem collect (settled : ∀ id place, before.stage ≠ .entering id place) {id : UInt32} {place : Nat}
    {session : Started} (member : (id, place) ∈ before.table)
    (found : before.started[place]? = some session) (ended : session.ending.isSome) :
    (before.collected id place session).Sound := by
  have all : before.listed = before.table := listed_of_not_entering settled
  have rest : (before.collected id place session).listed =
      before.table.filter fun entry => entry.1 ≠ id := listed_of_not_entering settled
  refine sound.update _ (started_collected found id)
    (Started.of_changedAt Started.id Started.collect (fun _ => rfl) place) ?_
    (fun other changed there standing => ?_) (fun stopped => ?_)
  · rw [all, rest]
    exact List.filter_sublist
  · rw [sound.listed_collected_iff settled member, Started.changedAt]
    have listed : place ∈ before.listed.map Prod.snd := all ▸ List.mem_map_of_mem member
    split
    · subst_vars
      obtain rfl := Option.some.inj (found.symm.trans there)
      have fresh : session.collected = 0 :=
        standing.collected.elim And.left fun gone => absurd listed gone.2.1
      refine ⟨.inr ⟨?_, by simp, ended⟩, standing.spared, ?_, standing.once⟩
      · change session.collected + 1 = 1
        rw [fresh]
      · simp
    · rename_i apart
      rw [and_iff_left apart]
      exact standing
  · have none := sound.empty stopped
    rw [none] at member
    cases member

theorem leave (settled : before.stage = .terminating) (nobody : before.table = []) :
    Sound { before with stage := .ended } := by
  have all : before.listed = [] := by
    rw [listed_of_not_entering (by simp [settled]), nobody]
  refine sound.update (fun _ session => session) (fun place => by simp) (fun _ _ => rfl)
    (by rw [all, listed, nobody]) (fun place session there standing => ?_) fun _ => nobody
  rw [settled, all] at standing
  rw [listed, nobody]
  exact ⟨standing.collected, nofun, standing.interrupted, standing.once⟩

theorem move {choice : Choice} (moves : Move choice before after) : after.Sound := by
  cases moves with
  | terminate stage next => exact sound.terminate stage _
  | start stage next fresh => exact sound.start stage _ fresh ..
  | ignore stage next unknown => exact sound.congr rfl rfl rfl
  | @collect queue id place session stage next listed found ended =>
      have taken : Sound { before with queue } := sound.congr rfl rfl rfl
      exact taken.collect (by simp [stage]) listed found ended
  | enter stage => exact sound.enter stage
  | drain stage listed found ended => exact sound.collect (by simp [stage]) listed found ended
  | leave stage nobody stopped => exact sound.leave stage nobody

theorem step {event : Event} (step : Step before event after) : after.Sound := by
  cases step with
  | accept connection peer accepting => exact sound.post _
  | stop => exact sound.congr rfl rfl rfl
  | send command => exact sound.post command
  | finish ending running live => exact sound.finish running live ending
  | move choice moves => exact sound.move (move_of_step moves)

/-- In the end each session has ended and been collected once. -/
theorem joined (stopped : before.stage = .ended) {place : Nat} {session : Started}
    (there : before.started[place]? = some session) :
    session.ending.isSome ∧ session.collected = 1 := by
  have nobody : before.listed = [] := by
    rw [listed_of_not_entering (by simp [stopped]), sound.empty stopped]
  have standing := sound.standing place session there
  rw [nobody] at standing
  rcases standing.collected with ⟨-, listed⟩ | ⟨once, -, ended⟩
  · cases listed
  · exact ⟨ended, once⟩

end Sound

/-- Whatever happens, the table of a service and its sessions agree. -/
theorem sound_of_reaches {log : List Event} {service : Service} (reached : Reaches log service) :
    service.Sound := by
  induction reached with
  | start =>
      refine ⟨List.nodup_nil, List.nodup_nil, fun id place member => ?_, fun place session found => ?_,
        fun _ => rfl⟩
      · cases member
      · simp at found
  | step _ step sound => exact sound.step step

end Service
end TunnelProxy
