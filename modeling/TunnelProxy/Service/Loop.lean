import TunnelProxy.Error

/-!
# The loop of a service

A service learns of new connections, of sessions which have ended and of the request to terminate by
commands, which it takes one after another.  Each session it starts runs by itself, from before it is
in the table of the loop; when a session has ended, its guard sends the command which makes the loop
collect it.  To terminate means to tell the acceptor, to interrupt and collect all sessions which have
not been collected, and to wait for the acceptor.
-/

namespace TunnelProxy
namespace Service

/-- A command to the loop. -/
inductive Command where
  /-- Stop accepting, and interrupt and collect every session. -/
  | terminate
  /-- A connection with this number has been accepted. -/
  | connect (connection : Nat) (peer : Net.SocketAddress)
  /-- The session with this number has ended. -/
  | disconnect (id : UInt32)
  deriving DecidableEq, Inhabited

/-- The text of the number of a session. -/
def describeSession (id : UInt32) : String := s!"SessionId({id.toNat})"

/-- The text of a command. -/
def Command.text : Command → String
  | terminate => "Terminate"
  | connect _ peer => s!"Connect(_, {peer.text})"
  | disconnect id => s!"Disconnect({describeSession id})"

/-- How a session ended. -/
inductive Ending where
  /-- Regularly. -/
  | regular
  /-- With a failure. -/
  | failed (error : Error)
  /-- By a defect of the program. -/
  | panicked
  deriving DecidableEq, Inhabited

/-- A session which has been started. -/
structure Started where
  /-- The number of the session. -/
  id : UInt32
  /-- The connection which it serves. -/
  connection : Nat
  /-- Where the connection comes from. -/
  peer : Net.SocketAddress
  /-- How it ended, if it did. -/
  ending : Option Ending := none
  /-- How often it was interrupted. -/
  interrupts : Nat := 0
  /-- How often it was collected. -/
  collected : Nat := 0
  deriving DecidableEq, Inhabited

/-- What comes of starting a session. -/
inductive Launch where
  /-- It runs. -/
  | running
  /-- The connection can not be interrupted, and nothing is started. -/
  | uninterruptible
  /-- There is no thread for it.  Its guard tells the loop all the same. -/
  | threadless
  deriving DecidableEq, Inhabited

/-- What is left open to a step of the loop. -/
structure Choice where
  /-- The numbers which are drawn for a new session, until one is free. -/
  candidates : List UInt32 := []
  /-- What comes of starting it. -/
  launch : Launch := .running
  /-- Where in the table the session stands which is collected next when the loop terminates. -/
  position : Nat := 0
  deriving DecidableEq, Inhabited

/-- What the loop is about. -/
inductive Stage where
  /-- Take commands. -/
  | serving
  /-- Put a session which runs into the table: number and place among all. -/
  | entering (id : UInt32) (place : Nat)
  /-- Collect what is left. -/
  | terminating
  /-- Nothing any more. -/
  | ended
  deriving DecidableEq, Inhabited

end Service

open Service in
/-- The state of a service. -/
structure Service where
  /-- The commands which have not been taken, oldest first. -/
  queue : List Command := []
  /-- The sessions which have been started and not collected: number and place among all. -/
  table : List (UInt32 × Nat) := []
  /-- All sessions which have been started. -/
  started : Array Started := #[]
  /-- The connections for which no session could be started, most recent first. -/
  abandoned : List Nat := []
  /-- What the loop is about. -/
  stage : Stage := .serving
  /-- Whether the acceptor was told to stop. -/
  acceptorTold : Bool := false
  /-- Whether the acceptor has ended. -/
  acceptorEnded : Bool := false

namespace Service

/-- Send a command to the loop. -/
def post (service : Service) (command : Command) : Service :=
  { service with queue := service.queue ++ [command] }

/-- A session has ended, and its guard tells the loop. -/
def finish (service : Service) (place : Nat) (ending : Ending) : Service :=
  match service.started[place]? with
  | some session =>
      if session.ending.isSome then service
      else
        { service with
          started := service.started.setIfInBounds place { session with ending := some ending } }
          |>.post (.disconnect session.id)
  | none => service

/-- The first number which no session in the table has. -/
def freshId? (service : Service) (candidates : List UInt32) : Option UInt32 :=
  candidates.find? fun id => service.table.all fun entry => entry.1 ≠ id

/-- Start a session, or abandon the connection if that is not possible. -/
def start (service : Service) (id : UInt32) (launch : Launch) (connection : Nat)
    (peer : Net.SocketAddress) : Service :=
  match launch with
  | .running =>
      { service with
        started := service.started.push { id, connection, peer }
        stage := .entering id service.started.size }
  | .uninterruptible => { service with abandoned := connection :: service.abandoned }
  | .threadless =>
      { service with abandoned := connection :: service.abandoned }.post (.disconnect id)

/-- Put a session into the table. -/
def enter (service : Service) (id : UInt32) (place : Nat) : Service :=
  { service with table := service.table ++ [(id, place)], stage := .serving }

/-- Collect a session, once it has ended. -/
def collect? (service : Service) (id : UInt32) (place : Nat) : Option Service := do
  let session ← service.started[place]?
  let _ ← session.ending
  return { service with
    table := service.table.filter fun entry => entry.1 ≠ id
    started :=
      service.started.setIfInBounds place { session with collected := session.collected + 1 } }

/-- Interrupt every session in the table. -/
def interruptAll (service : Service) : Service :=
  { service with
    started := service.table.foldl
      (fun started entry =>
        started.modify entry.2 fun session =>
          { session with interrupts := session.interrupts + 1 })
      service.started }

/-- One step of the loop, if it does not have to wait. -/
def step (service : Service) (choice : Choice) : Option Service :=
  match service.stage, service.queue with
  | .serving, [] => none
  | .serving, .terminate :: queue =>
      some { service with queue, acceptorTold := true, stage := .terminating }.interruptAll
  | .serving, .connect connection peer :: queue =>
      (service.freshId? choice.candidates).map fun id =>
        { service with queue }.start id choice.launch connection peer
  | .serving, .disconnect id :: queue =>
      match service.table.find? fun entry => entry.1 = id with
      | none => some { service with queue }
      | some (_, place) => { service with queue }.collect? id place
  | .entering id place, _ => some (service.enter id place)
  | .terminating, _ =>
      match service.table with
      | [] => if service.acceptorEnded then some { service with stage := .ended } else none
      | _ :: _ => (service.table[choice.position]?).bind fun (id, place) => service.collect? id place
  | .ended, _ => none

/-- The connections which were accepted and which the loop will never take. -/
def leftBehind (service : Service) : List Nat :=
  service.queue.filterMap fun command =>
    match command with
    | .connect connection _ => some connection
    | _ => none

end Service
end TunnelProxy
