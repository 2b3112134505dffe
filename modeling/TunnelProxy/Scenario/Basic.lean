import TunnelProxy.Mux.Session
import TunnelProxy.Relay.Basic
import TunnelProxy.Tunnel.Client
import TunnelProxy.Tunnel.Server

/-!
# Scenarios

A scenario fixes what programs of sessions meet: the connections and what arrives on them, where
destinations lead, what becomes of sessions, and who judges tunnel clients.  It also remembers what
the programs asked for.  Two hosts take part, the front-end and the tunnel server; each has its own
destinations and its own records.
-/

namespace TunnelProxy
namespace Scenario

/-- The two hosts. -/
inductive Side where
  /-- The host of the SOCKS front-end and the tunnel client. -/
  | front
  /-- The host of the tunnel server. -/
  | server
  deriving DecidableEq, Inhabited

/-- Where a destination leads. -/
inductive Destination where
  /-- To a connection. -/
  | connection (number : Nat)
  /-- The destination refuses connections. -/
  | refused
  /-- The tunnel server does not grant the stream. -/
  | rejected
  /-- Connecting fails. -/
  | failed (kind : IoKind)
  deriving DecidableEq, Inhabited

/-- A session whose streams are fixed beforehand; they are opened and accepted in the same order. -/
structure Script where
  /-- The connections behind all its streams. -/
  streams : List Nat := []
  /-- The streams which have not been opened or accepted yet, or why there is none. -/
  upcoming : List (Except Error Nat) := []
  /-- Whether the session has been closed. -/
  isClosed : Bool := false
  /-- Whether the session refuses to be paced. -/
  unpaced : Bool := false
  /-- The time limits with which streams were accepted, most recent first. -/
  accepts : List (Option Nat) := []
  /-- How often a stream was asked for. -/
  opens : Nat := 0
  /-- How often the session was to be paced. -/
  paces : Nat := 0
  /-- The codes and reasons with which the session was closed, most recent first. -/
  closings : List (CloseCode × String) := []
  deriving Inhabited

/-- What carries the streams of a session. -/
inductive Carrier where
  /-- A script. -/
  | scripted (script : Script)
  /-- One of two multiplexed sessions which are joined to each other. -/
  | joined (session : Mux.Session) (other : Nat)

/-- Where connecting to the tunnel server leads. -/
inductive Gateway where
  /-- To sessions which are fixed beforehand, or failures; afterwards connections are refused. -/
  | scripted (upcoming : List (Except Error Script))
  /-- To the tunnel server of the scenario; each end has its keystream and sees the address of the
  other one. -/
  | server (near far : Option Keystream) (clientAddress serverAddress : Net.SocketAddress)

/-- What is known of a host. -/
structure Host where
  /-- The destinations which are reached directly. -/
  direct : List (String × Destination) := []
  /-- The destinations which are reached through a tunnel without a client. -/
  proxy : List (String × Destination) := []
  /-- The tunnel client. -/
  client : Option Tunnel.Client := none
  /-- The tunnel server. -/
  server : Option Tunnel.Server := none
  /-- Who judges tunnel clients. -/
  judge : Tunnel.Judge := .acceptAll
  /-- The connections which were asked for, most recent first. -/
  dialed : List Acl.Route := []
  /-- What the observer was told, most recent first. -/
  observations : List Observation := []
  /-- The clients which were judged, most recent first. -/
  judged : List (Net.SocketAddress × Bytes × Rate) := []
  /-- The rates at which sessions were to be paced, most recent first. -/
  paced : List UInt64 := []

/-- What a task does. -/
inductive Activity (α : Type) where
  /-- Run a program. -/
  | running (program : Program α)
  /-- Copy bytes between two streams, and then go on. -/
  | relaying (near far : StreamRef) (relay : Relay) (next : Except Error Unit → Program α)
  /-- Ask the tunnel client for a stream, and then go on. -/
  | dialing (inner : Program (Except Error StreamRef × Option SessionRef))
      (next : Except Error StreamRef → Program α)
  /-- Serve the streams of a session, and then go on. -/
  | serving (server : Tunnel.Server) (session : SessionRef) (peer : Net.SocketAddress)
      (token : Bytes) (next : Program α)
  /-- Nothing any more. -/
  | finished (value : α)

/-- How an activity ended, if it did. -/
def Activity.result? {α : Type} : Activity α → Option α
  | .finished value => some value
  | _ => none

/-- What goes on in the background: a session of the tunnel server, or one of its streams. -/
structure Task where
  /-- The session a stream of which is served. -/
  session : Option SessionRef := none
  /-- What is done. -/
  activity : Activity (Except Error Unit)

end Scenario

open Scenario in
/-- The state of a scenario. -/
structure Scenario where
  /-- The connections. -/
  connections : Array Endpoint := #[]
  /-- The sessions. -/
  sessions : Array Carrier := #[]
  /-- The host of the front-end. -/
  front : Host := {}
  /-- The host of the tunnel server. -/
  server : Host := {}
  /-- Where connecting to the tunnel server leads. -/
  gateway : Gateway := .scripted []
  /-- The sessions to which connecting has led, most recent first; there are none for failures. -/
  connects : List (Option Nat) := []
  /-- The session which the tunnel client keeps. -/
  kept : Option SessionRef := none
  /-- What goes on in the background; at the tunnel server each session begins a task. -/
  tasks : Array Task := #[]

namespace Scenario

/-- A host. -/
def host (scenario : Scenario) : Side → Host
  | .front => scenario.front
  | .server => scenario.server

/-- Change what is known of a host. -/
def modifyHost (scenario : Scenario) (side : Side) (change : Host → Host) : Scenario :=
  match side with
  | .front => { scenario with front := change scenario.front }
  | .server => { scenario with server := change scenario.server }

/-- Add a connection; its number comes first. -/
def addConnection (scenario : Scenario) (endpoint : Endpoint) : Nat × Scenario :=
  (scenario.connections.size,
    { scenario with connections := scenario.connections.push endpoint })

/-- Add a session with given streams. -/
def addScript (scenario : Scenario) (script : Script) :
    List (Except Error Endpoint) → Script × Scenario
  | [] => (script, scenario)
  | .error error :: rest =>
      scenario.addScript { script with upcoming := script.upcoming ++ [.error error] } rest
  | .ok endpoint :: rest =>
      let (number, scenario) := scenario.addConnection endpoint
      scenario.addScript
        { script with
          streams := script.streams ++ [number]
          upcoming := script.upcoming ++ [.ok number] }
        rest

/-- Add destinations; those which are streams come with an endpoint. -/
def addDestinations (scenario : Scenario) :
    List (String × Except Destination Endpoint) → List (String × Destination) × Scenario
  | [] => ([], scenario)
  | (name, place) :: rest =>
      let (destination, scenario) :=
        match place with
        | .error destination => (destination, scenario)
        | .ok endpoint =>
            let (number, scenario) := scenario.addConnection endpoint
            (.connection number, scenario)
      let (destinations, scenario) := scenario.addDestinations rest
      ((name, destination) :: destinations, scenario)

/-- A connection. -/
def connection (scenario : Scenario) (number : Nat) : Endpoint :=
  scenario.connections.getD number {}

/-- The connections behind destinations. -/
def connectionsOf (scenario : Scenario) (destinations : List (String × Destination)) :
    List (Option Endpoint) :=
  destinations.map fun (_, destination) =>
    match destination with
    | .connection number => some (scenario.connection number)
    | _ => none

/-- Do something to a connection. -/
def onConnection {α : Type} (scenario : Scenario) (number : Nat)
    (action : Endpoint → α × Endpoint) : α × Scenario :=
  let (result, endpoint) := action (scenario.connection number)
  (result, { scenario with connections := scenario.connections.setIfInBounds number endpoint })

/-- Replace a session. -/
def setSession (scenario : Scenario) (number : Nat) (carrier : Carrier) : Scenario :=
  { scenario with sessions := scenario.sessions.setIfInBounds number carrier }

/-- Do something to a multiplexed session; for every other session nothing happens. -/
def onSession {α : Type} (scenario : Scenario) (number : Nat) (otherwise : α)
    (action : Mux.Session → α × Mux.Session) : α × Scenario :=
  match scenario.sessions[number]? with
  | some (.joined session other) =>
      let (result, session) := action session
      (result, scenario.setSession number (.joined session other))
  | _ => (otherwise, scenario)

end Scenario
end TunnelProxy
