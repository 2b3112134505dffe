import TunnelProxy.Scenario.Request

/-!
# Running programs in a scenario

One program runs in the foreground, and the sessions of the tunnel server run in the background.
Whatever is first in this order and does not have to wait makes the next step; after each step the
bytes which joined sessions have written arrive at the other side.  A run is over when everything
waits or has ended.
-/

namespace TunnelProxy
namespace Scenario

/-- Let the bytes which a session has written arrive at the other side, and the end of its connection
after them. -/
def deliverFrom (scenario : Scenario) (number : Nat) : Scenario :=
  match scenario.sessions[number]? with
  | some (.joined session other) =>
      let (bytes, session) := session.takeOutput
      let scenario := scenario.setSession number (.joined session other)
      let reached (receiver : Mux.Session) : Mux.Session :=
        let receiver := if bytes.isEmpty then receiver else receiver.arrive bytes
        if session.link.isClosed then receiver.endOfInput else receiver
      (scenario.onSession other () fun receiver => ((), reached receiver)).2
  | _ => scenario

/-- Let everything arrive.  An arrival may end a connection, but nothing is written because of it, so
two rounds are enough. -/
def deliver (scenario : Scenario) : Scenario :=
  let numbers := List.range scenario.sessions.size
  (numbers ++ numbers).foldl deliverFrom scenario

/-- One step of an activity, if it does not have to wait. -/
def advance {α : Type} (scenario : Scenario) (side : Side) :
    Activity α → Option (Activity α × Scenario)
  | .finished _ => none
  | .running (.done value) => some (.finished value, scenario)
  | .running (.ask request next) =>
      match request, next with
      | .relay near far idle, next =>
          match scenario.prepareRelay near far idle with
          | (.ok (), scenario) =>
              some (.relaying near far { idle, activity := 0 } next, scenario)
          | (.error error, scenario) => some (.running (next (.error error)), scenario)
      | .serve session peer token, next =>
          match (scenario.host side).server with
          | some server => some (.serving server session peer token (next ()), scenario)
          | none => some (.running (next ()), scenario)
      | .dial route, next =>
          match route.way, (scenario.host side).client with
          | .proxy, some client =>
              some (.dialing (client.dial scenario.kept route.address) next, scenario)
          | _, _ =>
              let (reply, scenario) := scenario.dial side route
              some (.running (next reply), scenario)
      | request, next =>
          (scenario.perform side request).map fun (reply, scenario) =>
            (.running (next reply), scenario)
  | .relaying near far relay next =>
      match relay.result? with
      | some result => some (.running (next result), scenario)
      | none =>
          (scenario.advanceRelay near far relay).map fun (relay, scenario) =>
            (.relaying near far relay next, scenario)
  | .dialing (.done (result, kept)) next => some (.running (next result), { scenario with kept })
  | .dialing (.ask request inner) next =>
      (scenario.perform side request).map fun (reply, scenario) =>
        (.dialing (inner reply) next, scenario)
  | .serving server session peer token next =>
      match scenario.accept session none with
      | none => none
      | some (.error _, scenario) => some (.running next, scenario)
      | some (.ok stream, scenario) =>
          let program := server.handleStream peer token stream
          let task : Task :=
            { session := some session
              activity := .running (program.bind fun () => .done (.ok ())) }
          some (.serving server session peer token next,
            { scenario with tasks := scenario.tasks.push task })

/-- One step of a task in the background. -/
def advanceTask (scenario : Scenario) (number : Nat) : Option Scenario := do
  let task ← scenario.tasks[number]?
  let (activity, scenario) ← scenario.advance .server task.activity
  return { scenario with tasks := scenario.tasks.setIfInBounds number { task with activity } }

/-- One step in the background, if anything there can go on. -/
def advanceBackground (scenario : Scenario) : Option Scenario :=
  (List.range scenario.tasks.size).findSome? scenario.advanceTask

/-- Run until everything waits or has ended, but for at most a number of steps. -/
def run {α : Type} (side : Side) : Nat → Activity α → Scenario → Activity α × Scenario
  | 0, activity, scenario => (activity, scenario)
  | steps + 1, activity, scenario =>
      match scenario.advance side activity with
      | some (activity, scenario) => run side steps activity scenario.deliver
      | none =>
          match scenario.advanceBackground with
          | some scenario => run side steps activity scenario.deliver
          | none => (activity, scenario)

/-- The most steps of a run. -/
def stepLimit : Nat := 10000000

/-- Run a program and wait for the background.  There is no result if the program waits for ever. -/
def execute {α : Type} (scenario : Scenario) (side : Side) (program : Program α) :
    Option α × Scenario :=
  let (activity, scenario) := run side stepLimit (.running program) scenario
  (activity.result?, scenario)

/-- Let the background go on as far as it can. -/
def settle (scenario : Scenario) : Scenario :=
  (scenario.deliver.execute .front (.done ())).2

/-- Let the tunnel client make a session at once, and keep it. -/
def establish (scenario : Scenario) (client : Tunnel.Client) :
    Option (Except Error Unit) × Scenario :=
  let (result, scenario) := scenario.execute .front client.establish.run
  match result with
  | some (.ok session) => (some (.ok ()), { scenario with kept := some session })
  | some (.error error) => (some (.error error), scenario)
  | none => (none, scenario)

/-- Let the tunnel client connect to a destination. -/
def dialThrough (scenario : Scenario) (client : Tunnel.Client) (target : Net.Address) :
    Option (Except Error StreamRef) × Scenario :=
  let (result, scenario) := scenario.execute .front (client.dial scenario.kept target)
  match result with
  | some (dialed, kept) => (some dialed, { scenario with kept })
  | none => (none, scenario)

/-- Give the tunnel client up. -/
def finishClient (scenario : Scenario) : Scenario :=
  { (scenario.execute .front (Tunnel.Client.finish scenario.kept)).2 with kept := none }

end Scenario
end TunnelProxy
