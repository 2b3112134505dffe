import TunnelProxy.Scenario.Run

/-!
# Users of a tunnel client

A user makes a tunnel client, connects with it to destinations, reads and writes on the stream which
was dialed last, and gives the client up.  What can not be done without a client or a stream has no
answer.
-/

namespace TunnelProxy
namespace Scenario

/-- A user and the scenario around it. -/
structure Dialing where
  /-- The settings of the tunnel client. -/
  client : Tunnel.Client
  /-- Whether there is a client. -/
  present : Bool := false
  /-- The stream which was dialed last. -/
  stream : Option StreamRef := none
  /-- The scenario. -/
  scenario : Scenario

namespace Dialing

/-- Give the client up. -/
def drop (user : Dialing) : Option (Except Error Unit) × Dialing :=
  if user.present then
    (some (.ok ()), { user with present := false, scenario := user.scenario.finishClient })
  else (none, user)

/-- Make a client which has no session yet, in place of the one there may be. -/
def renew (user : Dialing) : Option (Except Error Unit) × Dialing :=
  (some (.ok ()), { user.drop.2 with present := true })

/-- Make a client with a session.  If that fails there is none afterwards. -/
def connect (user : Dialing) : Option (Except Error Unit) × Dialing :=
  let user := user.drop.2
  let (result, scenario) := user.scenario.establish user.client
  (result, { user with scenario, present := result.any fun result => result.isOk })

/-- Mark the last session to which connecting has led as closed. -/
def kill (user : Dialing) : Option (Except Error Unit) × Dialing :=
  match user.scenario.connects.findSome? id with
  | some number => (some (.ok ()), { user with scenario := user.scenario.kill ⟨number⟩ })
  | none => (none, user)

/-- Connect to a destination. -/
def dial (user : Dialing) (target : Except Error Net.Address) :
    Option (Except Error Unit) × Dialing :=
  match user.present, target with
  | false, _ => (none, user)
  | true, .error error => (some (.error error), user)
  | true, .ok target =>
      match user.scenario.dialThrough user.client target with
      | (some (.ok stream), scenario) => (some (.ok ()), { user with scenario, stream })
      | (some (.error error), scenario) => (some (.error error), { user with scenario })
      | (none, scenario) => (none, { user with scenario })

/-- Read from the stream which was dialed last. -/
def read (user : Dialing) (count : Nat) : Option (Except IoError Bytes) × Dialing :=
  match user.stream with
  | none => (none, user)
  | some stream =>
      match user.scenario.read stream count with
      | some (result, scenario) => (some result, { user with scenario })
      | none => (none, user)

/-- Write once to the stream which was dialed last. -/
def write (user : Dialing) (bytes : Bytes) : Option (Except IoError Nat) × Dialing :=
  match user.stream with
  | none => (none, user)
  | some stream =>
      let (result, scenario) := user.scenario.write stream bytes
      (some result, { user with scenario })

end Dialing
end Scenario
end TunnelProxy
