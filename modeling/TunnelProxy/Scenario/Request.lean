import TunnelProxy.Scenario.Stream

/-!
# Requests in a scenario

Each request of a program is answered by the scenario, which remembers what later reports show.
There is no answer while a program has to wait.
-/

namespace TunnelProxy
namespace Scenario

/-- The failure of a session which is over. -/
def sessionOver (reason : String) : Error := .sessionClosed .generic reason

/-- Connect to a destination with a known place. -/
def dial (scenario : Scenario) (side : Side) (route : Acl.Route) :
    Except Error StreamRef × Scenario :=
  let host := scenario.host side
  let places :=
    match route.way with
    | .direct => host.direct
    | .proxy => host.proxy
  let result :=
    match places.find? fun place => place.1 = route.address.text with
    | some (_, .connection number) => .ok (.connection number)
    | some (_, .refused) => .error (.connectionRefused route.address)
    | some (_, .rejected) => .error (.streamRejected "unreachable")
    | some (_, .failed kind) => .error (.ofKind kind)
    | none => .error (.io ⟨.other, s!"no route to {route.address.text}"⟩)
  (result, scenario.modifyHost side fun host => { host with dialed := route :: host.dialed })

/-- Add two joined sessions and the task which serves the second one. -/
def join (scenario : Scenario) (server : Tunnel.Server) (near far : Option Keystream)
    (clientAddress serverAddress : Net.SocketAddress) : SessionRef × Scenario :=
  let number := scenario.sessions.size
  let program := server.handle ⟨number + 1⟩ clientAddress
  (⟨number⟩,
    { scenario with
      sessions := scenario.sessions
        |>.push (.joined (.start serverAddress true near) (number + 1))
        |>.push (.joined (.start clientAddress false far) number)
      connects := some number :: scenario.connects
      tasks := scenario.tasks.push { activity := .running program.run } })

/-- Connect to the tunnel server. -/
def connect (scenario : Scenario) : Except Error SessionRef × Scenario :=
  match scenario.gateway, scenario.server.server with
  | .scripted (.ok script :: upcoming), _ =>
      (.ok ⟨scenario.sessions.size⟩,
        { scenario with
          sessions := scenario.sessions.push (.scripted script)
          gateway := .scripted upcoming
          connects := some scenario.sessions.size :: scenario.connects })
  | .scripted (.error error :: upcoming), _ =>
      (.error error,
        { scenario with gateway := .scripted upcoming, connects := none :: scenario.connects })
  | .server near far clientAddress serverAddress, some server =>
      let (session, scenario) := scenario.join server near far clientAddress serverAddress
      (.ok session, scenario)
  | _, _ =>
      (.error (.ofKind .connectionRefused), { scenario with connects := none :: scenario.connects })

/-- The next stream of a script. -/
def Script.next (script : Script) : Except Error StreamRef × Script :=
  match script.upcoming with
  | [] => (.error (sessionOver "end of script"), script)
  | .error error :: upcoming => (.error error, { script with upcoming })
  | .ok number :: upcoming => (.ok (.connection number), { script with upcoming })

/-- Whether a stream of a session is still being served. -/
def isServing (scenario : Scenario) (session : SessionRef) : Bool :=
  scenario.tasks.any fun task =>
    task.session = some session && task.activity.result?.isNone

/-- Take the next stream which the other side opened.  A script waits until the streams which were
accepted before have been served. -/
def accept (scenario : Scenario) (session : SessionRef) (time : Option Nat) :
    Option (Except Error StreamRef × Scenario) :=
  match scenario.sessions[session.number]? with
  | some (.scripted script) =>
      if scenario.isServing session then none
      else
        let (result, script) := script.next
        let script := { script with accepts := time :: script.accepts }
        some (result, scenario.setSession session.number (.scripted script))
  | _ =>
      settled <| scenario.onSession session.number none fun carrier =>
        let (result, carrier) := carrier.accept
        (result.map fun accepted => accepted.map (.shared session.number ·), carrier)

/-- Open a stream to the other side. -/
def openStream (scenario : Scenario) (session : SessionRef) :
    Except Error StreamRef × Scenario :=
  match scenario.sessions[session.number]? with
  | some (.scripted script) =>
      let script := { script with opens := script.opens + 1 }
      let (result, script) :=
        if script.isClosed then (.error (sessionOver "closed before"), script) else script.next
      (result, scenario.setSession session.number (.scripted script))
  | _ =>
      scenario.onSession session.number (.error (sessionOver "")) fun carrier =>
        let (result, carrier) := carrier.openStream
        (result.map (.shared session.number ·), carrier)

/-- Pace a session. -/
def pace (scenario : Scenario) (side : Side) (session : SessionRef) (bps : UInt64) :
    Except Error Unit × Scenario :=
  let scenario := scenario.modifyHost side fun host => { host with paced := bps :: host.paced }
  match scenario.sessions[session.number]? with
  | some (.scripted script) =>
      (if script.unpaced then .error (.poisoned "cc") else .ok (),
        scenario.setSession session.number (.scripted { script with paces := script.paces + 1 }))
  | _ => (.ok (), scenario)

/-- Close a session. -/
def close (scenario : Scenario) (session : SessionRef) (code : CloseCode) (reason : String) :
    Scenario :=
  match scenario.sessions[session.number]? with
  | some (.scripted script) =>
      scenario.setSession session.number
        (.scripted { script with closings := (code, reason) :: script.closings })
  | _ =>
      (scenario.onSession session.number () fun carrier => ((), carrier.close code reason)).2

/-- Whether a session has been closed. -/
def isClosed (scenario : Scenario) (session : SessionRef) : Bool :=
  match scenario.sessions[session.number]? with
  | some (.scripted script) => script.isClosed
  | some (.joined carrier _) => carrier.isClosed
  | none => true

/-- Mark a session as closed. -/
def kill (scenario : Scenario) (session : SessionRef) : Scenario :=
  match scenario.sessions[session.number]? with
  | some (.scripted script) =>
      scenario.setSession session.number (.scripted { script with isClosed := true })
  | _ => scenario.close session .generic "killed"

/-- Answer a request.  Relays and the serving of sessions are no single requests; they have no answer
here. -/
def perform (scenario : Scenario) (side : Side) :
    (request : Request) → Option (request.Reply × Scenario)
  | .limit stream time =>
      let (result, scenario) := scenario.setLimit stream time
      some (result.mapError Error.io, scenario)
  | .receive stream count deadline => scenario.receive stream count deadline
  | .send stream bytes => scenario.send stream bytes
  | .release stream => some ((), scenario.release stream)
  | .dial route => some (scenario.dial side route)
  | .relay .. => none
  | .observe observation =>
      some ((), scenario.modifyHost side fun host =>
        { host with observations := observation :: host.observations })
  | .judge peer token rate =>
      some ((scenario.host side).judge peer token rate,
        scenario.modifyHost side fun host =>
          { host with judged := (peer, token, rate) :: host.judged })
  | .connect => some scenario.connect
  | .accept session time => scenario.accept session time
  | .openStream session => some (scenario.openStream session)
  | .pace session bps => some (scenario.pace side session bps)
  | .close session code reason => some ((), scenario.close session code reason)
  | .isClosed session => some (scenario.isClosed session, scenario)
  | .serve .. => none

end Scenario
end TunnelProxy
