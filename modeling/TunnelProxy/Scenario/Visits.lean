import TunnelProxy.Service.Loop

/-!
# Visits to a service

A list of connections, of which it is known how their sessions will end, makes a service run from its
first command to its end.  The request to terminate comes when every session which can be started has
begun.
-/

namespace TunnelProxy
namespace Service

/-- How the session of a connection ends. -/
inductive Course where
  /-- By itself. -/
  | ends (ending : Ending)
  /-- When it is interrupted. -/
  | blocks
  /-- It can not be started. -/
  | unstartable
  deriving DecidableEq, Inhabited

/-- A connection to a service. -/
structure Visit where
  /-- Where it comes from. -/
  peer : Net.SocketAddress
  /-- How its session ends. -/
  course : Course
  deriving DecidableEq, Inhabited

/-- Let the sessions end which do so by themselves or have been interrupted. -/
def letEnd (service : Service) (visits : Array Visit) : Service :=
  (List.range service.started.size).foldl
    (fun service place =>
      match service.started[place]? with
      | none => service
      | some session =>
          match (visits[session.connection]?).map Visit.course with
          | some (.ends ending) => service.finish place ending
          | some .blocks => if 0 < session.interrupts then service.finish place .regular else service
          | _ => service)
    service

/-- What comes of starting the session of the connection which is next. -/
def launch (visits : Array Visit) (service : Service) : Launch :=
  match service.queue with
  | .connect connection _ :: _ =>
      match (visits[connection]?).map Visit.course with
      | some .unstartable => .uninterruptible
      | _ => .running
  | _ => .running

/-- One step of the loop, after which sessions end and the acceptor follows its orders.  Sessions are
numbered in order. -/
def visitStep (visits : Array Visit) (service : Service) : Option Service :=
  let choice : Choice :=
    { candidates := [UInt32.ofNat (service.started.size + 1)], launch := service.launch visits }
  (service.step choice).map fun service =>
    { service.letEnd visits with acceptorEnded := service.acceptorTold }

/-- Go on until the loop waits or is over, but for at most a number of steps. -/
def visitRun (visits : Array Visit) : Nat → Service → Service
  | 0, service => service
  | steps + 1, service =>
      match visitStep visits service with
      | some service => visitRun visits steps service
      | none => service

/-- Serve visits, after some commands about sessions which do not exist.  Nothing is served if there
can be no listener. -/
def serveVisits (failure : Option Error) (visits : List Visit) (disconnects : List UInt32) :
    Except Error Unit × Service :=
  let commands :=
    disconnects.map Command.disconnect ++
      visits.zipIdx.map (fun (visit, connection) => .connect connection visit.peer) ++
      [.terminate]
  match failure with
  | some error => (.error error, {})
  | none => (.ok (), visitRun visits.toArray (4 * commands.length + 4) { queue := commands })

/-- The connections of the sessions which ended because they were interrupted, in order. -/
def interrupted (service : Service) (visits : List Visit) : List Nat :=
  service.started.toList.filterMap fun session =>
    match visits[session.connection]? with
    | some ⟨_, .blocks⟩ => if 0 < session.interrupts then some session.connection else none
    | _ => none

end Service
end TunnelProxy
