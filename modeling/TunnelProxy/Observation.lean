import TunnelProxy.Acl.Action

/-!
# Observation of requests

Two hooks accompany each request: one when it has been decided what to do with it, and one when it
is over.  The log is the standard observer.
-/

namespace TunnelProxy

/-- What is known about a request when the hooks fire. -/
structure RequestInfo where
  /-- Who asks. -/
  peer : Net.SocketAddress
  /-- The token of the tunnel session; there is none at the SOCKS front-end. -/
  token : Option Bytes
  /-- The destination as the client spelled it. -/
  address : String
  deriving DecidableEq, Inhabited

/-- A firing of a hook. -/
inductive Observation where
  /-- The decision is known and has not been acted on. -/
  | request (info : RequestInfo) (decision : Acl.Decision)
  /-- The request is over, perhaps with a failure. -/
  | finished (info : RequestInfo) (failure : Option Error)
  deriving DecidableEq, Inhabited

/-- Importance of a line in the log. -/
inductive LogLevel where
  /-- The ordinary course of events. -/
  | info
  /-- Something to look at. -/
  | warn
  deriving DecidableEq, Inhabited

namespace LogLevel

/-- The text of a level. -/
def text : LogLevel → String
  | info => "INFO"
  | warn => "WARN"

end LogLevel

namespace RequestInfo

/-- Who wants to go where. -/
def text (info : RequestInfo) : String :=
  s!"{info.peer.text} -> {info.address}"

end RequestInfo

namespace Observation

/-- The line of an observation in the log.  An idle relay is an ordinary end. -/
def logLine : Observation → LogLevel × String
  | request info decision => (.info, s!"request: {info.text}: {decision.text}")
  | finished info none => (.info, s!"closed: {info.text}")
  | finished info (some .idleTimeout) => (.info, s!"closed: {info.text}: idle timeout")
  | finished info (some failure) => (.warn, s!"closed: {info.text}: {failure.message}")

end Observation
end TunnelProxy
