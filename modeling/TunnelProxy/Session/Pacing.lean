/-!
# Pacing

A session delays its outgoing bytes so that it keeps to a rate.  Tokens are bytes which may leave
at once; they come back with time, up to a quarter of a second of traffic but at least 64 KiB.
-/

namespace TunnelProxy

/-- How the outgoing bytes of a session are paced. -/
inductive Pacing where
  /-- Never wait. -/
  | unpaced
  /-- Keep to a rate. -/
  | fixedRate (bps : Rat) (tokens : Rat)
  deriving DecidableEq, Inhabited

/-- A choice of pacing which does not depend on the rate of a particular session. -/
inductive PacingPolicy where
  /-- Leave pacing to the connection. -/
  | transportDefault
  /-- Keep to the negotiated rate. -/
  | fixedRate
  deriving DecidableEq, Inhabited

namespace Pacing

/-- The most tokens which are held at a rate. -/
def burst (bps : Rat) : Rat :=
  if bps / 4 ≤ 65536 then 65536 else bps / 4

/-- The delay in seconds before `bytes` may leave, if `elapsed` seconds have passed since the last
call, and the state after it.  A rate of zero means not to wait. -/
def onSend (pacing : Pacing) (elapsed : Rat) (bytes : Nat) : Rat × Pacing :=
  match pacing with
  | unpaced => (0, unpaced)
  | fixedRate bps tokens =>
      if bps ≤ 0 then (0, pacing)
      else
        let held := tokens + elapsed * bps
        let left := (if held ≤ burst bps then held else burst bps) - bytes
        (if 0 ≤ left then 0 else -left / bps, fixedRate bps left)

/-- The delays of writes which follow each other at once. -/
def delays (pacing : Pacing) : List Nat → List Rat
  | [] => []
  | bytes :: rest =>
      let (delay, pacing) := pacing.onSend 0 bytes
      delay :: pacing.delays rest

end Pacing

namespace PacingPolicy

/-- The name of a policy. -/
def name : PacingPolicy → String
  | transportDefault => "TransportDefault"
  | fixedRate => "FixedRateFactory"

/-- The pacing of a session with a rate in bytes per second. -/
def pacing (policy : PacingPolicy) (bps : UInt64) : Pacing :=
  match policy with
  | transportDefault => .unpaced
  | fixedRate => .fixedRate bps.toNat (Pacing.burst bps.toNat)

end PacingPolicy
end TunnelProxy
