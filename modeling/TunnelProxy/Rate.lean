/-!
# Transmission rates

Rates are bytes per second, seen from the sender of a message.  A server turns the rates a client
asks for into its own, bounded by a ceiling for each direction.
-/

namespace TunnelProxy

/-- Bytes per second in both directions. -/
structure Rate where
  /-- Rate of sending. -/
  send : UInt64
  /-- Rate of receiving. -/
  recv : UInt64
  deriving DecidableEq, Inhabited

/-- Upper bounds of a rate; an absent or zero bound does not restrict. -/
structure RateCeiling where
  /-- Bound of the rate of sending. -/
  send : Option UInt64 := none
  /-- Bound of the rate of receiving. -/
  recv : Option UInt64 := none
  deriving DecidableEq, Inhabited

namespace Rate

/-- The text of a rate. -/
def text (rate : Rate) : String :=
  s!"send {rate.send.toNat} B/s, recv {rate.recv.toNat} B/s"

/-- Restrict a rate of one direction. -/
def cap (bps : UInt64) : Option UInt64 → UInt64
  | some limit => if 0 < limit then min bps limit else bps
  | none => bps

/-- The server's own rates for a client which asks for `rate`: it sends what the client receives
and receives what the client sends.  A client which asks for no traffic at all in a direction is
refused. -/
def negotiate? (rate : Rate) (ceiling : RateCeiling) : Option Rate :=
  if rate.send = 0 ∨ rate.recv = 0 then none
  else some { send := cap rate.recv ceiling.send, recv := cap rate.send ceiling.recv }

end Rate
end TunnelProxy
