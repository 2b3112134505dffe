import TunnelProxy.IoError
import TunnelProxy.Text.Utf8

/-!
# Complete transfers

A single write may take fewer bytes than it is offered.  Writing all of them means to write again
and again, as long as each write takes something.
-/

namespace TunnelProxy

/-- Write all bytes with writes which change a state and tell how many bytes they took.  A write
which takes nothing ends the attempt.  There is no answer once a write is interrupted, because it
would be repeated in the same state for ever. -/
def sendAll {State : Type} (write : State → Bytes → Except IoError Nat × State)
    (state : State) (bytes : Bytes) : Option (Except IoError Unit × State) :=
  if _ : bytes = [] then some (.ok (), state)
  else
    match write state bytes with
    | (.error error, after) =>
        if error.kind = .interrupted then none else some (.error error, after)
    | (.ok count, after) =>
        if _ : 0 < count then sendAll write after (bytes.drop count)
        else some (.error .stuck, after)
termination_by bytes.length
decreasing_by
  have := List.length_pos_iff.mpr ‹¬bytes = []›
  simp only [List.length_drop]
  omega

end TunnelProxy
