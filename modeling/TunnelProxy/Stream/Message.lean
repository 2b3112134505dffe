import TunnelProxy.Stream.Endpoint
import TunnelProxy.Wire.Reader

/-!
# Messages on an endpoint

A reader takes the bytes it asks for from an endpoint, in whatever pieces they arrive, and leaves
the rest for later.  A message which has no layout is not sent at all.
-/

namespace TunnelProxy
namespace Endpoint

open Wire (Reader)

/-- Read a message.  There is no answer while bytes are missing which may still arrive. -/
def receiveMessage {α : Type} :
    Reader α → Endpoint → Option (Except Error α × Endpoint)
  | .done value, endpoint => some (.ok value, endpoint)
  | .fail error, endpoint => some (.error error, endpoint)
  | .take count next, endpoint =>
      match endpoint.receive count with
      | none => none
      | some (.error error, after) => some (.error (.io error), after)
      | some (.ok bytes, after) => receiveMessage (next bytes) after

/-- Send a message with a layout. -/
def sendMessage (layout : Except Error Bytes) (endpoint : Endpoint) :
    Option (Except Error Unit × Endpoint) :=
  match layout with
  | .error error => some (.error error, endpoint)
  | .ok bytes => (endpoint.send bytes).map fun (result, after) => (result.mapError Error.io, after)

end Endpoint
end TunnelProxy
