import TunnelProxy.Net.SocketAddress
import TunnelProxy.Obfuscation.Keystream

/-!
# Obfuscated datagrams

Every datagram is obfuscated from the start of the keystream, so that a lost datagram does not
spoil the ones after it.
-/

namespace TunnelProxy

/-- A datagram and the address it came from or goes to. -/
structure Datagram where
  /-- The bytes of the datagram. -/
  payload : Bytes
  /-- The other side. -/
  peer : Net.SocketAddress
  deriving DecidableEq, Inhabited

/-- A socket which takes at most a number of bytes of each datagram. -/
structure DatagramSocket where
  /-- Datagrams which have arrived and have not been read, in order. -/
  inbox : List Datagram := []
  /-- The most bytes which are sent of one datagram. -/
  limit : Option Nat := none
  /-- Datagrams which were sent, most recent first. -/
  sent : List Datagram := []
  deriving DecidableEq, Inhabited

namespace DatagramSocket

/-- Send a datagram through the keystream.  The answer is the number of bytes sent. -/
def send (socket : DatagramSocket) (keystream : Keystream) (datagram : Datagram) :
    Nat × DatagramSocket :=
  let masked := keystream.apply 0 datagram.payload
  let taken := masked.take (socket.limit.getD masked.length)
  (taken.length, { socket with sent := ⟨taken, datagram.peer⟩ :: socket.sent })

/-- Read one datagram through the keystream into a buffer of `capacity` bytes; what does not fit
is lost.  An empty socket has to be tried again later. -/
def receive (socket : DatagramSocket) (keystream : Keystream) (capacity : Nat) :
    Except Error Datagram × DatagramSocket :=
  match socket.inbox with
  | [] => (.error (.ofKind .wouldBlock), socket)
  | datagram :: rest =>
      (.ok ⟨keystream.apply 0 (datagram.payload.take capacity), datagram.peer⟩,
        { socket with inbox := rest })

end DatagramSocket
end TunnelProxy
