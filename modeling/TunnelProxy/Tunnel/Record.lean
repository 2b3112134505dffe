import TunnelProxy.Wire.Reader

/-!
# Tunnel records

The greetings of a tunnel session and the request and answer with which each of its streams
begins.  All numbers are big endian; texts and tokens follow their length of two bytes.
-/

namespace TunnelProxy
namespace Tunnel

open Wire (Reader)

/-- The version byte of a client's greeting. -/
def version : UInt8 := 1

/-- The greeting of a client. -/
structure ClientHello where
  /-- The rates the client asks for. -/
  rate : Rate
  /-- The token by which the client authenticates itself. -/
  token : Bytes
  deriving DecidableEq, Inhabited

/-- The greeting of a server. -/
structure ServerHello where
  /-- Whether the client is let in. -/
  accepted : Bool
  /-- The rates the server will use. -/
  rate : Rate
  /-- A text for the user of the client. -/
  message : String
  deriving DecidableEq, Inhabited

/-- What a client wants a stream for. -/
structure StreamRequest where
  /-- Whether datagrams are to be relayed. -/
  datagrams : Bool
  /-- The text of the destination. -/
  address : String
  deriving DecidableEq, Inhabited

/-- The server's answer to a stream request. -/
structure StreamResponse where
  /-- Whether the destination has been reached. -/
  accepted : Bool
  /-- Why not. -/
  message : String
  deriving DecidableEq, Inhabited

/-- Read the two rates of a greeting. -/
def rate : Reader Rate := do
  let send ← Reader.word64
  let recv ← Reader.word64
  return ⟨send, recv⟩

/-- The two rates of a greeting in bytes. -/
def rateLayout (rate : Rate) : Bytes := Wire.word64 rate.send ++ Wire.word64 rate.recv

namespace ClientHello

/-- Read a client's greeting. -/
def reader : Reader ClientHello := do
  let code ← Reader.byte
  if code = version then
    let rate ← Tunnel.rate
    return ⟨rate, ← Reader.long⟩
  else
    Reader.fail (.unsupportedVersion code)

/-- A client's greeting in bytes. -/
def layout (hello : ClientHello) : Except Error Bytes := do
  return version :: rateLayout hello.rate ++ (← Wire.long hello.token)

end ClientHello

namespace ServerHello

/-- Read a server's greeting. -/
def reader : Reader ServerHello := do
  let accepted ← Reader.bool
  let rate ← Tunnel.rate
  return ⟨accepted, rate, ← Reader.longText⟩

/-- A server's greeting in bytes. -/
def layout (hello : ServerHello) : Except Error Bytes := do
  return Wire.bool hello.accepted ++ rateLayout hello.rate ++
    (← Wire.long (Text.Utf8.encode hello.message))

end ServerHello

namespace StreamRequest

/-- A request for a connection to a destination. -/
def connection (target : Net.Address) : StreamRequest := ⟨false, target.text⟩

/-- Read a stream request. -/
def reader : Reader StreamRequest := do
  let datagrams ← Reader.bool
  return ⟨datagrams, ← Reader.longText⟩

/-- A stream request in bytes. -/
def layout (request : StreamRequest) : Except Error Bytes := do
  return Wire.bool request.datagrams ++ (← Wire.long (Text.Utf8.encode request.address))

end StreamRequest

namespace StreamResponse

/-- The answer for a destination which has been reached. -/
def granted : StreamResponse := ⟨true, ""⟩

/-- The answer for a destination which has not been reached. -/
def refused (message : String) : StreamResponse := ⟨false, message⟩

/-- Read an answer to a stream request. -/
def reader : Reader StreamResponse := do
  let accepted ← Reader.bool
  return ⟨accepted, ← Reader.longText⟩

/-- An answer to a stream request in bytes. -/
def layout (response : StreamResponse) : Except Error Bytes := do
  return Wire.bool response.accepted ++ (← Wire.long (Text.Utf8.encode response.message))

end StreamResponse
end Tunnel
end TunnelProxy
