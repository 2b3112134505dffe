import TunnelProxy.Wire.Reader

/-!
# SOCKS messages

The messages of a SOCKS conversation, the form in which addresses stand in them, and their layout
in bytes.  Every message has a layout function and, where it is received, a reader.
-/

namespace TunnelProxy
namespace Socks

open Wire (Reader)

/-- The bytes which a client offers as authentication methods. -/
structure MethodOffer where
  /-- Version byte of the message. -/
  version : UInt8
  /-- The methods in the order of the message. -/
  methods : List Method
  deriving DecidableEq, Inhabited

/-- The method which the front-end chose. -/
structure MethodChoice where
  /-- Version byte of the message. -/
  version : UInt8
  /-- The chosen method. -/
  method : Method
  deriving DecidableEq, Inhabited

/-- A username and a password. -/
structure Credentials where
  /-- Name of the user. -/
  username : String
  /-- Password of the user. -/
  password : String
  deriving DecidableEq, Inhabited

/-- What a client asks for after authentication. -/
structure Request where
  /-- Version byte of the message. -/
  version : UInt8
  /-- What to do. -/
  command : Command
  /-- Where to connect to. -/
  target : Net.Address
  deriving DecidableEq, Inhabited

/-- The answer to a request. -/
structure Reply where
  /-- Version byte of the message. -/
  version : UInt8
  /-- What became of the request. -/
  outcome : Outcome
  /-- The address which the server uses for the client. -/
  bound : Net.Address
  deriving DecidableEq, Inhabited

namespace Request

/-- A request of the announced version. -/
def ofCommand (command : Command) (target : Net.Address) : Request :=
  ⟨Socks.version, command, target⟩

end Request

namespace Reply

/-- Replies always tell the bound address `0.0.0.0:0`. -/
def ofOutcome (outcome : Outcome) : Reply :=
  ⟨Socks.version, outcome, .ip (.v4 .unspecified) 0⟩

end Reply

/-- A host as it stands in a message. -/
inductive HostField where
  /-- The octets of an IP address. -/
  | ip (address : Net.IpAddr)
  /-- The bytes of a domain. -/
  | domain (name : Bytes)
  deriving DecidableEq, Inhabited

/-- A destination as it stands in a message. -/
structure AddressField where
  /-- The announced form. -/
  type : AddressType
  /-- The host. -/
  host : HostField
  /-- The port. -/
  port : UInt16
  deriving DecidableEq, Inhabited

namespace HostField

/-- The text which shows a host in a failure. -/
def describe : HostField → String
  | ip address => s!"IpAddr({address.text})"
  | domain name =>
      let numbers := ", ".intercalate (name.map fun byte => toString byte.toNat)
      s!"Domain([{numbers}])"

end HostField

namespace AddressField

/-- The destination meant by a field, whose announced form has to be that of its host.  The bytes
of a domain are read as text, and never as an IP address. -/
def toAddress (field : AddressField) : Except Error Net.Address :=
  match field.type, field.host with
  | .v4, .ip (.v4 host) => .ok (.ip (.v4 host) field.port)
  | .v6, .ip (.v6 host) => .ok (.ip (.v6 host) field.port)
  | .domain, .domain name => .ok (.domain (Text.Utf8.decode name) field.port)
  | _, _ =>
      let shown := s!"{field.type.name}, {field.host.describe}, {field.port.toNat}"
      .error (.messageFormat s!"try_from address({shown})")

/-- The field which stands for a destination. -/
def ofAddress : Net.Address → AddressField
  | .ip (.v4 host) port => ⟨.v4, .ip (.v4 host), port⟩
  | .ip (.v6 host) port => ⟨.v6, .ip (.v6 host), port⟩
  | .domain name port => ⟨.domain, .domain (Text.Utf8.encode name), port⟩

/-- Form, host and port of a field in bytes; a domain must not be too long. -/
def layout (field : AddressField) : Except Error Bytes := do
  let host ←
    match field.host with
    | .ip address => pure address.octets
    | .domain name => Wire.short name
  return field.type.byte :: host ++ Wire.word16 field.port

end AddressField

/-- Read a reserved byte, which has to be zero. -/
def reserved : Reader Unit := do
  let code ← Reader.byte
  if code = 0 then return ()
  else Reader.fail (.messageFormat s!"value of rsv is not 0({code.toNat})")

/-- Read a command number. -/
def command : Reader Command := do
  let code ← Reader.byte
  match Command.ofByte? code with
  | some command => return command
  | none => Reader.fail (.unknownCommand code)

/-- Read the form of an address. -/
def addressType : Reader AddressType := do
  let code ← Reader.byte
  match AddressType.ofByte? code with
  | some type => return type
  | none => Reader.fail (.messageFormat (unknownByte "AddrType" code))

/-- Read a host of a known form. -/
def hostField : AddressType → Reader HostField
  | .v4 => do
      match ← Reader.bytes 4 with
      | [a, b, c, d] => return .ip (.v4 ⟨a, b, c, d⟩)
      | _ => Reader.fail (.io .truncated)
  | .v6 => do
      let octets ← Reader.bytes 16
      match Net.Ipv6.ofOctets? octets with
      | some host => return .ip (.v6 host)
      | none => Reader.fail (.io .truncated)
  | .domain => do return .domain (← Reader.short)

/-- Read form, host and port of a destination. -/
def addressField : Reader AddressField := do
  let type ← addressType
  let host ← hostField type
  let port ← Reader.word16
  return ⟨type, host, port⟩

namespace MethodOffer

/-- Read an offer. -/
def reader : Reader MethodOffer := do
  let version ← Reader.byte
  let codes ← Reader.short
  return ⟨version, codes.map Method.ofByte⟩

/-- An offer in bytes. -/
def layout (offer : MethodOffer) : Except Error Bytes := do
  return offer.version :: (← Wire.short (offer.methods.map Method.byte))

end MethodOffer

namespace MethodChoice

/-- A choice in bytes. -/
def layout (choice : MethodChoice) : Bytes := [choice.version, choice.method.byte]

end MethodChoice

namespace Credentials

/-- The version of the username and password negotiation. -/
def version : UInt8 := 1

/-- Read a username and a password. -/
def reader : Reader Credentials := do
  let code ← Reader.byte
  if code = version then
    let username ← Reader.short
    let password ← Reader.short
    return ⟨Text.Utf8.decode username, Text.Utf8.decode password⟩
  else
    Reader.fail (.messageFormat s!"unsupported username/password version: {code.toNat}")

/-- The verdict on credentials in bytes. -/
def verdict (accepted : Bool) : Bytes := [version, if accepted then 0 else 1]

end Credentials

namespace Request

/-- Read a request. -/
def reader : Reader Request := do
  let version ← Reader.byte
  let command ← Socks.command
  Socks.reserved
  let field ← addressField
  return ⟨version, command, ← Reader.ofExcept field.toAddress⟩

/-- A request in bytes. -/
def layout (request : Request) : Except Error Bytes := do
  return [request.version, request.command.byte, 0] ++
    (← (AddressField.ofAddress request.target).layout)

end Request

namespace Reply

/-- Read a reply. -/
def reader : Reader Reply := do
  let version ← Reader.byte
  let code ← Reader.byte
  match Outcome.ofByte? code with
  | none => Reader.fail (.messageFormat (unknownByte "ResponseCode" code))
  | some outcome =>
      Socks.reserved
      let field ← addressField
      return ⟨version, outcome, ← Reader.ofExcept field.toAddress⟩

/-- A reply in bytes. -/
def layout (reply : Reply) : Except Error Bytes := do
  return [reply.version, reply.outcome.byte, 0] ++
    (← (AddressField.ofAddress reply.bound).layout)

end Reply
end Socks
end TunnelProxy
