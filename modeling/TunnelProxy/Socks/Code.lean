import TunnelProxy.Text.Numeral

/-!
# Codes of the SOCKS protocol

Authentication methods, commands, address types and reply codes with their byte values.
-/

namespace TunnelProxy
namespace Socks

/-- The version of SOCKS which the front-end announces. -/
def version : UInt8 := 5

/-- A way of authentication. -/
inductive Method where
  /-- No authentication. -/
  | noAuth
  /-- The generic security service. -/
  | gssApi
  /-- Username and password. -/
  | userPass
  /-- A number in the assigned range. -/
  | assigned (code : UInt8)
  /-- A number in the range for private use. -/
  | reserved (code : UInt8)
  /-- No acceptable method. -/
  | noMethods
  deriving DecidableEq, Inhabited

namespace Method

/-- The method with a number. -/
def ofByte (code : UInt8) : Method :=
  if code = 0 then noAuth
  else if code = 1 then gssApi
  else if code = 2 then userPass
  else if code < 0x80 then assigned code
  else if code < 0xFF then reserved code
  else noMethods

/-- The number of a method. -/
def byte : Method → UInt8
  | noAuth => 0
  | gssApi => 1
  | userPass => 2
  | assigned code => code
  | reserved code => code
  | noMethods => 0xFF

/-- The full name of a method. -/
def name : Method → String
  | noAuth => "NoAuth"
  | gssApi => "GssApi"
  | userPass => "UserPass"
  | assigned code => s!"IANAMethod({code.toNat})"
  | reserved code => s!"Private({code.toNat})"
  | noMethods => "NoMethods"

/-- The short text of a method: its number if it has no name. -/
def text : Method → String
  | assigned code => s!"{code.toNat}"
  | reserved code => s!"{code.toNat}"
  | method => method.name

end Method

/-- What a client asks for. -/
inductive Command where
  /-- A connection to a destination. -/
  | connect
  /-- A listening socket. -/
  | bind
  /-- A relay of datagrams. -/
  | udpAssociate
  deriving DecidableEq, Inhabited

namespace Command

/-- The command with a number. -/
def ofByte? (code : UInt8) : Option Command :=
  if code = 1 then some connect
  else if code = 2 then some bind
  else if code = 3 then some udpAssociate
  else none

/-- The number of a command. -/
def byte : Command → UInt8
  | connect => 1
  | bind => 2
  | udpAssociate => 3

/-- The name of a command. -/
def name : Command → String
  | connect => "Connect"
  | bind => "Bind"
  | udpAssociate => "UdpAssociate"

end Command

/-- The form of an address in a message. -/
inductive AddressType where
  /-- Four octets. -/
  | v4
  /-- A domain with its length. -/
  | domain
  /-- Sixteen octets. -/
  | v6
  deriving DecidableEq, Inhabited

namespace AddressType

/-- The form with a number. -/
def ofByte? (code : UInt8) : Option AddressType :=
  if code = 1 then some v4
  else if code = 3 then some domain
  else if code = 4 then some v6
  else none

/-- The number of a form. -/
def byte : AddressType → UInt8
  | v4 => 1
  | domain => 3
  | v6 => 4

/-- The name of a form. -/
def name : AddressType → String
  | v4 => "V4"
  | domain => "Domain"
  | v6 => "V6"

end AddressType

/-- Why a request was not granted, as far as the client is told. -/
inductive Refusal where
  /-- A failure of the server itself. -/
  | serverFailure
  /-- Not allowed by the rules. -/
  | connectionNotAllowed
  /-- The network is unreachable. -/
  | networkUnreachable
  /-- The host is unreachable. -/
  | hostUnreachable
  /-- The destination refused the connection. -/
  | connectionRefused
  /-- A packet lived too long. -/
  | ttlExpired
  /-- The command is not supported. -/
  | commandNotSupported
  /-- The form of address is not supported. -/
  | addressTypeNotSupported
  deriving DecidableEq, Inhabited

namespace Refusal

/-- The name of a refusal. -/
def name : Refusal → String
  | serverFailure => "ServerFailure"
  | connectionNotAllowed => "ConnectionNotAllowed"
  | networkUnreachable => "NetworkUnreachable"
  | hostUnreachable => "HostUnreachable"
  | connectionRefused => "ConnectionRefused"
  | ttlExpired => "TtlExpired"
  | commandNotSupported => "CommandNotSupported"
  | addressTypeNotSupported => "AddrTypeNotSupported"

/-- All refusals. -/
def all : List Refusal :=
  [serverFailure, connectionNotAllowed, networkUnreachable, hostUnreachable, connectionRefused,
    ttlExpired, commandNotSupported, addressTypeNotSupported]

/-- The refusal with a name. -/
def ofName? (name : String) : Option Refusal :=
  all.find? fun refusal => refusal.name = name

end Refusal

/-- The outcome of a request as a reply reports it. -/
inductive Outcome where
  /-- The request was granted. -/
  | granted
  /-- The request was refused. -/
  | refused (reason : Refusal)
  deriving DecidableEq, Inhabited

namespace Outcome

/-- The outcome with a number. -/
def ofByte? (code : UInt8) : Option Outcome :=
  if code = 0 then some granted
  else if code = 1 then some (refused .serverFailure)
  else if code = 2 then some (refused .connectionNotAllowed)
  else if code = 3 then some (refused .networkUnreachable)
  else if code = 4 then some (refused .hostUnreachable)
  else if code = 5 then some (refused .connectionRefused)
  else if code = 6 then some (refused .ttlExpired)
  else if code = 7 then some (refused .commandNotSupported)
  else if code = 8 then some (refused .addressTypeNotSupported)
  else none

/-- The number of an outcome. -/
def byte : Outcome → UInt8
  | granted => 0
  | refused .serverFailure => 1
  | refused .connectionNotAllowed => 2
  | refused .networkUnreachable => 3
  | refused .hostUnreachable => 4
  | refused .connectionRefused => 5
  | refused .ttlExpired => 6
  | refused .commandNotSupported => 7
  | refused .addressTypeNotSupported => 8

/-- The name of an outcome in a reply. -/
def name : Outcome → String
  | granted => "Success"
  | refused .serverFailure => "Failure"
  | refused .connectionNotAllowed => "RuleFailure"
  | refused reason => reason.name

end Outcome

/-- The text about a byte which is no value of the field called `field`. -/
def unknownByte (field : String) (code : UInt8) : String :=
  s!"try from u8(0x{Text.Numeral.upperHexText code.toNat}) error to {field}"

end Socks
end TunnelProxy
