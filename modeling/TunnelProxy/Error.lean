import TunnelProxy.Net.Address
import TunnelProxy.IoError
import TunnelProxy.Rate
import TunnelProxy.Session.CloseCode
import TunnelProxy.Socks.Code

/-!
# Failures of a request

The causes for which a request or a session fails, their texts, the SOCKS reply a client gets for
them, and how they appear where only an input or output failure can be reported.
-/

namespace TunnelProxy

/-- Why a request or a session failed. -/
inductive Error where
  /-- An input or output operation failed. -/
  | io (cause : IoError)
  /-- Another user of shared state broke off while changing it. -/
  | poisoned (text : String)
  /-- The other end of a channel is gone. -/
  | disconnected (name : String)
  /-- A message is malformed. -/
  | messageFormat (text : String)
  /-- The client offers no authentication method which is configured. -/
  | noAcceptableMethod
  /-- The client's credentials are not the configured ones. -/
  | unrecognizedUsernamePassword
  /-- A known command which is not served. -/
  | commandNotSupported (command : Socks.Command)
  /-- A command number without meaning. -/
  | unknownCommand (code : UInt8)
  /-- A text which is no destination. -/
  | invalidAddress (text : String)
  /-- A listener's address is taken. -/
  | addressAlreadyInUse (address : Net.SocketAddress)
  /-- A listener's address does not exist. -/
  | addressNotAvailable (address : Net.SocketAddress)
  /-- The destination refused the connection. -/
  | connectionRefused (address : Net.Address)
  /-- A tunnel client of another version. -/
  | unsupportedVersion (version : UInt8)
  /-- A tunnel client which asks for no traffic in a direction. -/
  | invalidRate (rate : Rate)
  /-- The tunnel server did not accept the client's token. -/
  | authRejected (message : String)
  /-- The tunnel server did not grant a stream. -/
  | streamRejected (message : String)
  /-- The session was closed. -/
  | sessionClosed (code : CloseCode) (reason : String)
  /-- Something did not happen in time. -/
  | timeout (what : String)
  /-- A relay saw no traffic for too long. -/
  | idleTimeout
  /-- The rules do not allow the destination. -/
  | blocked (address : Net.Address)
  /-- The rules name an action without meaning. -/
  | unknownAction (code : UInt8)
  /-- Obfuscation was configured without a key. -/
  | emptyObfuscationKey
  deriving DecidableEq, Inhabited

namespace Error

/-- The text of a failure. -/
def message : Error → String
  | io cause => s!"io error: {cause.message}"
  | poisoned text => s!"poisoned error: {text}"
  | disconnected name => s!"disconnected channel error: {name}"
  | messageFormat text => s!"message format error: {text}"
  | noAcceptableMethod => "authentication error: no acceptable method"
  | unrecognizedUsernamePassword => "authentication error: invalid username or password"
  | commandNotSupported command => s!"command not supported: {command.name}"
  | unknownCommand code => s!"unknown command: {code.toNat}"
  | invalidAddress text => s!"invalid address: {text}"
  | addressAlreadyInUse address => s!"address already in use: {address.text}"
  | addressNotAvailable address => s!"address not available: {address.text}"
  | connectionRefused address => s!"connection refused: {address.text}"
  | unsupportedVersion version => s!"unsupported tunnel protocol version: {version.toNat}"
  | invalidRate rate => s!"invalid rate from client: {rate.text}"
  | authRejected message => s!"auth rejected: {message}"
  | streamRejected message => s!"request rejected: {message}"
  | sessionClosed code reason => s!"session closed: {code.text}: {reason}"
  | timeout what => s!"timed out waiting for {what}"
  | idleTimeout => "relay idle timeout"
  | blocked address => s!"blocked by ACL: {address.text}"
  | unknownAction code => s!"unknown action {code.toNat}"
  | emptyObfuscationKey => "obfuscation key must not be empty"

/-- The name of a failure in reports, which does not depend on its details. -/
def name : Error → String
  | io _ => "Io"
  | poisoned _ => "Poisoned"
  | disconnected _ => "Disconnected"
  | messageFormat _ => "MessageFormat"
  | noAcceptableMethod => "NoAcceptableMethod"
  | unrecognizedUsernamePassword => "UnrecognizedUsernamePassword"
  | commandNotSupported _ => "CommandNotSupported"
  | unknownCommand _ => "UnknownCommand"
  | invalidAddress _ => "InvalidAddress"
  | addressAlreadyInUse _ => "AddressAlreadInUse"
  | addressNotAvailable _ => "AddressNotAvailable"
  | connectionRefused _ => "ConnectionRefused"
  | unsupportedVersion _ => "UnsupportedVersion"
  | invalidRate _ => "InvalidRate"
  | authRejected _ => "AuthRejected"
  | streamRejected _ => "StreamRejected"
  | sessionClosed _ _ => "SessionClosed"
  | timeout _ => "Timeout"
  | idleTimeout => "IdleTimeout"
  | blocked _ => "Blocked"
  | unknownAction _ => "UnknownAction"
  | emptyObfuscationKey => "EmptyObfsKey"

/-- What a SOCKS client is told about a failed request.  Failed dials and blocked destinations
look alike. -/
def refusal : Error → Socks.Refusal
  | commandNotSupported _ => .commandNotSupported
  | unknownCommand _ => .commandNotSupported
  | noAcceptableMethod => .connectionNotAllowed
  | unrecognizedUsernamePassword => .connectionNotAllowed
  | io _ => .hostUnreachable
  | invalidAddress _ => .hostUnreachable
  | connectionRefused _ => .hostUnreachable
  | streamRejected _ => .hostUnreachable
  | sessionClosed _ _ => .hostUnreachable
  | authRejected _ => .hostUnreachable
  | timeout _ => .hostUnreachable
  | blocked _ => .hostUnreachable
  | _ => .serverFailure

/-- Whether a failure is a violation of the protocol by the peer. -/
def isProtocol : Error → Bool
  | messageFormat _ => true
  | unsupportedVersion _ => true
  | invalidRate _ => true
  | commandNotSupported _ => true
  | _ => false

/-- A failure as an input or output failure. -/
def toIo (error : Error) : IoError :=
  match error with
  | io cause => cause
  | timeout _ => ⟨.timedOut, error.message⟩
  | idleTimeout => ⟨.timedOut, error.message⟩
  | _ => ⟨.other, error.message⟩

/-- A failure of a known kind without further text. -/
def ofKind (kind : IoKind) : Error := io (IoError.ofKind kind)

end Error

/-- Why the program as a whole failed. -/
inductive ServiceError where
  /-- An input or output operation failed. -/
  | io (cause : IoError)
  /-- The configuration file can not be read as a configuration; a text is given if the document
  breaks a rule beyond its form. -/
  | config (rule : Option String)
  /-- The configuration makes no sense. -/
  | invalidConfig (text : String)
  /-- Authentication failed. -/
  | auth (text : String)
  /-- Something is not supported. -/
  | notSupported (text : String)
  /-- Something is not allowed. -/
  | notAllowed (text : String)
  /-- An address can not be used. -/
  | address (cause : Error)
  /-- A request or a session failed for another reason. -/
  | protocol (cause : Error)
  deriving DecidableEq, Inhabited

namespace ServiceError

/-- The text of a failure. -/
def message : ServiceError → String
  | io cause => s!"io error: {cause.message}"
  | config none => "config error: malformed document"
  | config (some rule) => s!"config error: {rule}"
  | invalidConfig text => s!"invalid config: {text}"
  | auth text => s!"auth error: {text}"
  | notSupported text => s!"not supported error: {text}"
  | notAllowed text => s!"not allowed error: {text}"
  | address cause => s!"address error: {cause.message}"
  | protocol cause => cause.message

/-- The name of a failure in reports. -/
def name : ServiceError → String
  | io _ => "Io"
  | config _ => "Config"
  | invalidConfig _ => "InvalidConfig"
  | auth _ => "Auth"
  | notSupported _ => "NotSupported"
  | notAllowed _ => "NotAllowed"
  | address _ => "Address"
  | protocol _ => "Protocol"

/-- The failure of the program caused by a failure of a request or a session. -/
def ofError (error : Error) : ServiceError :=
  match error with
  | .io cause => io cause
  | .authRejected message => auth message
  | .unrecognizedUsernamePassword => auth error.message
  | .noAcceptableMethod => notSupported error.message
  | .commandNotSupported _ => notSupported error.message
  | .blocked _ => notAllowed error.message
  | .emptyObfuscationKey => invalidConfig error.message
  | .addressAlreadyInUse _ => address error
  | .addressNotAvailable _ => address error
  | .invalidAddress _ => address error
  | _ => protocol error

end ServiceError
end TunnelProxy
