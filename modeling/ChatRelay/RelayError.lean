import ChatRelay.System.IoError

/-!
# Failures of the relay

`RelayError` lists the causes for which a broker, an endpoint or one of their buffers refuses an
operation. A wait that expires is no error.

- `RelayError.message`: the text a user sees.
- `RelayError.record`: the cause by name with its parts, as the program prints it when it gives up.
-/

namespace ChatRelay

/-- Why an operation of the relay failed. -/
inductive RelayError where
  /-- A buffer could not grow to this many bytes. -/
  | outOfMemory (bytes : Nat)
  /-- The address did not resolve, or nothing accepted the connection. -/
  | noAddress (address : String)
  | alreadyStarted
  | notStarted
  | portBusy (port : Nat)
  /-- The operating system failed. -/
  | system (cause : IoError)
  /-- A relayed frame carried no author separator. -/
  | malformedFrame
  /-- A display name holds a framing byte. -/
  | invalidName (name : String)
  /-- The connection reached its end and cannot be used again. -/
  | closed
  deriving DecidableEq, Repr, Inhabited

namespace RelayError

/-- The text a user sees. -/
def message : RelayError → String
  | outOfMemory bytes => s!"out of memory growing a buffer to {bytes} bytes"
  | noAddress address => s!"no reachable address: {address}"
  | alreadyStarted => "already started"
  | notStarted => "not started"
  | portBusy port => s!"port {port} is busy"
  | system cause => s!"system error: {cause.message}"
  | malformedFrame => "malformed frame: missing author separator"
  | invalidName name => s!"invalid display name {Text.quoted name}"
  | closed => "connection closed"

/-- The error number, if the operating system failed and gave one. -/
def osCode : RelayError → Option Int
  | system cause => cause.osCode
  | _ => none

/-- The cause by name, with its parts. -/
def record : RelayError → String
  | outOfMemory bytes => s!"Resource({bytes})"
  | noAddress address => s!"NoAddress({Text.quoted address})"
  | alreadyStarted => "AlreadyStarted"
  | notStarted => "NotStarted"
  | portBusy port => s!"PortBusy({port})"
  | system cause => s!"System({cause.record})"
  | malformedFrame => "MalformedFrame"
  | invalidName name => s!"InvalidName({Text.quoted name})"
  | closed => "Closed"

end RelayError

end ChatRelay
