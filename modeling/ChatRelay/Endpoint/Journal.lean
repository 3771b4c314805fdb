import ChatRelay.Log
import ChatRelay.Message

/-!
# The journal of an endpoint

What an endpoint did, in order: how it connected, what it read and wrote, and how the connection ended.
-/

namespace ChatRelay.Endpoint

/-- Something the endpoint did. -/
inductive Entry where
  | attemptFailed (cause : IoError)
  | connected (name : String)
  /-- Bytes read in one pass. -/
  | received (bytes : List UInt8)
  /-- Bytes written in one pass. -/
  | wrote (bytes : List UInt8)
  /-- A frame gave a message. -/
  | decoded (message : Message)
  /-- A frame gave a message, but there was no memory to queue it. -/
  | messageLost (message : Message)
  /-- A frame of this many bytes had no author. -/
  | frameDropped (length : Nat)
  | brokerClosed
  | connectionFailed (cause : RelayError)
  | deregistrationFailed (cause : IoError)
  deriving DecidableEq, Repr

/-- The line of the log that an entry makes, if it makes one. -/
def Entry.log? : Entry → Option Log.Line
  | attemptFailed _ => some ⟨.debug, "Connect attempt failed", []⟩
  | connected name => some ⟨.info, "Connected", [("name", .text name)]⟩
  | received _ => none
  | wrote _ => none
  | decoded _ => none
  | messageLost _ => none
  | frameDropped length =>
    some ⟨.warn, "Dropping frame without author", [("len", .number length)]⟩
  | brokerClosed => some ⟨.info, "Broker closed the connection", []⟩
  | connectionFailed _ => some ⟨.warn, "Connection failed", []⟩
  | deregistrationFailed _ => some ⟨.debug, "Deregister failed", []⟩

end ChatRelay.Endpoint
