import ChatRelay.Log
import ChatRelay.Message
import ChatRelay.RelayError

/-!
# The journal of a broker

The broker writes down what it did, in order: which connection it accepted or turned away, what it read
and wrote, who joined and left, and which line it relayed. Connections are numbered as they are
accepted, so a number never names two of them.
-/

namespace ChatRelay.Broker

/-- Something the broker did. -/
inductive Entry where
  | listening
  | accepted (connection : Nat) (slot : Nat)
  /-- The table was full, so the connection was closed. -/
  | turnedAway (connection : Nat) (limit : Nat)
  /-- The multiplexer did not take the connection, so it was closed. -/
  | registrationRefused (connection : Nat) (cause : IoError)
  | acceptFailed (cause : IoError)
  /-- Bytes read from a connection in one pass. -/
  | received (connection : Nat) (bytes : List UInt8)
  | receiveFailed (connection : Nat) (cause : RelayError)
  /-- The first frame of a connection gave its name. -/
  | joined (connection : Nat) (frame : List UInt8)
  /-- A line went out to every peer but its sender; the hosting application's lines have none. -/
  | relayed (sender : Option Nat) (author : String) (body : List UInt8)
  | relayFailed (connection : Nat) (cause : RelayError)
  /-- A line that went out is queued for the hosting application. -/
  | queued (message : Message)
  /-- A line went out, but there was no memory to queue it for the hosting application. -/
  | messageLost (message : Message) (cause : RelayError)
  /-- Bytes written to a connection in one pass. -/
  | wrote (connection : Nat) (bytes : List UInt8)
  | sendFailed (connection : Nat) (cause : RelayError)
  | deregistrationFailed (connection : Nat) (cause : IoError)
  /-- A peer was dropped, with this many bytes unread and unsent. -/
  | left (connection : Nat) (label : String) (unread unsent : Nat)
  deriving DecidableEq, Repr

/-- The line of the log that an entry makes, if it makes one. -/
def Entry.log? : Entry → Option Log.Line
  | listening => some ⟨.info, "Broker listening", []⟩
  | accepted _ slot => some ⟨.debug, "Accepted connection", [("slot", .number slot)]⟩
  | turnedAway _ limit => some ⟨.warn, "Connection limit reached", [("max_peers", .number limit)]⟩
  | registrationRefused _ _ => some ⟨.warn, "Failed to register peer", []⟩
  | acceptFailed _ => some ⟨.error, "Accept error", []⟩
  | received _ _ => none
  | receiveFailed _ _ => some ⟨.debug, "Receive failed", []⟩
  | joined _ frame => some ⟨.info, "Peer joined", [("name", .text (Text.decodeLossy frame))]⟩
  | relayed _ _ _ => none
  | relayFailed _ _ => some ⟨.warn, "Relay failed", []⟩
  | queued _ => none
  | messageLost message _ => some ⟨.warn, "Message not queued", [("name", .text message.author)]⟩
  | wrote _ _ => none
  | sendFailed _ _ => some ⟨.debug, "Send failed", []⟩
  | deregistrationFailed _ _ => some ⟨.debug, "Deregister failed", []⟩
  | left _ label unread unsent =>
    some ⟨.info, "Peer disconnected",
      [("name", .text label), ("dropped_inbound", .number unread),
       ("dropped_outbound", .number unsent)]⟩

end ChatRelay.Broker
