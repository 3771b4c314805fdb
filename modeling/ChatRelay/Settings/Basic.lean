/-!
# Settings

What the two roles and the log can be told, with the values that hold when nothing is said.
-/

namespace ChatRelay

/-- Settings of the broker. -/
structure BrokerSettings where
  /-- The port to listen on, on all IPv4 interfaces. -/
  port : Nat := 7777
  /-- Connections beyond this many are closed as soon as they are accepted. -/
  maxPeers : Nat := 1024
  /-- The author of lines fed by the hosting application. -/
  serverAuthor : String := "server"
  /-- How many ready sockets one wait reports at most. -/
  eventCapacity : Nat := 64
  deriving DecidableEq, Repr, Inhabited

/-- Settings of an endpoint. -/
structure EndpointSettings where
  /-- Where the broker is, as `host:port`. -/
  address : String := "127.0.0.1:7777"
  /-- The display name sent in the handshake. -/
  name : String := "anonymous"
  /-- How many ready sockets one wait reports at most. -/
  eventCapacity : Nat := 64
  deriving DecidableEq, Repr, Inhabited

/-- Settings of the log. -/
structure LoggingSettings where
  /-- The least level that is printed. -/
  level : String := "info"
  deriving DecidableEq, Repr, Inhabited

/-- All settings. -/
structure Settings where
  broker : BrokerSettings := {}
  endpoint : EndpointSettings := {}
  logging : LoggingSettings := {}
  deriving DecidableEq, Repr, Inhabited

end ChatRelay
