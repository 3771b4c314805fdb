import ChatRelay.ByteQueue.Framing
import ChatRelay.Endpoint.Journal
import ChatRelay.MessageQueue
import ChatRelay.Multiplexer
import ChatRelay.Settings.Basic
import ChatRelay.SocketAddress

/-!
# The endpoint

An endpoint connects to a broker, announces its display name as the first frame, sends the lines it is
fed and decodes the lines that are relayed to it. It goes through three phases in one direction only:
unconnected, connected, closed.

- `Endpoint.connect`: try every resolved address in order, and queue the handshake.
- `Endpoint.feed`: queue text for the broker.
- `Endpoint.update`: wait once and serve the socket.

Whatever fails while the socket is served closes the endpoint, and so does a refusal of memory. A text
that is fed, for which there is no memory, is not queued.
-/

namespace ChatRelay

/-- Where an endpoint is in its life. The last phase is final. -/
inductive Phase where
  | unconnected
  | connected
  | closed
  deriving DecidableEq, Repr, Inhabited

/-- How a connection is opened. -/
structure Dialer where
  /-- The addresses that a text stands for. -/
  resolve : String → Except IoError (List SocketAddress)
  /-- Why connecting to an address fails, if it does. -/
  attempt : SocketAddress → Option IoError
  /-- Why preparing the open connection fails, if it does. -/
  prepare : Option IoError := none

/-- What the allocator answers to the queues of an endpoint. -/
structure Endpoint.Supply where
  inbound : Memory := {}
  outbound : Memory := {}
  messages : Memory := {}

/-- The client side of a relay connection. -/
structure Endpoint where
  /-- The display name. -/
  name : String
  eventCapacity : Nat := 64
  phase : Phase := .unconnected
  multiplexer : Multiplexer := {}
  /-- The socket that is held, if any. -/
  socket : Option Socket := none
  inbound : ByteQueue := .empty
  outbound : ByteQueue := .empty
  /-- Decoded lines for the hosting application. -/
  messages : MessageQueue := .empty
  /-- The interest last handed to the multiplexer. -/
  armed : Interest := .read
  /-- How many frames had no author and were dropped. -/
  malformedFrames : Nat := 0
  journal : Array Endpoint.Entry := #[]

namespace Endpoint

/-- An unconnected endpoint, if its name can travel. -/
def ofSettings (settings : EndpointSettings) (supply : Supply := {}) : Except RelayError Endpoint :=
  match DisplayName.check settings.name with
  | .error cause => .error cause
  | .ok () => .ok {
      name := settings.name
      eventCapacity := settings.eventCapacity
      inbound := .ofMemory supply.inbound
      outbound := .ofMemory supply.outbound
      messages := .ofMemory supply.messages }

/-- Write something down. -/
def note (e : Endpoint) (entry : Entry) : Endpoint := { e with journal := e.journal.push entry }

/-- Try addresses in order until one accepts. -/
def dial (e : Endpoint) (attempt : SocketAddress → Option IoError) :
    List SocketAddress → Endpoint × Option SocketAddress
  | [] => (e, none)
  | address :: rest =>
    match attempt address with
    | none => (e, some address)
    | some cause => (e.note (.attemptFailed cause)).dial attempt rest

/-- Hold a socket that has been opened: queue the handshake and have the multiplexer watch it. A refusal of
the multiplexer takes the handshake back. A refusal of memory leaves what has been queued of it. -/
def hold (e : Endpoint) : Endpoint × Except RelayError Unit :=
  match e.outbound.tryPushHandshake e.name with
  | (outbound, .error cause) => ({ e with outbound }, .error cause)
  | (outbound, .ok ()) =>
    let armed := Interest.forOutbound outbound
    match e.multiplexer.register (.connection 0) Token.endpoint armed with
    | (multiplexer, .error cause) =>
      ({ e with multiplexer, armed, outbound := outbound.clear }, .error (.system cause))
    | (multiplexer, .ok ()) =>
      ({ e with multiplexer, armed, outbound, socket := some (.connection 0), phase := .connected }.note
        (.connected e.name), .ok ())

/-- Connect to `host:port` and queue the handshake. -/
def connect (e : Endpoint) (address : String) (dialer : Dialer) : Endpoint × Except RelayError Unit :=
  if e.phase = .unconnected then
    match dialer.resolve address with
    | .error cause => (e, .error (.noAddress s!"{address}: {cause.message}"))
    | .ok candidates =>
      match e.dial dialer.attempt candidates with
      | (e, none) => (e, .error (.noAddress address))
      | (e, some _) =>
        match dialer.prepare with
        | some cause => (e, .error (.system cause))
        | none => e.hold
  else (e, .error .alreadyStarted)

/-- Whether the endpoint can be used, and if not why. -/
def ensureConnected (e : Endpoint) : Except RelayError Unit :=
  match e.phase with
  | .unconnected => .error .notStarted
  | .connected => .ok ()
  | .closed => .error .closed

/-- Give up the socket and both queues. What was not sent is lost. -/
def teardown (e : Endpoint) : Endpoint :=
  let e := match e.socket with
    | none => e
    | some socket =>
      let (multiplexer, outcome) := e.multiplexer.deregister socket
      let e := { e with socket := none, multiplexer := multiplexer.forget socket }
      match outcome with
      | .ok () => e
      | .error cause => e.note (.deregistrationFailed cause)
  { e with inbound := .empty, outbound := .empty, phase := .closed }

/-- Decode one frame into the queue. A frame without an author is dropped and counted. -/
def takeFrame (e : Endpoint) (frame : List UInt8) : Endpoint × Except RelayError Unit :=
  match Message.ofFrame frame with
  | .ok message =>
    match e.messages.tryPush message with
    | (messages, .ok ()) => ({ e with messages }.note (.decoded message), .ok ())
    | (messages, .error cause) => ({ e with messages }.note (.messageLost message), .error cause)
  | .error _ =>
    ({ e with malformedFrames := e.malformedFrames + 1 }.note (.frameDropped frame.length), .ok ())

/-- Decode frames one after the other, up to the first for which there is no memory. -/
def takeEach (e : Endpoint) : List (List UInt8) → Endpoint × Except RelayError Unit
  | [] => (e, .ok ())
  | frame :: rest =>
    match e.takeFrame frame with
    | (e, .ok ()) => e.takeEach rest
    | (e, .error cause) => (e, .error cause)

/-- Decode every complete frame. A failure closes the endpoint, so the frames behind it are lost. -/
def takeFrames (e : Endpoint) : Endpoint × Except RelayError Unit :=
  let (frames, tail) := e.inbound.takeFrames
  { e with inbound := tail }.takeEach frames

/-- Hand the present interest to the multiplexer if it changed. -/
def syncInterest (e : Endpoint) : Endpoint × Except RelayError Unit :=
  let wanted := Interest.forOutbound e.outbound
  if wanted = e.armed then (e, .ok ())
  else match e.socket with
    | none => (e, .ok ())
    | some socket =>
      match e.multiplexer.rearm socket Token.endpoint wanted with
      | (multiplexer, .error cause) => ({ e with multiplexer }, .error (.system cause))
      | (multiplexer, .ok ()) => ({ e with multiplexer, armed := wanted }, .ok ())

/-- Read what has come and decode it. At the end of the stream the endpoint closes. -/
def serveReadable (e : Endpoint) (reads : List ReadEvent) : Endpoint × Except RelayError Unit :=
  if e.socket.isNone then (e, .ok ())
  else
    let pass := e.inbound.receive reads
    let e := { e with inbound := pass.queue }.note (.received pass.received)
    match pass.outcome with
    | .error cause => (e, .error cause)
    | .ok status =>
      match e.takeFrames, status with
      | (e, .error cause), _ => (e, .error cause)
      | (e, .ok ()), .inProgress => (e, .ok ())
      | (e, .ok ()), .closed => ((e.note .brokerClosed).teardown, .ok ())

/-- Write what waits. -/
def serveWritable (e : Endpoint) (writes : List WriteEvent) : Endpoint × Except RelayError Unit :=
  if e.socket.isNone then (e, .ok ())
  else
    let pass := e.outbound.send writes
    let e := { e with outbound := pass.queue }.note (.wrote pass.written)
    match pass.outcome with
    | .error cause => (e, .error cause)
    | .ok .partly => (e, .ok ())
    | .ok .complete => e.syncInterest

/-- Serve the socket: first read, then write. -/
def serve (e : Endpoint) (readable writable : Bool) (traffic : Traffic) :
    Endpoint × Except RelayError Unit :=
  let (e, outcome) := if readable then e.serveReadable traffic.reads else (e, .ok ())
  match outcome with
  | .error cause => (e, .error cause)
  | .ok () => if writable then e.serveWritable traffic.writes else (e, .ok ())

/-- Wait once, for at most `timeout` milliseconds, and serve the socket. A failure of the socket closes
the endpoint. -/
def update (e : Endpoint) (timeout : Option Nat) (poll : Option Nat → PollOutcome) :
    Endpoint × Except RelayError UpdateStatus :=
  match e.ensureConnected with
  | .error cause => (e, .error cause)
  | .ok () =>
    match poll timeout with
    | .failed cause =>
      (e, if cause.kind = .interrupted then .ok .timedOut else .error (.system cause))
    | .delivered ready _ =>
      let own := ready.filter (·.token = Token.endpoint)
      let readable := own.any (·.readable)
      let writable := own.any (·.writable)
      let traffic : Traffic :=
        ⟨own.flatMap (·.traffic.reads), own.flatMap (·.traffic.writes)⟩
      if readable || writable then
        match e.serve readable writable traffic with
        | (e, .ok ()) => (e, .ok .processed)
        | (e, .error cause) => ((e.note (.connectionFailed cause)).teardown, .error cause)
      else (e, .ok .timedOut)

/-- Take the oldest message. Messages decoded before the end stay. -/
def pop? (e : Endpoint) : Option (Message × Endpoint) :=
  e.messages.pop?.map fun (message, messages) => (message, { e with messages })

/-- Queue text for the broker. Each newline ends a line. -/
def feed (e : Endpoint) (text : List UInt8) : Endpoint × Except RelayError Unit :=
  match e.ensureConnected with
  | .error cause => (e, .error cause)
  | .ok () =>
    match e.outbound.tryPush text with
    | (outbound, .error cause) => ({ e with outbound }, .error cause)
    | (outbound, .ok ()) => { e with outbound := outbound.terminateLines }.syncInterest

/-- What the hosting application should wait for, while the endpoint is connected. -/
def interest? (e : Endpoint) : Option Interest :=
  match e.phase with
  | .connected => some (.forOutbound e.outbound)
  | _ => none

end Endpoint

end ChatRelay
