import ChatRelay.Hosting.Basic

/-!
# What happens to a running program

While the program waits, text is typed and sockets become ready. An `Event` is one such happening, and this
module says what the wait reports that it ends.

- `Serving.wakeup`, `Connecting.wakeup`: the wait that an event ends.
- `Serving.flush`, `Connecting.flush`: the wait that ends because output can be written.
- `Serving.turn`, `Connecting.turn`: what an event brings about in the loop.
-/

namespace ChatRelay.Hosting

/-- Something that happens outside the program. -/
inductive Event where
  /-- Text came from standard input, or its end, or reading it failed. -/
  | input (outcome : Except IoError (List UInt8))
  /-- A connection waits to be accepted. -/
  | arrival
  | acceptFailed (cause : IoError)
  /-- A connection has something to read. -/
  | readable (connection : Nat) (event : ReadEvent)
  deriving Inhabited

namespace Serving

/-- The live peer of a connection. -/
def peerOf? (b : Broker) (connection : Nat) : Option PeerId :=
  (b.peers.toList.find? (·.2.connection = connection)).map (·.1)

/-- The listening socket, ready for an attempt to accept that ends in a given way. -/
def listenerReady (accept : AcceptEvent) : Wakeup :=
  { relay := true, poll := .delivered [{ token := Token.listener, readable := true }] [accept] }

/-- The wait that an event ends. A connection without a live peer makes nothing ready. -/
def wakeup (b : Broker) : Event → Wakeup
  | .input outcome => { input := some outcome }
  | .arrival => listenerReady .connection
  | .acceptFailed cause => listenerReady (.fault cause)
  | .readable connection event =>
    match peerOf? b connection with
    | none => {}
    | some id =>
      let ready : Readiness := { token := id.token, readable := true, traffic.reads := [event] }
      { relay := true, poll := .delivered [ready] [] }

/-- The wait that ends because every peer that waits for it can write all it has. -/
def flush (b : Broker) : Wakeup :=
  let ready := b.peers.toList.filterMap fun (id, peer) =>
    if peer.armed.isWritable then
      some { token := id.token, writable := true, traffic.writes := [.accept peer.outbound.pending] }
    else none
  { relay := true, poll := .delivered ready [] }

/-- The turns that an event brings about: one for the event, and one for the output it leaves. -/
def turn (p : Progress Broker) (event : Event) : Progress Broker :=
  let p := step p (.ok (wakeup p.party event))
  if p.ending.isSome then p else step p (.ok (flush p.party))

end Serving

namespace Connecting

/-- The wait that an event ends. An endpoint has one connection and accepts none. -/
def wakeup : Event → Wakeup
  | .input outcome => { input := some outcome }
  | .readable _ event =>
    let ready : Readiness :=
      { token := Token.endpoint, readable := true, traffic.reads := [event] }
    { relay := true, poll := .delivered [ready] [] }
  | .arrival | .acceptFailed _ => {}

/-- The wait that ends because the endpoint, if it waits for it, can write all it has. -/
def flush (e : Endpoint) : Wakeup :=
  if e.armed.isWritable then
    let ready : Readiness :=
      { token := Token.endpoint, writable := true, traffic.writes := [.accept e.outbound.pending] }
    { relay := true, poll := .delivered [ready] [] }
  else {}

/-- The turns that an event brings about: one for the event, and one for the output it leaves. -/
def turn (p : Progress Endpoint) (event : Event) : Progress Endpoint :=
  let p := step p (.ok (wakeup event))
  if p.ending.isSome then p else step p (.ok (flush p.party))

end Connecting

end ChatRelay.Hosting
