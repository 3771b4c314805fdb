import ChatRelay.Broker.Journal
import ChatRelay.ByteQueue.Framing
import ChatRelay.MessageQueue
import ChatRelay.Peer.Basic
import ChatRelay.Peer.Table
import ChatRelay.Settings.Basic

/-!
# The broker

The broker accepts connections and relays the lines of each to all others. The first frame of a peer is
its name, even if it is empty; every later frame goes out under that name and is queued as a message
for the hosting application. Nothing a peer writes into a frame can stand for its author.

- `Broker.relay`: queue a line for every peer but its sender.
- `Broker.takeFrame`: handle one frame of a peer.
- `Broker.serveReadable`, `Broker.serveWritable`: serve a ready peer.
- `Broker.acceptAll`: accept until no connection waits.
- `Broker.update`: wait once and serve all that is ready.
- `Broker.feed`: relay the lines of the hosting application.

A failure of one peer's socket drops that peer only, and so does a refusal of memory for its queues. A
message for which there is no memory goes out to the peers but is not queued, which the update reports.
-/

namespace ChatRelay

/-- What the allocator answers to the queues of a broker. -/
structure Broker.Supply where
  messages : Memory := {}
  localLines : Memory := {}
  /-- To those of each peer, by the number of its connection. -/
  peers : Nat → Peer.Supply := fun _ => {}

/-- The hub of the relay. -/
structure Broker where
  /-- The author of the hosting application's lines. -/
  author : String
  eventCapacity : Nat := 64
  /-- Whether there is a listening socket. -/
  listening : Bool := false
  multiplexer : Multiplexer := {}
  peers : PeerTable Peer
  /-- Messages for the hosting application. -/
  messages : MessageQueue := .empty
  /-- Text of the hosting application whose last line is not ended. -/
  localLines : ByteQueue := .empty
  /-- An attempt to accept failed while connections may be waiting. -/
  acceptPending : Bool := false
  /-- How many connections have been accepted, which is the number of the next one. -/
  connections : Nat := 0
  /-- What the allocator will answer to the queues of the peers to come. -/
  supply : Nat → Peer.Supply := fun _ => {}
  journal : Array Broker.Entry := #[]

/-- A fault of the system while a listening socket is set up. -/
inductive ListenFault where
  /-- The address could not be taken. -/
  | bind (cause : IoError)
  /-- Anything else failed. -/
  | setup (cause : IoError)
  deriving DecidableEq, Repr

/-- An address that is in use is a busy port; any other fault is the system's. -/
def ListenFault.toError (port : Nat) : ListenFault → RelayError
  | bind cause => if cause.kind = .addrInUse then .portBusy port else .system cause
  | setup cause => .system cause

/-- The first failure of two steps in order. -/
def keepFirst (first second : Except RelayError Unit) : Except RelayError Unit :=
  match first with
  | .error cause => .error cause
  | .ok () => second

theorem keepFirst_assoc (first second third : Except RelayError Unit) :
    keepFirst (keepFirst first second) third = keepFirst first (keepFirst second third) := by
  cases first <;> rfl

namespace Broker

/-! ### One after the other -/

section InTurn

variable {α : Type} (f : Broker → α → Broker × Except RelayError Unit)

/-- Do something for each of several things, also after a failure, and keep the first failure. -/
def inTurn (b : Broker) (xs : List α) : Broker × Except RelayError Unit :=
  xs.foldl (fun progress x =>
    let (b, outcome) := f progress.1 x
    (b, keepFirst progress.2 outcome)) (b, .ok ())

theorem fst_inTurn (b : Broker) (xs : List α) :
    (inTurn f b xs).1 = xs.foldl (fun b x => (f b x).1) b := by
  unfold inTurn
  exact (List.foldl_hom Prod.fst fun _ _ => rfl).symm

/-- What is done for the first thing comes first, and so does its failure. -/
theorem inTurn_cons (b : Broker) (x : α) (rest : List α) :
    inTurn f b (x :: rest) =
      ((inTurn f (f b x).1 rest).1, keepFirst (f b x).2 (inTurn f (f b x).1 rest).2) := by
  -- a failure from before stays the first
  have hfrom (xs : List α) (b : Broker) (outcome : Except RelayError Unit) :
      xs.foldl (fun progress x =>
          let (b, outcome) := f progress.1 x
          (b, keepFirst progress.2 outcome)) (b, outcome) =
        ((inTurn f b xs).1, keepFirst outcome (inTurn f b xs).2) := by
    unfold inTurn
    induction xs generalizing b outcome with
    | nil => cases outcome <;> rfl
    | cons x rest ih =>
      rw [List.foldl_cons, List.foldl_cons, ih, ih (f b x).1 (keepFirst (.ok ()) _), keepFirst_assoc]
      rfl
  exact hfrom rest (f b x).1 (f b x).2

theorem inTurn_append (b : Broker) (xs ys : List α) :
    inTurn f b (xs ++ ys) = ((inTurn f (inTurn f b xs).1 ys).1,
      keepFirst (inTurn f b xs).2 (inTurn f (inTurn f b xs).1 ys).2) := by
  induction xs generalizing b with
  | nil => rfl
  | cons x rest ih => rw [List.cons_append, inTurn_cons, inTurn_cons, ih, keepFirst_assoc]

variable {f} {P : Broker → Prop} {b : Broker} {xs : List α}

/-- Nothing fails if no step does while a property holds, and each step keeps it. -/
theorem inTurn_ok (hb : P b) (h : ∀ b, P b → ∀ x ∈ xs, P (f b x).1 ∧ (f b x).2 = .ok ()) :
    P (inTurn f b xs).1 ∧ (inTurn f b xs).2 = .ok () := by
  induction xs generalizing b with
  | nil => exact ⟨hb, rfl⟩
  | cons x rest ih =>
    obtain ⟨hkept, hok⟩ := h b hb x List.mem_cons_self
    rw [inTurn_cons, hok]
    exact ih hkept fun b hb x hx => h b hb x (List.mem_cons_of_mem _ hx)

end InTurn

/-! ### Operations -/

/-- A broker that does not listen yet. -/
def ofSettings (settings : BrokerSettings) (supply : Supply := {}) : Broker where
  author := settings.serverAuthor
  eventCapacity := settings.eventCapacity
  peers := .ofLimit settings.maxPeers
  messages := .ofMemory supply.messages
  localLines := .ofMemory supply.localLines
  supply := supply.peers

/-- How many ready sockets one wait reports at most. -/
def batchLimit (b : Broker) : Nat := max b.eventCapacity 1

/-- Write something down. -/
def note (b : Broker) (entry : Entry) : Broker := { b with journal := b.journal.push entry }

/-- Listen on a port, given what setting up the socket came to. -/
def listen (b : Broker) (port : Nat) (setup : Except ListenFault Unit) :
    Broker × Except RelayError Unit :=
  if b.listening then (b, .error .alreadyStarted)
  else match setup with
    | .error fault => (b, .error (fault.toError port))
    | .ok () =>
      match b.multiplexer.register .listener Token.listener .read with
      | (multiplexer, .error cause) => ({ b with multiplexer }, .error (.system cause))
      | (multiplexer, .ok ()) =>
        ({ b with multiplexer, listening := true }.note .listening, .ok ())

/-- Drop a peer. What it has not sent and its unfinished frame are lost. -/
def close (b : Broker) (id : PeerId) : Broker :=
  match b.peers.remove? id with
  | none => b
  | some (peer, peers) =>
    let (multiplexer, outcome) := peer.deregister b.multiplexer
    let b := { b with peers, multiplexer := multiplexer.forget peer.socket }
    let b := match outcome with
      | .ok () => b
      | .error cause => b.note (.deregistrationFailed peer.connection cause)
    b.note (.left peer.connection peer.label peer.inbound.pending peer.outbound.pending)

/-- Take in a new connection, unless the table is full or the multiplexer refuses it. -/
def accept (b : Broker) : Broker :=
  let connection := b.connections
  let newcomer := Peer.ofConnection connection (b.supply connection)
  let b := { b with connections := connection + 1 }
  match b.peers.insert? newcomer with
  | none => b.note (.turnedAway connection b.peers.limit)
  | some (id, peers) =>
    match newcomer.register b.multiplexer id with
    | (peer, multiplexer, .ok ()) =>
      { b with multiplexer, peers := peers.modify id fun _ => peer }.note
        (.accepted connection id.slot)
    | (_, multiplexer, .error cause) =>
      let peers := match peers.remove? id with
        | some (_, peers) => peers
        | none => peers
      { b with multiplexer, peers }.note (.registrationRefused connection cause)

/-- Accept until no connection waits. An interrupted attempt and a connection that went away are passed
over; any other fault ends the loop, to be tried again by the next update. -/
def acceptAll (b : Broker) : List AcceptEvent → Broker × Except RelayError Unit
  | [] => (b, .ok ())
  | .connection :: rest => b.accept.acceptAll rest
  | .fault cause :: rest =>
    match cause.kind with
    | .wouldBlock => (b, .ok ())
    | .interrupted | .connectionAborted => b.acceptAll rest
    | _ => ({ b with acceptPending := true }.note (.acceptFailed cause), .error (.system cause))

/-- Hand the present interest of a peer to the multiplexer if it changed. -/
def syncInterest (b : Broker) (id : PeerId) : Broker × Except IoError Unit :=
  match b.peers.get? id with
  | none => (b, .ok ())
  | some peer =>
    let (peer, multiplexer, outcome) := peer.syncInterest b.multiplexer id
    ({ b with multiplexer, peers := b.peers.modify id fun p => { p with armed := peer.armed } },
      outcome)

/-- Queue a line for one peer. Without memory for all of it a part of it is queued, and it fails. -/
def enqueue (b : Broker) (author body : List UInt8) (id : PeerId) :
    Broker × Except RelayError Unit :=
  match b.peers.get? id with
  | none => (b, .ok ())
  | some peer =>
    let (outbound, outcome) := peer.outbound.tryPushRelayed author body
    let b := { b with peers := b.peers.modify id fun p => { p with outbound } }
    match outcome with
    | .error cause => (b, .error cause)
    | .ok () =>
      let (b, outcome) := b.syncInterest id
      (b, outcome.mapError .system)

/-- The number of the connection of a live peer. -/
def connection? (b : Broker) (id : PeerId) : Option Nat := (b.peers.get? id).map (·.connection)

/-- Queue a line for one of the peers; peers for which this fails are collected behind those in
`failed`. -/
def relayTo (author body : List UInt8) (progress : Broker × List PeerId) (id : PeerId) :
    Broker × List PeerId :=
  match progress.1.enqueue author body id with
  | (b, .ok ()) => (b, progress.2)
  | (b, .error cause) =>
    (match b.connection? id with
      | some connection => b.note (.relayFailed connection cause)
      | none => b,
     progress.2 ++ [id])

/-- Queue a line for every peer but its sender. Peers that fail are dropped afterwards. -/
def relay (b : Broker) (sender : Option PeerId) (author : String) (body : List UInt8) : Broker :=
  let noted := b.note (.relayed (sender.bind b.connection?) author body)
  let others := b.peers.ids.filter fun id => some id ≠ sender
  let (b, failed) := others.foldl (relayTo (Text.utf8 author) body) (noted, [])
  failed.foldl close b

/-- Queue a message for the hosting application. Without memory for it the message is lost. -/
def queueMessage (b : Broker) (message : Message) : Broker × Except RelayError Unit :=
  match b.messages.tryPush message with
  | (messages, .ok ()) => ({ b with messages }.note (.queued message), .ok ())
  | (messages, .error cause) =>
    ({ b with messages }.note (.messageLost message cause), .error cause)

/-- Handle one frame of a peer: the first is its name, any later one is a line. -/
def takeFrame (id : PeerId) (b : Broker) (frame : List UInt8) : Broker × Except RelayError Unit :=
  match b.peers.get? id with
  | none => (b, .ok ())
  | some peer =>
    match peer.name with
    | none =>
      ({ b with peers := b.peers.modify id fun p => { p with name := some (Text.decodeLossy frame) } }.note
        (.joined peer.connection frame), .ok ())
    | some author =>
      (b.relay (some id) author frame).queueMessage ⟨author, Text.decodeLossy frame⟩

/-- Handle frames of a peer one after the other, also after a failure, and keep the first failure. -/
def takeFrames (id : PeerId) (b : Broker) (frames : List (List UInt8)) :
    Broker × Except RelayError Unit :=
  inTurn (takeFrame id) b frames

/-- Read what a peer has sent and handle every complete frame. At the end of the stream the peer is
dropped afterwards; if reading fails it is dropped at once. -/
def serveReadable (b : Broker) (id : PeerId) (reads : List ReadEvent) :
    Broker × Except RelayError Unit :=
  match b.peers.get? id with
  | none => (b, .ok ())
  | some peer =>
    let pass := peer.inbound.receive reads
    let b := b.note (.received peer.connection pass.received)
    match pass.outcome with
    | .error cause =>
      (({ b with peers := b.peers.modify id fun p => { p with inbound := pass.queue } }.note
        (.receiveFailed peer.connection cause)).close id, .ok ())
    | .ok status =>
      let (frames, tail) := pass.queue.takeFrames
      let b := { b with peers := b.peers.modify id fun p => { p with inbound := tail } }
      let (b, outcome) := takeFrames id b frames
      match status with
      | .inProgress => (b, outcome)
      | .closed => (b.close id, outcome)

/-- Write what waits for a peer. Once all is written, writing no longer matters. -/
def serveWritable (b : Broker) (id : PeerId) (writes : List WriteEvent) : Broker :=
  match b.peers.get? id with
  | none => b
  | some peer =>
    let pass := peer.outbound.send writes
    let b := { b with peers := b.peers.modify id fun p => { p with outbound := pass.queue } }.note
      (.wrote peer.connection pass.written)
    match pass.outcome with
    | .ok .partly => b
    | .ok .complete =>
      match b.syncInterest id with
      | (b, .ok ()) => b
      | (b, .error cause) => (b.note (.sendFailed peer.connection (.system cause))).close id
    | .error cause => (b.note (.sendFailed peer.connection cause)).close id

/-- Serve one ready socket. A token of no live peer changes nothing. -/
def serve (accepts : List AcceptEvent) (b : Broker) (ready : Readiness) :
    Broker × Except RelayError Unit :=
  if ready.token = Token.listener then b.acceptAll accepts
  else match PeerId.ofToken? ready.token with
    | none => (b, .ok ())
    | some id =>
      let (b, outcome) := if ready.readable then b.serveReadable id ready.traffic.reads else (b, .ok ())
      (if ready.writable then b.serveWritable id ready.traffic.writes else b, outcome)

/-- Serve every ready socket, also after a failure, and keep the first failure. -/
def serveAll (accepts : List AcceptEvent) (b : Broker) (batch : List Readiness) :
    Broker × Except RelayError Unit :=
  inTurn (serve accepts) b batch

/-- A batch with the listening socket added when accepting is to be tried again. -/
def withRetry (retry : Bool) (batch : List Readiness) : List Readiness :=
  if retry && !batch.any (·.token = Token.listener) then
    batch ++ [{ token := Token.listener, readable := true }]
  else batch

/-- Wait once, for at most `timeout` milliseconds, and serve all that is ready. While accepting is to
be tried again it does not wait. -/
def update (b : Broker) (timeout : Option Nat) (poll : Option Nat → PollOutcome) :
    Broker × Except RelayError UpdateStatus :=
  if b.listening then
    let retry := b.acceptPending
    match poll (if retry then some 0 else timeout) with
    | .failed cause =>
      (b, if cause.kind = .interrupted then .ok .timedOut else .error (.system cause))
    | .delivered ready accepts =>
      let b := { b with acceptPending := false }
      if ready.isEmpty && !retry then (b, .ok .timedOut)
      else
        let (b, outcome) := b.serveAll accepts (withRetry retry ready)
        (b, outcome.map fun () => .processed)
  else (b, .error .notStarted)

/-- Take the oldest message. -/
def pop? (b : Broker) : Option (Message × Broker) :=
  b.messages.pop?.map fun (message, messages) => (message, { b with messages })

/-- Relay every line that `text` completes under the broker's own author. A last line that is not ended
waits for its newline. Without memory for it the text is lost as a whole. -/
def feed (b : Broker) (text : List UInt8) : Broker × Except RelayError Unit :=
  match b.localLines.tryPush text with
  | (localLines, .error cause) => ({ b with localLines }, .error cause)
  | (localLines, .ok ()) =>
    let (lines, tail) := localLines.terminateLines.takeFrames
    (lines.foldl (fun b line => b.relay none b.author line) { b with localLines := tail }, .ok ())

/-- What the hosting application should wait for, if the broker listens. -/
def interest? (b : Broker) : Option Interest :=
  if b.listening then
    some (if b.peers.toList.any (·.2.outbound.hasPending) then .readWrite else .read)
  else none

/-- The number of peers, named or not. -/
def peerCount (b : Broker) : Nat := b.peers.size

/-- The names of the peers that have one, by slot. -/
def peerNames (b : Broker) : List String := b.peers.toList.filterMap (·.2.name)

end Broker

end ChatRelay
