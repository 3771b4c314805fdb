import ChatRelay.Broker.Basic
import ChatRelay.Endpoint.Basic
import ChatRelay.Loopback.Link

/-!
# A relay on one host

A broker, endpoints and scripted sockets that talk over the loopback interface of one host. Whether that
interface lets connections through is part of the host.

- `Host`: who is there, and the connections between them.
- `Host.updateBroker`, `Host.updateEndpoint`: one cycle of a party, fed from its pipes.
- `Host.settle`: let everybody act in turn until nothing moves.
-/

namespace ChatRelay.Loopback

/-- An endpoint of the host with the connection it holds. -/
structure Seat where
  endpoint : Endpoint
  /-- The number of its connection. -/
  link? : Option Nat := none

/-- A socket that a script works by hand. -/
structure Client where
  link : Nat
  side : Side
  /-- Whether the script still holds the socket. -/
  held : Bool := true
  /-- Bytes read and not yet reported. -/
  received : List UInt8 := []
  /-- Whether the end or a reset has come and is not yet reported. -/
  endNoticed : Bool := false
  /-- Whether the end or a reset has come. -/
  atEnd : Bool := false

/-- The parties of a host and the connections between them. -/
structure Host where
  /-- Why connecting over the loopback interface fails, if it does. -/
  barrier : Option IoError := none
  broker? : Option Broker := none
  links : Array Link := #[]
  /-- The connections that wait for the broker to accept them, oldest first. -/
  backlog : List Nat := []
  /-- Whether connections have come that the broker's multiplexer has not reported. -/
  arrivals : Bool := false
  /-- The connections that the broker accepted, in order. -/
  accepted : Array Nat := #[]
  /-- Whether a scripted listener plays the broker. -/
  remoteListens : Bool := false
  /-- The endpoints by ascending name. -/
  seats : List (String × Seat) := []
  /-- The scripted sockets by name. -/
  clients : List (String × Client) := []
  /-- The lines logged so far. -/
  log : Array Log.Line := #[]

namespace Host

/-- Change one connection. -/
def mapLink (h : Host) (link : Nat) (f : Link → Link) : Host :=
  { h with links := h.links.modify link f }

/-- Put the value of a key into an association list that ascends by key. -/
def putSorted {α : Type} (key : String) (a : α) : List (String × α) → List (String × α)
  | [] => [(key, a)]
  | (other, b) :: rest =>
    if key < other then (key, a) :: (other, b) :: rest
    else if key = other then (key, a) :: rest
    else (other, b) :: putSorted key a rest

/-- The endpoint of a name. -/
def seat? (h : Host) (name : String) : Option Seat := h.seats.lookup name

/-- Put an endpoint in its place. -/
def putSeat (h : Host) (name : String) (seat : Seat) : Host :=
  { h with seats := putSorted name seat h.seats }

/-- Put a scripted socket in its place. -/
def putClient (h : Host) (name : String) (client : Client) : Host :=
  { h with clients := putSorted name client h.clients }

/-! ## The broker -/

/-- What the broker's connections have in store, one report for each that is ready. -/
def brokerReadiness (h : Host) (b : Broker) : List Readiness :=
  let listener : List Readiness :=
    if b.listening && h.arrivals then [{ token := Token.listener, readable := true }] else []
  let peers := b.peers.toList.filterMap fun (id, peer) => do
    let link ← h.accepted[peer.connection]?
    let pipe := (← h.links[link]?).inward
    let writable := peer.armed.isWritable
    if pipe.isReadable || writable then
      some { token := id.token, readable := pipe.isReadable, writable,
             traffic := { reads := pipe.reads, writes := [.accept peer.outbound.pending] } }
    else none
  listener ++ peers

/-- Carry out what the broker did: move the bytes it read and wrote, and close what it closed. -/
def followBroker (h : Host) (entry : Broker.Entry) : Host :=
  let h := match entry.log? with
    | some line => { h with log := h.log.push line }
    | none => h
  let onLink (connection : Nat) (f : Link → Link) : Host :=
    match h.accepted[connection]? with
    | some link => h.mapLink link f
    | none => h
  match entry with
  | .received connection bytes => onLink connection (·.mapIncoming .listening (·.drop bytes.length))
  | .wrote connection bytes => onLink connection (·.mapOutgoing .listening (·.put bytes))
  | .turnedAway connection _ | .registrationRefused connection _ | .left connection _ _ _ =>
    onLink connection (·.mapOutgoing .listening ({ · with ended := true }))
  | _ => h

/-- Put the broker back after an operation, and carry out what it wrote down meanwhile. -/
def settleBroker (h : Host) (b : Broker) : Host :=
  let new := b.connections - h.accepted.size
  let h := { h with accepted := h.accepted ++ (h.backlog.take new).toArray,
                    backlog := h.backlog.drop new }
  b.journal.foldl followBroker { h with broker? := some { b with journal := #[] } }

/-- One cycle of the broker. While `exhausted` the process has no descriptor for a new connection. -/
def updateBroker (h : Host) (b : Broker) (timeout : Nat) (exhausted : Bool) :
    Host × Except RelayError UpdateStatus :=
  let batch := (h.brokerReadiness b).take b.batchLimit
  let accepts : List AcceptEvent :=
    if exhausted && !h.backlog.isEmpty then [.fault (.os 24)]
    else h.backlog.map fun _ => .connection
  let (b, outcome) := b.update (some timeout) fun _ => .delivered batch accepts
  let reported := b.listening && batch.any (·.token = Token.listener)
  (({ h with arrivals := h.arrivals && !reported }).settleBroker b, outcome)

/-! ## The endpoints -/

/-- Carry out what an endpoint did. -/
def followEndpoint (link? : Option Nat) (h : Host) (entry : Endpoint.Entry) : Host :=
  let h := match entry.log? with
    | some line => { h with log := h.log.push line }
    | none => h
  match link?, entry with
  | some link, .received bytes => h.mapLink link (·.mapIncoming .connecting (·.drop bytes.length))
  | some link, .wrote bytes => h.mapLink link (·.mapOutgoing .connecting (·.put bytes))
  | _, _ => h

/-- Put an endpoint back after an operation, and carry out what it wrote down meanwhile. A closed
endpoint has closed its connection. -/
def settleEndpoint (h : Host) (name : String) (e : Endpoint) (link? : Option Nat) : Host :=
  let h := e.journal.foldl (followEndpoint link?) h
  let e := { e with journal := #[] }
  match e.phase, link? with
  | .closed, some link =>
    (h.mapLink link (·.mapOutgoing .connecting ({ · with ended := true }))).putSeat name ⟨e, none⟩
  | _, _ => h.putSeat name ⟨e, link?⟩

/-- One cycle of an endpoint. -/
def updateEndpoint (h : Host) (name : String) (seat : Seat) (timeout : Nat) :
    Host × Except RelayError UpdateStatus :=
  let ready : List Readiness :=
    match seat.link?.bind (h.links[·]?) with
    | none => []
    | some link =>
      let writable := seat.endpoint.armed.isWritable
      if link.outward.isReadable || writable then
        [{ token := Token.endpoint, readable := link.outward.isReadable, writable,
           traffic := { reads := link.outward.reads,
                        writes := [.accept seat.endpoint.outbound.pending] } }]
      else []
  let (e, outcome) := seat.endpoint.update (some timeout) fun _ => .delivered ready []
  (h.settleEndpoint name e seat.link?, outcome)

/-! ## The scripted sockets -/

/-- Have a scripted socket read everything. -/
def readClient (h : Host) (name : String) (client : Client) : Host :=
  match h.links[client.link]? with
  | none => h
  | some link =>
    let pipe := link.incoming client.side
    let ends := (pipe.ended || pipe.reset) && !client.atEnd
    let client := { client with
      received := client.received ++ pipe.bytes
      endNoticed := client.endNoticed || ends
      atEnd := client.atEnd || ends }
    (h.mapLink client.link (·.mapIncoming client.side (·.drop pipe.bytes.length))).putClient name client

/-- Whether a scripted socket has something to read. -/
def clientMoves (h : Host) (client : Client) : Bool :=
  match h.links[client.link]? with
  | none => false
  | some link =>
    let pipe := link.incoming client.side
    client.held && (!pipe.bytes.isEmpty || ((pipe.ended || pipe.reset) && !client.atEnd))

/-! ## Settling -/

/-- What a round came to: the host, whether anything moved, and the failures. -/
abbrev Round := Host × Bool × List RelayError

/-- Take note of how an update ended. -/
def count (moved : Bool) (errors : List RelayError) :
    Except RelayError UpdateStatus → Bool × List RelayError
  | .ok .processed => (true, errors)
  | .ok .timedOut => (moved, errors)
  | .error e => (moved, errors ++ [e])

/-- The broker, each connected endpoint by name, and each scripted socket act once. -/
def round (h : Host) : Round :=
  let (h, moved, errors) : Round := match h.broker? with
    | some b =>
      if b.listening then
        let (h, outcome) := h.updateBroker b 0 false
        let (moved, errors) := count false [] outcome
        (h, moved, errors)
      else (h, false, [])
    | none => (h, false, [])
  let (h, moved, errors) := (h.seats.map (·.1)).foldl (fun (h, moved, errors) name =>
    match h.seat? name with
    | some seat =>
      if seat.endpoint.phase = .connected then
        let (h, outcome) := h.updateEndpoint name seat 0
        let (moved, errors) := count moved errors outcome
        (h, moved, errors)
      else (h, moved, errors)
    | none => (h, moved, errors)) (h, moved, errors)
  (h.clients.map (·.1)).foldl (fun (h, moved, errors) name =>
    match h.clients.lookup name with
    | some client =>
      if h.clientMoves client then (h.readClient name client, true, errors) else (h, moved, errors)
    | none => (h, moved, errors)) (h, moved, errors)

/-- Repeat rounds while something moves, at most `rounds` times. -/
def settleWithin (h : Host) (errors : List RelayError) : Nat → Host × List RelayError
  | 0 => (h, errors)
  | rounds + 1 =>
    let (h, moved, more) := h.round
    if moved then h.settleWithin (errors ++ more) rounds else (h, errors ++ more)

/-- Let everybody act in turn until nothing moves. -/
def settle (h : Host) : Host × List RelayError := h.settleWithin [] 100000

end Host

end ChatRelay.Loopback
