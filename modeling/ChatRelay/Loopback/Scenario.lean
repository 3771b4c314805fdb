import ChatRelay.Loopback.Basic

/-!
# Scenarios on one host

A scenario is a list of steps, each an operation of the broker, an endpoint or a scripted socket. Each step
gives an answer, and most are followed by settling. A scenario breaks off when a scripted socket cannot
connect or is not there.

- `Step`, `Answer`: what is done, and what comes of it.
- `Host.perform`: do one step.
-/

namespace ChatRelay.Loopback

/-- What an endpoint is to connect to. -/
inductive Target where
  | broker
  /-- The scripted listener, which accepts at once and names its socket. -/
  | remote (as : String)
  | address (text : String)
  deriving DecidableEq, Repr

/-- One step of a scenario. -/
inductive Step where
  | listen
  /-- Listen on a port that somebody else holds. -/
  | listenBusy
  | update (timeout : Nat)
  /-- An update while the process has no descriptor left. -/
  | failAccept (timeout : Nat)
  | feed (text : List UInt8)
  | pop
  | drain
  | descriptors
  | dropBroker
  | connect (client : String)
  /-- Send bytes in pieces, with a round of settling behind each. -/
  | send (client : String) (pieces : List (List UInt8))
  | close (client : String)
  | shutdown (client : String)
  | reset (client : String)
  | remoteListen
  | newEndpoint (endpoint : String) (settings : EndpointSettings)
  | connectEndpoint (endpoint : String) (target : Target)
  | feedEndpoint (endpoint : String) (text : List UInt8)
  | updateEndpoint (endpoint : String) (timeout : Nat)
  | popEndpoint (endpoint : String)
  | drainEndpoint (endpoint : String)
  | endpointDescriptors (endpoint : String)
  | dropEndpoint (endpoint : String)
  | settle
  deriving Repr

namespace Step

/-- Whether settling follows a step unless it is asked for otherwise. -/
def settles : Step → Bool
  | update _ | updateEndpoint _ _ | failAccept _ | pop | drain | popEndpoint _ | drainEndpoint _ => false
  | _ => true

end Step

/-- What comes of a step. -/
inductive Answer where
  | none
  | done (outcome : Except RelayError Unit)
  /-- Listening failed because somebody else holds that very port. -/
  | portBusy
  | updated (outcome : Except RelayError UpdateStatus)
  /-- How feeding or connecting ended, and the interest right behind it. -/
  | fed (outcome : Except RelayError Unit) (interest : Option Interest)
  | message (message : Option Message)
  | messages (messages : List Message)
  /-- Whether there is a listening socket. Its address is all interfaces. -/
  | brokerDescriptors (listener : Bool)
  | endpointDescriptors (socket : Bool)
  | named (outcome : Except RelayError String)

/-- Why a scenario broke off. -/
inductive Breakdown where
  /-- A scripted socket could not connect. -/
  | connect (cause : IoError)
  | unknownClient
  | unknownEndpoint
  | noBroker
  deriving DecidableEq, Repr

namespace Host

/-- What a step comes to. -/
abbrev Performance := Except Breakdown (Host × Answer × List RelayError)

/-- Work on the broker. -/
def withBroker (h : Host) (work : Broker → Host × Answer) : Performance :=
  match h.broker? with
  | none => .error .noBroker
  | some b => let (h, answer) := work b; .ok (h, answer, [])

/-- Work on an endpoint. -/
def withSeat (h : Host) (name : String) (work : Seat → Host × Answer) : Performance :=
  match h.seat? name with
  | none => .error .unknownEndpoint
  | some seat => let (h, answer) := work seat; .ok (h, answer, [])

/-- Work on a scripted socket. -/
def withClient (h : Host) (name : String) (work : Client → Host) : Performance :=
  match h.clients.lookup name with
  | none => .error .unknownClient
  | some client => .ok (work client, .done (.ok ()), [])

/-- Open a connection to the broker. -/
def openToBroker (h : Host) : Host × Nat :=
  let link := h.links.size
  ({ h with links := h.links.push {}, backlog := h.backlog ++ [link], arrivals := true }, link)

/-- Why connecting fails, if nobody listens or the interface is barred. -/
def obstacle (h : Host) (listens : Bool) : Option IoError :=
  match h.barrier with
  | some cause => some cause
  | none => if listens then none else some (.os 111)

/-- Whether the broker listens. -/
def brokerListens (h : Host) : Bool := h.broker?.any (·.listening)

/-- Have an endpoint connect. -/
def dialFrom (h : Host) (name : String) (seat : Seat) (target : Target) : Host × Answer :=
  let address := match target with
    | .broker | .remote _ => "127.0.0.1:7777"
    | .address text => text
  let obstacle := match target with
    | .broker => h.obstacle h.brokerListens
    | .remote _ => h.obstacle h.remoteListens
    | .address _ => h.obstacle false
  let dialer : Dialer := { resolve := SocketAddress.resolveLocally, attempt := fun _ => obstacle }
  let (e, outcome) := seat.endpoint.connect address dialer
  let (h, link?) := match outcome, target with
    | .ok (), .broker => let (h, link) := h.openToBroker; (h, some link)
    | .ok (), .remote as =>
      let link := h.links.size
      (({ h with links := h.links.push {} }).putClient as { link, side := .listening }, some link)
    | _, _ => (h, seat.link?)
  (h.settleEndpoint name e link?, .fed outcome e.interest?)

/-- Send pieces over a scripted socket, with a round of settling behind each. -/
def sendPieces (name : String) (h : Host) (errors : List RelayError) :
    List (List UInt8) → Host × List RelayError
  | [] => (h, errors)
  | piece :: rest =>
    match h.clients.lookup name with
    | none => (h, errors)
    | some client =>
      let h := h.mapLink client.link (·.mapOutgoing client.side (·.put piece))
      match rest with
      | [] => (h, errors)
      | _ =>
        let (h, _, more) := h.round
        sendPieces name h (errors ++ more) rest

/-- Let a scripted socket go, after reading what has come. -/
def releaseClient (h : Host) (name : String) (client : Client) (f : Pipe → Pipe) : Host :=
  let h := h.readClient name client
  let h := h.mapLink client.link (·.mapOutgoing client.side f)
  match h.clients.lookup name with
  | some client => h.putClient name { client with held := false }
  | none => h

/-- Do one step. -/
def perform (h : Host) : Step → Performance
  | .listen => h.withBroker fun b =>
    let (b, outcome) := b.listen 0 (.ok ())
    (h.settleBroker b, .done outcome)
  | .listenBusy => h.withBroker fun b =>
    let (b, outcome) := b.listen 7777 (.error (.bind (.os 98)))
    (h.settleBroker b, match outcome with
      | .error (.portBusy _) => .portBusy
      | outcome => .done outcome)
  | .update timeout => h.withBroker fun b =>
    let (h, outcome) := h.updateBroker b timeout false
    (h, .updated outcome)
  | .failAccept timeout => h.withBroker fun b =>
    let (h, outcome) := h.updateBroker b timeout true
    (h, .updated outcome)
  | .feed text => h.withBroker fun b =>
    let (b, outcome) := b.feed text
    (h.settleBroker b, .fed outcome b.interest?)
  | .pop => h.withBroker fun b =>
    match b.pop? with
    | none => (h, .message none)
    | some (m, b) => (h.settleBroker b, .message (some m))
  | .drain => h.withBroker fun b =>
    let (ms, messages) := b.messages.drain
    (h.settleBroker { b with messages }, .messages ms)
  | .descriptors => h.withBroker fun b => (h, .brokerDescriptors b.listening)
  | .dropBroker => h.withBroker fun _ =>
    let h := (h.accepted.toList ++ h.backlog).foldl (fun h link =>
      h.mapLink link (·.mapOutgoing .listening ({ · with ended := true }))) h
    ({ h with broker? := none, backlog := [], arrivals := false }, .done (.ok ()))
  | .connect client =>
    match h.obstacle h.brokerListens with
    | some cause => .error (.connect cause)
    | none =>
      let (h, link) := h.openToBroker
      .ok (h.putClient client { link, side := .connecting }, .done (.ok ()), [])
  | .send client pieces =>
    match h.clients.lookup client with
    | none => .error .unknownClient
    | some _ =>
      let (h, errors) := sendPieces client h [] pieces
      .ok (h, .done (.ok ()), errors)
  | .close client => h.withClient client fun c => h.releaseClient client c ({ · with ended := true })
  | .shutdown client => h.withClient client fun c =>
    h.mapLink c.link (·.mapOutgoing c.side ({ · with ended := true }))
  | .reset client => h.withClient client fun c =>
    h.releaseClient client c ({ · with bytes := [], reset := true })
  | .remoteListen => .ok ({ h with remoteListens := true }, .done (.ok ()), [])
  | .newEndpoint name settings =>
    match Endpoint.ofSettings settings with
    | .error cause => .ok (h, .named (.error cause), [])
    | .ok endpoint => .ok (h.putSeat name { endpoint }, .named (.ok endpoint.name), [])
  | .connectEndpoint name target => h.withSeat name fun seat => h.dialFrom name seat target
  | .feedEndpoint name text => h.withSeat name fun seat =>
    let (e, outcome) := seat.endpoint.feed text
    (h.settleEndpoint name e seat.link?, .fed outcome e.interest?)
  | .updateEndpoint name timeout => h.withSeat name fun seat =>
    let (h, outcome) := h.updateEndpoint name seat timeout
    (h, .updated outcome)
  | .popEndpoint name => h.withSeat name fun seat =>
    match seat.endpoint.pop? with
    | none => (h, .message none)
    | some (m, endpoint) => (h.putSeat name { seat with endpoint }, .message (some m))
  | .drainEndpoint name => h.withSeat name fun seat =>
    let (ms, messages) := seat.endpoint.messages.drain
    (h.putSeat name { seat with endpoint := { seat.endpoint with messages } }, .messages ms)
  | .endpointDescriptors name => h.withSeat name fun seat =>
    (h, .endpointDescriptors seat.endpoint.socket.isSome)
  | .dropEndpoint name => h.withSeat name fun seat =>
    let h := match seat.link? with
      | some link => h.mapLink link (·.mapOutgoing .connecting ({ · with ended := true }))
      | none => h
    ({ h with seats := h.seats.filter (·.1 ≠ name) }, .done (.ok ()))
  | .settle => .ok (h, .none, [])

/-- Forget what has been reported: the lines of the log, and what the scripted sockets received. -/
def reported (h : Host) : Host :=
  { h with
    log := #[]
    clients := h.clients.map fun (name, c) => (name, { c with received := [], endNoticed := false }) }

end Host

end ChatRelay.Loopback
