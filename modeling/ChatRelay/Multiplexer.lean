import ChatRelay.ByteQueue.Transfer
import ChatRelay.Peer.Id

/-!
# The readiness multiplexer

The multiplexer waits for many sockets at once. A socket is registered under a token with an interest;
a wait reports which tokens are ready. It may refuse any registration or change of interest, as an
operating system does.

- `Multiplexer.register`, `Multiplexer.rearm`, `Multiplexer.deregister`.
- `Readiness`, `PollOutcome`: what a wait reports.
-/

namespace ChatRelay

/-- What a socket is watched for. It is always watched for reading. -/
inductive Interest where
  | read
  | readWrite
  deriving DecidableEq, Repr, Inhabited

namespace Interest

/-- The interest that the bytes waiting to be sent imply: writing matters while there are some. -/
def forOutbound (outbound : ByteQueue) : Interest :=
  if outbound.hasPending then .readWrite else .read

/-- Whether writing matters. -/
def isWritable : Interest → Bool
  | read => false
  | readWrite => true

end Interest

/-- A socket the multiplexer can watch. -/
inductive Socket where
  | listener
  /-- The connection of this number. -/
  | connection (number : Nat)
  deriving DecidableEq, Repr, Inhabited

/-- A watched socket. -/
structure Registration where
  socket : Socket
  token : Token
  interest : Interest
  deriving DecidableEq, Repr

/-- The sockets that are watched, and the answers of the system to the requests to come: for each
whether it is refused and why; behind the last one all are granted. -/
structure Multiplexer where
  registrations : List Registration := []
  /-- The answers to the coming registrations. -/
  registerVerdicts : List (Option IoError) := []
  /-- The answers to the coming changes of interest. -/
  rearmVerdicts : List (Option IoError) := []
  deriving Repr

/-- The first of the answers to come, and those behind it. -/
def nextVerdict : List (Option IoError) → Except IoError Unit × List (Option IoError)
  | [] => (.ok (), [])
  | none :: rest => (.ok (), rest)
  | some cause :: rest => (.error cause, rest)

namespace Multiplexer

/-- The registration of a socket. -/
def find? (m : Multiplexer) (socket : Socket) : Option Registration :=
  m.registrations.find? (·.socket = socket)

/-- Whether a socket is watched. -/
def isRegistered (m : Multiplexer) (socket : Socket) : Bool := (m.find? socket).isSome

/-- Watch a socket. It must not be watched already. -/
def register (m : Multiplexer) (socket : Socket) (token : Token) (interest : Interest) :
    Multiplexer × Except IoError Unit :=
  if m.isRegistered socket then (m, .error (.os 17))
  else match nextVerdict m.registerVerdicts with
    | (.error cause, registerVerdicts) => ({ m with registerVerdicts }, .error cause)
    | (.ok (), registerVerdicts) =>
      ({ m with registerVerdicts, registrations := ⟨socket, token, interest⟩ :: m.registrations },
        .ok ())

/-- Change what a watched socket is watched for. -/
def rearm (m : Multiplexer) (socket : Socket) (token : Token) (interest : Interest) :
    Multiplexer × Except IoError Unit :=
  if m.isRegistered socket then
    match nextVerdict m.rearmVerdicts with
    | (.error cause, rearmVerdicts) => ({ m with rearmVerdicts }, .error cause)
    | (.ok (), rearmVerdicts) =>
      ({ m with rearmVerdicts, registrations := m.registrations.map fun r =>
          if r.socket = socket then ⟨socket, token, interest⟩ else r }, .ok ())
  else (m, .error (.os 2))

/-- Forget a socket, as when it is closed. -/
def forget (m : Multiplexer) (socket : Socket) : Multiplexer :=
  { m with registrations := m.registrations.filter (·.socket ≠ socket) }

/-- Stop watching a socket. It must be watched. -/
def deregister (m : Multiplexer) (socket : Socket) : Multiplexer × Except IoError Unit :=
  if m.isRegistered socket then (m.forget socket, .ok ()) else (m, .error (.os 2))

end Multiplexer

/-- What a ready socket will answer to the reads and writes of one pass. -/
structure Traffic where
  reads : List ReadEvent := []
  writes : List WriteEvent := []
  deriving Repr

/-- A ready socket. The end of its stream and a failure count as readable. -/
structure Readiness where
  token : Token
  readable : Bool := false
  writable : Bool := false
  traffic : Traffic := {}
  deriving Repr

/-- The answer of the listening socket to one attempt to accept; behind the last one an attempt would
block. -/
inductive AcceptEvent where
  | connection
  | fault (cause : IoError)
  deriving DecidableEq, Repr

/-- How a wait ended. -/
inductive PollOutcome where
  | failed (cause : IoError)
  /-- The ready sockets, none if the time ran out, and what the listening socket will answer. -/
  | delivered (ready : List Readiness) (accepts : List AcceptEvent)
  deriving Repr

/-- How a cycle of waiting and serving ended. -/
inductive UpdateStatus where
  /-- A ready socket was served. -/
  | processed
  /-- The wait expired with nothing ready. -/
  | timedOut
  deriving DecidableEq, Repr

end ChatRelay
