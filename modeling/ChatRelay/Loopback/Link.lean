import ChatRelay.Multiplexer

/-!
# Connections as byte pipes

A connection is a pair of ordered pipes, one for each direction. Bytes put in at one end come out at the
other in the same order, at once, and nothing is lost.
-/

namespace ChatRelay.Loopback

/-- One direction of a connection. -/
structure Pipe where
  /-- The bytes on their way. -/
  bytes : List UInt8 := []
  /-- Whether no byte will follow them. -/
  ended : Bool := false
  /-- Whether the sender broke the connection off. -/
  reset : Bool := false
  deriving Repr

namespace Pipe

/-- Put bytes in, unless the sender has ended. -/
def put (p : Pipe) (bytes : List UInt8) : Pipe :=
  if p.ended || p.reset then p else { p with bytes := p.bytes ++ bytes }

/-- Take out the first bytes. -/
def drop (p : Pipe) (count : Nat) : Pipe := { p with bytes := p.bytes.drop count }

/-- Whether the receiver has something to notice. -/
def isReadable (p : Pipe) : Bool := !p.bytes.isEmpty || p.ended || p.reset

/-- What a reader at the other end will be given: the bytes on their way, then the end if it has come. -/
def reads (p : Pipe) : List ReadEvent :=
  (if p.bytes.isEmpty then [] else [.data p.bytes]) ++
    (if p.reset then [.fault (.os 104)] else if p.ended then [.endOfStream] else [])

end Pipe

/-- A connection between the side that asked for it and the side that listened. -/
structure Link where
  /-- From the side that connected to the side that listened. -/
  inward : Pipe := {}
  /-- From the side that listened to the side that connected. -/
  outward : Pipe := {}
  deriving Repr

/-- The two sides of a connection. -/
inductive Side where
  /-- The side that connected. -/
  | connecting
  /-- The side that listened. -/
  | listening
  deriving DecidableEq, Repr

namespace Link

/-- The pipe that a side reads from. -/
def incoming (l : Link) : Side → Pipe
  | .connecting => l.outward
  | .listening => l.inward

/-- Change the pipe that a side reads from. -/
def mapIncoming (l : Link) (side : Side) (f : Pipe → Pipe) : Link :=
  match side with
  | .connecting => { l with outward := f l.outward }
  | .listening => { l with inward := f l.inward }

/-- Change the pipe that a side writes to. -/
def mapOutgoing (l : Link) (side : Side) (f : Pipe → Pipe) : Link :=
  match side with
  | .connecting => { l with inward := f l.inward }
  | .listening => { l with outward := f l.outward }

end Link

end ChatRelay.Loopback
