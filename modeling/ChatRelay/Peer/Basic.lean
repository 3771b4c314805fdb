import ChatRelay.Multiplexer

/-!
# Peers

A peer is one accepted connection of the broker: its socket, the bytes that came in and those that wait
to go out, the display name it announced, and the interest the multiplexer was last told.
-/

namespace ChatRelay

/-- What the allocator answers to the two queues of a peer. -/
structure Peer.Supply where
  inbound : Memory := {}
  outbound : Memory := {}

/-- One accepted connection. -/
structure Peer where
  /-- The number of the connection. -/
  connection : Nat
  /-- The display name, once the first frame has come. -/
  name : Option String := none
  inbound : ByteQueue := .empty
  outbound : ByteQueue := .empty
  /-- The interest last handed to the multiplexer. -/
  armed : Interest := .read

namespace Peer

/-- A connection that has just been accepted. -/
def ofConnection (connection : Nat) (supply : Supply) : Peer where
  connection
  inbound := .ofMemory supply.inbound
  outbound := .ofMemory supply.outbound

/-- The socket of a peer. -/
def socket (p : Peer) : Socket := .connection p.connection

/-- The interest that the waiting output implies. -/
def interest (p : Peer) : Interest := .forOutbound p.outbound

/-- The name in log lines. -/
def label (p : Peer) : String := p.name.getD "<unnamed>"

/-- Have the multiplexer watch a peer. The interest counts as handed over even if it is refused. -/
def register (p : Peer) (m : Multiplexer) (id : PeerId) :
    Peer × Multiplexer × Except IoError Unit :=
  let p := { p with armed := p.interest }
  let (m, outcome) := m.register p.socket id.token p.armed
  (p, m, outcome)

/-- Hand the present interest to the multiplexer if it changed. -/
def syncInterest (p : Peer) (m : Multiplexer) (id : PeerId) :
    Peer × Multiplexer × Except IoError Unit :=
  if p.interest = p.armed then (p, m, .ok ())
  else match m.rearm p.socket id.token p.interest with
    | (m, .ok ()) => ({ p with armed := p.interest }, m, .ok ())
    | (m, .error cause) => (p, m, .error cause)

/-- Have the multiplexer stop watching a peer. -/
def deregister (p : Peer) (m : Multiplexer) : Multiplexer × Except IoError Unit :=
  m.deregister p.socket

end Peer

end ChatRelay
