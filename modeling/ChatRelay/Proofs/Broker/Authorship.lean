import ChatRelay.Proofs.Broker.Session

/-!
# Who a line is from

A line reaches the other peers as one frame, and the hosting application as a message. The broker names
the author of the message by the registered name of the sender, while a receiver finds the author in the
frame, in front of the first separator. They agree exactly if the name holds no separator, and since
nothing checks the first frame of a connection, it may (`decoded_eq_queued_iff`).
-/

namespace ChatRelay

namespace Broker

open ChatRelay.Broker.Traffic

variable {b : Broker} {id : PeerId} {p : Peer}

/-- The frames of a live peer are frames: none holds a terminator. -/
theorem Consistent.terminator_not_mem (h : b.Consistent) (hp : b.peers.get? id = some p)
    {frame : List UInt8} (hframe : frame ∈ frames p.connection b.traffic) :
    Frame.terminator ∉ frame := by
  have hinbound := (h.accords id p hp).inbound
  have hmem : frame ∈ (Frame.split (received p.connection b.traffic)).1 := by
    rw [hinbound]
    exact hframe
  exact Frame.terminator_not_mem_of_mem_split hmem

/-- The broker `b` is about to handle a frame of a peer: the frame belongs to a pass of the first broker,
and the frames before it have been handled. -/
def AboutToHandle (b₀ : Broker) (id : PeerId) (frame : List UInt8) (b : Broker) : Prop :=
  ∃ reads handled later, (b₀.readIn id reads).1 = handled ++ frame :: later ∧
    b = (takeFrames id (b₀.readIn id reads).2 handled).1

/-- At that point the name of the peer is what its first frame gave, and neither that frame nor the one
to be handled holds a terminator. -/
theorem AboutToHandle.first {b₀ : Broker} (hb₀ : b₀.Consistent) {frame : List UInt8}
    (h : AboutToHandle b₀ id frame b) (hp : b.peers.get? id = some p) {name : String}
    (hname : p.name = some name) :
    ∃ first, (frames p.connection b.traffic).head? = some first ∧ name = Text.decodeLossy first ∧
      Frame.terminator ∉ first ∧ Frame.terminator ∉ frame := by
  obtain ⟨reads, handled, later, hpass, rfl⟩ := h
  cases hp₀ : b₀.peers.get? id with
  | none =>
    simp only [readIn, hp₀] at hpass
    exact absurd hpass (by simp)
  | some p₀ =>
    obtain ⟨hframes, -⟩ := served_readIn hp₀ reads
    obtain ⟨tail, -, -, hserved⟩ := served_readIn_takeFrames hp₀ reads handled
    have hown := hserved.own
    rw [hp] at hown
    cases hown
    have hsplit : ∀ f ∈ handled ++ frame :: later, Frame.terminator ∉ f := by
      rw [← hpass, hframes]
      exact fun f => Frame.terminator_not_mem_of_mem_split
    -- the frames so far are those before the pass and those of the pass that have been handled
    have hall : frames p₀.connection (takeFrames id (b₀.readIn id reads).2 handled).1.traffic =
        frames p₀.connection b₀.traffic ++ handled := by
      rw [hserved.traffic, frames_append]
      exact congrArg _ (frames_ofFrames p₀.connection p₀.name handled)
    have hgiven : nameIn (frames p₀.connection b₀.traffic ++ handled) = some name := by
      rw [nameIn_append, ← (hb₀.accords id p₀ hp₀).name]
      exact hname
    obtain ⟨first, hfirst, rfl⟩ := Option.map_eq_some_iff.1 hgiven
    refine ⟨first, ?_, rfl, ?_, hsplit frame (by simp)⟩
    · show (frames p₀.connection _).head? = some first
      rw [hall, hfirst]
    · rcases List.mem_append.1 (List.mem_of_head? hfirst) with hmem | hmem
      · exact hb₀.terminator_not_mem hp₀ hmem
      · exact hsplit first (List.mem_append_left _ hmem)

/-- Handling frames takes the memory for messages that is granted. -/
theorem AboutToHandle.granted {b₀ : Broker} {frame : List UInt8} (h : AboutToHandle b₀ id frame b)
    (hgranted : b₀.messages.memory.Ample) : b.messages.memory.Ample := by
  obtain ⟨reads, handled, later, hpass, rfl⟩ := h
  cases hp₀ : b₀.peers.get? id with
  | none =>
    simp only [readIn, hp₀] at hpass
    exact absurd hpass (by simp)
  | some p₀ =>
    obtain ⟨tail, -, -, hserved⟩ := served_readIn_takeFrames hp₀ reads handled
    exact hserved.messages.granted hgranted

namespace Session

/-- **When a receiver finds the author that the broker registered.** Take any frame that is handled in any
pass of any session, and the broker at that moment. If the sender has a name by then, the frame is
queued as a message under that name, if there is memory for messages. Every other peer that lives on gets bytes that are one frame
and decode to one message, and this is the queued message, or has the registered author at all, exactly
if the sender's first frame holds no newline. -/
theorem decoded_eq_queued_iff (settings : BrokerSettings) (multiplexer : Multiplexer) (supply : Supply)
    (events : List Event) {id : PeerId} {frame : List UInt8} {b : Broker}
    (hframe : AboutToHandle ((start settings multiplexer supply).run events).broker id frame b) {p : Peer}
    (hlive : b.peers.get? id = some p) {name : String} (hname : p.name = some name) :
    ∃ first, (frames p.connection b.traffic).head? = some first ∧ name = Text.decodeLossy first ∧
      (supply.messages.Ample → (takeFrame id b frame).1.messages.toList =
        b.messages.toList ++ [⟨name, Text.decodeLossy frame⟩]) ∧
      ∀ other ≠ id, ∀ q', (takeFrame id b frame).1.peers.get? other = some q' → ∃ q wire message,
        b.peers.get? other = some q ∧ q'.outbound.unconsumed = q.outbound.unconsumed ++ wire ∧
        (∀ queue : ByteQueue, queue.unconsumed = wire →
          queue.takeFrames.1.map Message.ofFrame = [.ok message] ∧
            queue.takeFrames.2.unconsumed = []) ∧
        (message = ⟨name, Text.decodeLossy frame⟩ ↔ Frame.separator ∉ first) ∧
        (message.author = name ↔ Frame.separator ∉ first) := by
  have hconsistent := (sound_run settings multiplexer supply events).consistent
  obtain ⟨first, hfirst, rfl, hterm, hterm'⟩ := hframe.first hconsistent hlive hname
  have hserved := served_takeFrame_named hlive hname frame
  refine ⟨first, hfirst, rfl, fun hgranted => ?_, fun other hne q' hq' => ?_⟩
  · exact hserved.messages.toList
      (hframe.granted (keeping_run hgranted settings multiplexer events).granted)
  obtain ⟨q, hq, hgains⟩ := hserved.others other hne q' hq'
  obtain ⟨message, hdecoded, hmessage, hauthor⟩ :=
    Message.ofFrame_relayed_iff (Text.decodeLossy first) frame
  rw [Frame.separator_mem_utf8_iff] at hmessage hauthor
  refine ⟨q, _, message, hq, hgains.outbound, fun queue hqueue => ?_, hmessage, hauthor⟩
  have hone : Frame.split queue.unconsumed =
      ([Text.utf8 (Text.decodeLossy first) ++ Frame.separator :: frame], []) := by
    rw [hqueue]
    refine (congrArg Frame.split (List.append_nil _)).trans (Frame.split_relayed ?_ hterm')
    exact mt (Frame.terminator_mem_utf8_iff first).1 hterm
  obtain ⟨hframes, htail⟩ := queue.takeFrames_eq
  rw [hframes, htail, hone]
  exact ⟨congrArg (fun m => [m]) hdecoded, rfl⟩

/-- A peer gives itself a name with a newline in it, while another one listens. -/
def imposture : List Event :=
  [.accept [.connection, .connection],
    .readable firstPeer [.data (Text.utf8 "server\nx\x00")]]

/-- The other one decodes a line of the first as a line of somebody else. -/
theorem decoded_ne_queued_imposture :
    ∃ b p q' message, AboutToHandle ((start {} {}).run imposture).broker firstPeer
      (Text.utf8 "hi") b ∧
      b.peers.get? firstPeer = some p ∧ p.name = some "server\nx" ∧
      (takeFrame firstPeer b (Text.utf8 "hi")).1.peers.get? secondPeer = some q' ∧
      (∀ queue : ByteQueue, queue.unconsumed = q'.outbound.unconsumed →
        queue.takeFrames.1.map Message.ofFrame = [.ok message]) ∧
      message.author ≠ "server\nx" := by
  let b := (((start {} {}).run imposture).broker.readIn firstPeer [.data (Text.utf8 "hi\x00")]).2
  have hframe : AboutToHandle ((start {} {}).run imposture).broker firstPeer (Text.utf8 "hi") b :=
    ⟨[.data (Text.utf8 "hi\x00")], [], [], by decide +kernel, rfl⟩
  have hnamed : (b.peers.get? firstPeer).map (·.name) = some (some "server\nx") := by decide +kernel
  have hsilent : (b.peers.get? secondPeer).map (·.outbound.unconsumed) = some [] := by
    decide +kernel
  have hlives : ((takeFrame firstPeer b (Text.utf8 "hi")).1.peers.get? secondPeer).isSome := by
    decide +kernel
  have hfirst : (frames 0 b.traffic).head? = some (Text.utf8 "server\nx") := by decide +kernel
  have hzero : (b.peers.get? firstPeer).map (·.connection) = some 0 := by decide +kernel
  obtain ⟨p, hp, hname⟩ := Option.map_eq_some_iff.1 hnamed
  obtain ⟨q', hq'⟩ := Option.isSome_iff_exists.1 hlives
  obtain ⟨first, hgave, -, -, hothers⟩ := decoded_eq_queued_iff {} {} {} imposture hframe hp hname
  obtain ⟨q, wire, message, hq, houtbound, hdecoded, -, hauthor⟩ :=
    hothers secondPeer (by decide) q' hq'
  rw [hp, Option.map_some, Option.some.injEq] at hzero
  rw [hq, Option.map_some, Option.some.injEq] at hsilent
  rw [hzero, hfirst, Option.some.injEq] at hgave
  rw [hsilent, List.nil_append] at houtbound
  refine ⟨b, p, q', message, hframe, hp, hname, hq', fun queue hqueue => ?_, fun heq => ?_⟩
  · exact (hdecoded queue (hqueue.trans houtbound)).1
  · refine hauthor.1 heq ?_
    rw [← hgave]
    decide +kernel

end Session

end Broker

end ChatRelay
