import ChatRelay.Proofs.Broker.Session

/-!
# The frames of a peer

What the broker makes of a peer's bytes does not depend on how they were cut into reads, nor on how the
reads were spread over passes, nor on what happened in between. Only a pass that fails, be it for lack of
memory, leaves what it has read unhandled, and the peer is dropped.

- `Reassembled`: the frames handled for a peer are those of all its bytes, and the rest waits.
- `Passed`: what a pass adds to that; the messages and the output of the others are told too.
- `reassembly`: a live peer is reassembled, every pass keeps it so or drops the peer, and a name stays.
-/

namespace ChatRelay.Broker.Session

open ChatRelay.Broker.Traffic

variable {host : String} {s s' : Session} {id : PeerId} {p : Peer} {reads : List ReadEvent}

/-- What has become of all bytes read from a live peer: the frames handled are the complete ones, in
order, and the tail waits. The first frame is the name, even if it is empty, and only the later ones
are lines. -/
structure Reassembled (s : Session) (p : Peer) (bytes : List UInt8) : Prop where
  read : received p.connection s.broker.traffic = bytes
  handled : frames p.connection s.broker.traffic = (Frame.split bytes).1
  waiting : p.inbound.unconsumed = (Frame.split bytes).2
  name : p.name = (Frame.split bytes).1.head?.map Text.decodeLossy
  lines : s.broker.log.filter (·.sender = some p.connection) =
    Line.ofFrames p.connection none (Frame.split bytes).1

/-- A pass over a peer has handled some frames: its lines were added to the log and to the messages, and
all others that live on have got them. -/
structure Passed (s s' : Session) (id : PeerId) (p : Peer)
    (handled : List (List UInt8)) : Prop where
  frames : frames p.connection s'.broker.traffic = frames p.connection s.broker.traffic ++ handled
  log : s'.broker.log = s.broker.log ++ Line.ofFrames p.connection p.name handled
  /-- Each of its lines is a message, which is queued if there is memory for it. -/
  messages : Fills ((Line.ofFrames p.connection p.name handled).filterMap Line.message?) s.broker
    s'.broker
  others : ∀ other ≠ id, ∀ q', s'.broker.peers.get? other = some q' →
    ∃ q, s.broker.peers.get? other = some q ∧ q'.outbound.unconsumed = q.outbound.unconsumed ++
      (Line.ofFrames p.connection p.name handled).flatMap Line.wire

/-- A peer is gone, and the last line of the log tells how many of its bytes were dropped unread. -/
def DroppedWith (s : Session) (id : PeerId) (unread : List UInt8) : Prop :=
  s.broker.peers.get? id = none ∧ ∃ label unsent, s.broker.journal.back?.bind Entry.log? =
    some ⟨.info, "Peer disconnected",
      [("name", .text label), ("dropped_inbound", .number unread.length),
       ("dropped_outbound", .number unsent)]⟩

/-- The traffic accounts for a live peer, so its bytes are reassembled. -/
theorem Sound.reassembled (h : s.Sound host) (hp : s.broker.peers.get? id = some p) :
    Reassembled s p (received p.connection s.broker.traffic) := by
  obtain ⟨-, hname, hinbound, -⟩ := h.consistent.accords id p hp
  constructor
  · rfl
  · rw [hinbound]
  · rw [hinbound]
  · rw [hinbound]
    exact hname
  · rw [hinbound]
    exact h.consistent.named p.connection

/-- Whatever is dropped after a pass, the pass itself has handled the frames. -/
theorem passed_of_served {b b' : Broker} {p' : Peer} {handled : List (List UInt8)}
    {bytes : List UInt8}
    (h : Served id p p' (.received p.connection bytes :: Entry.ofFrames p.connection p.name handled)
      s.broker b) (hend : b' = b ∨ b' = b.close id) :
    Passed s { s with broker := b' } id p handled := by
  have hlines : lines (.received p.connection bytes :: Entry.ofFrames p.connection p.name handled) =
      Line.ofFrames p.connection p.name handled := lines_ofFrames ..
  have htraffic : b'.traffic = s.broker.traffic ++
      .received p.connection bytes :: Entry.ofFrames p.connection p.name handled := by
    rcases hend with rfl | rfl
    · exact h.traffic
    · exact (traffic_close b id).trans h.traffic
  constructor
  · show Traffic.frames p.connection b'.traffic = _
    rw [htraffic, frames_append]
    exact congrArg _ (frames_ofFrames p.connection p.name handled)
  · show Traffic.lines b'.traffic = _
    rw [htraffic, lines_append, hlines]
    rfl
  · have hmessages := h.messages
    rw [Traffic.messages, hlines] at hmessages
    rcases hend with rfl | rfl
    · exact hmessages
    · exact hmessages.keeps (keeps_close b id)
  · intro other hne q' hq'
    have hq' : b.peers.get? other = some q' := by
      rcases hend with rfl | rfl
      · exact hq'
      · rw [← hq']
        exact ((get?_close b id other).trans (if_neg hne)).symm
    obtain ⟨q, hq, hgains⟩ := h.others other hne q' hq'
    refine ⟨q, hq, ?_⟩
    rw [hgains.outbound, wires, hlines]

/-- The log line of a peer that is dropped. -/
theorem droppedWith_close {b : Broker} {p' : Peer} (hp : b.peers.get? id = some p')
    {unread : List UInt8} (hunread : p'.inbound.unconsumed = unread) :
    DroppedWith { s with broker := b.close id } id unread := by
  refine ⟨get?_close_self b id, p'.label, p'.outbound.unconsumed.length, ?_⟩
  show (b.close id).journal.back?.bind Entry.log? = _
  rw [back?_close hp, hunread]
  rfl

/-- The frames and the tail of all bytes after a pass, by those before it. -/
theorem split_pass (h : s.Sound host) (hp : s.broker.peers.get? id = some p) (bytes : List UInt8) :
    Frame.split (received p.connection s.broker.traffic ++ bytes) =
      (frames p.connection s.broker.traffic ++ (Frame.split (p.inbound.unconsumed ++ bytes)).1,
        (Frame.split (p.inbound.unconsumed ++ bytes)).2) := by
  rw [Frame.split_append, (h.consistent.accords id p hp).inbound]

/-- A pass that leaves its source open keeps the peer, and its bytes stay reassembled. -/
theorem pass_inProgress (h : s.Sound host) (hp : s.broker.peers.get? id = some p)
    (hend : (p.inbound.receive reads).outcome = .ok .inProgress) :
    Passed s (s.step (.readable id reads)) id p
        (Frame.split (p.inbound.unconsumed ++ (p.inbound.receive reads).received)).1 ∧
      ∃ p', (s.step (.readable id reads)).broker.peers.get? id = some p' ∧
        p'.connection = p.connection ∧
        Reassembled (s.step (.readable id reads)) p'
          (received p.connection s.broker.traffic ++ (p.inbound.receive reads).received) := by
  obtain ⟨served, tail, -, -, hserved, heq⟩ := serveReadable_ok hp hend
  rw [if_neg (by decide)] at heq
  have hown : (s.step (.readable id reads)).broker.peers.get? id = _ :=
    (congrArg (·.peers.get? id) heq).trans hserved.own
  refine ⟨passed_of_served hserved (Or.inl heq), _, hown, rfl, ?_⟩
  have hbytes : received p.connection (s.step (.readable id reads)).broker.traffic =
      received p.connection s.broker.traffic ++ (p.inbound.receive reads).received := by
    show received p.connection (s.broker.serveReadable id reads).1.traffic = _
    rw [heq, hserved.traffic, received_append, received_cons, received_ofFrames, List.append_nil]
  rw [← hbytes]
  exact (sound_step h (.readable id reads)).reassembled hown

/-- A pass that finds the end of its source, or a reset, handles all frames before the peer is dropped
with its tail. -/
theorem pass_closed (h : s.Sound host) (hp : s.broker.peers.get? id = some p)
    (hend : (p.inbound.receive reads).outcome = .ok .closed) :
    Passed s (s.step (.readable id reads)) id p
        (Frame.split (p.inbound.unconsumed ++ (p.inbound.receive reads).received)).1 ∧
      frames p.connection (s.step (.readable id reads)).broker.traffic =
        (Frame.split (received p.connection s.broker.traffic ++ (p.inbound.receive reads).received)).1 ∧
      DroppedWith (s.step (.readable id reads)) id
        (Frame.split (received p.connection s.broker.traffic ++ (p.inbound.receive reads).received)).2 := by
  obtain ⟨served, tail, htail, -, hserved, heq⟩ := serveReadable_ok hp hend
  rw [if_pos rfl] at heq
  have hpassed : Passed s (s.step (.readable id reads)) id p _ :=
    passed_of_served hserved (Or.inr heq)
  rw [split_pass h hp]
  have hstep : s.step (.readable id reads) = { s with broker := served.close id } :=
    congrArg (fun broker => { s with broker }) heq
  refine ⟨hpassed, hpassed.frames, ?_⟩
  rw [hstep]
  exact droppedWith_close hserved.own htail

/-- A pass that fails handles nothing, and the peer is dropped with all that it had sent. -/
theorem pass_error (hp : s.broker.peers.get? id = some p) {cause : RelayError}
    (hend : (p.inbound.receive reads).outcome = .error cause) :
    Passed s (s.step (.readable id reads)) id p [] ∧
      DroppedWith (s.step (.readable id reads)) id
        (p.inbound.unconsumed ++ (p.inbound.receive reads).received) := by
  obtain ⟨served, inbound, hinbound, -, hserved, heq⟩ := serveReadable_error hp hend
  have hnone : Entry.ofFrames p.connection p.name [] = [] := by cases p.name <;> rfl
  rw [← hnone] at hserved
  have hstep : s.step (.readable id reads) = { s with broker := served.close id } :=
    congrArg (fun broker => { s with broker }) heq
  refine ⟨passed_of_served hserved (Or.inr heq), ?_⟩
  rw [hstep]
  exact droppedWith_close hserved.own hinbound

/-- A name stays, whatever comes. -/
theorem name_run (h : s.Sound host) (hp : s.broker.peers.get? id = some p) (more : List Event)
    (h' : (s.run more).Sound host) {id' : PeerId} {p' : Peer}
    (hp' : (s.run more).broker.peers.get? id' = some p') (heq : p'.connection = p.connection)
    {name : String} (hname : p.name = some name) : p'.name = some name := by
  obtain ⟨entries, htraffic⟩ := prefix_traffic_run s more
  rw [(h'.consistent.accords id' p' hp').name, heq, ← htraffic, frames_append, nameIn_append,
    ← (h.consistent.accords id p hp).name, hname]
  rfl

/-- **The frames of a peer are those of its bytes, however they came.** In any reachable state the bytes
of a live peer are reassembled. A further pass over it, made of any reads, handles the frames that its
bytes complete: if the source is still open the peer stays, reassembled; if it has ended or was reset
only the tail is dropped, as the log tells; any other fault drops the peer before a frame is handled. While
memory is granted a pass reads all that the source gives, and only the source can fail. The name stays,
whatever comes. -/
theorem reassembly (settings : BrokerSettings) (multiplexer : Multiplexer) (supply : Supply)
    (events : List Event) {id : PeerId} {p : Peer}
    (hlive : ((start settings multiplexer supply).run events).broker.peers.get? id = some p) :
    let s := (start settings multiplexer supply).run events
    let bytes := received p.connection s.broker.traffic
    Reassembled s p bytes ∧
    (∀ reads, let s' := s.step (.readable id reads)
      let pass := p.inbound.receive reads
      (match pass.outcome with
      | .ok .inProgress =>
        Passed s s' id p (Frame.split (p.inbound.unconsumed ++ pass.received)).1 ∧
          ∃ p', s'.broker.peers.get? id = some p' ∧ p'.connection = p.connection ∧
            Reassembled s' p' (bytes ++ pass.received)
      | .ok .closed =>
        Passed s s' id p (Frame.split (p.inbound.unconsumed ++ pass.received)).1 ∧
          frames p.connection s'.broker.traffic = (Frame.split (bytes ++ pass.received)).1 ∧
          DroppedWith s' id (Frame.split (bytes ++ pass.received)).2
      | .error _ =>
        Passed s s' id p [] ∧ DroppedWith s' id (p.inbound.unconsumed ++ pass.received)) ∧
      (s.broker.Granted → pass.received = ReadEvent.delivered reads ∧
        pass.outcome = ReadEvent.ending reads)) ∧
    (∀ more id' p', (s.run more).broker.peers.get? id' = some p' → p'.connection = p.connection →
      ∀ name, p.name = some name → p'.name = some name) ∧
    (supply.Ample → s.broker.Granted) := by
  intro s bytes
  have h := sound_run settings multiplexer supply events
  refine ⟨h.reassembled hlive, fun reads => ⟨?_, fun hgranted => ?_⟩,
    fun more id' p' hp' heq name hname => ?_, fun hample => granted_run hample settings multiplexer events⟩
  · split
    · next hend => exact pass_inProgress h hlive hend
    · next hend => exact pass_closed h hlive hend
    · next hend => exact pass_error hlive hend
  · exact ByteQueue.received_receive (hgranted.peers id p hlive).inbound reads
  · have h' := sound_run settings multiplexer supply (events ++ more)
    rw [run_append] at h'
    exact name_run h hlive more h' hp' heq hname

/-- Bob's farewell comes with the front of one more line and the end of his stream. -/
def farewell : List ReadEvent := [.data (Text.utf8 "bye\x00uh"), .endOfStream]

/-- After the meeting Bob's lines are complete; his farewell is handled, and the rest is dropped. -/
theorem reassembly_meeting :
    let s := (start {} {}).run meeting
    ∃ p, s.broker.peers.get? secondPeer = some p ∧ Reassembled s p (Text.utf8 "bob\x00hello\x00") ∧
      frames p.connection (s.step (.readable secondPeer farewell)).broker.traffic =
        [Text.utf8 "bob", Text.utf8 "hello", Text.utf8 "bye"] ∧
      DroppedWith (s.step (.readable secondPeer farewell)) secondPeer (Text.utf8 "uh") := by
  intro s
  have hlive : (s.broker.peers.get? secondPeer).map (·.connection) = some 1 := by decide +kernel
  have hread : received 1 s.broker.traffic = Text.utf8 "bob\x00hello\x00" := by decide +kernel
  obtain ⟨p, hp, hone⟩ := Option.map_eq_some_iff.1 hlive
  obtain ⟨hreassembled, hpass, -, hgranted⟩ := reassembly {} {} {} meeting hp
  obtain ⟨hclosed, hall⟩ := hpass farewell
  obtain ⟨hreceived, hend⟩ := hall (hgranted Supply.ample_default)
  have hend : (p.inbound.receive farewell).outcome = .ok .closed := hend
  rw [hone, hread] at hreassembled
  simp only [hend, hone, hreceived] at hclosed
  rw [hread] at hclosed
  obtain ⟨-, hframes, hdropped⟩ := hclosed
  have hsplit : Frame.split (Text.utf8 "bob\x00hello\x00" ++ ReadEvent.delivered farewell) =
      ([Text.utf8 "bob", Text.utf8 "hello", Text.utf8 "bye"], Text.utf8 "uh") := by decide +kernel
  rw [hsplit] at hframes hdropped
  refine ⟨p, hp, hreassembled, ?_, hdropped⟩
  rw [hone]
  exact hframes

end ChatRelay.Broker.Session
