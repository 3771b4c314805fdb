import ChatRelay.Proofs.Broker.Relay
import ChatRelay.Proofs.ByteQueue.Transfer
import ChatRelay.Proofs.Framing
import ChatRelay.Proofs.MessageQueue.Intake

/-!
# Serving one peer

What a broker does for a ready peer, seen in the traffic it adds and in what becomes of the peers and of
the messages.

- `Broker.Granted`: a broker none of whose queues will be refused memory.
- `Broker.Fills`: what messages have come for the hosting application.
- `Broker.Served`: what serving a peer has come to, up to the point where it may be dropped.
- `Broker.KeepsRest`, `Broker.Touches`: what serving a peer leaves as it is.
- `served_takeFrames`: handling frames one after the other.
- `serveReadable_ok`, `serveReadable_error`: a pass of reading, by the way it ends.
- `keepsRest_serveReadable`: a pass of reading keeps all but peers and messages.
- `serveWritable_cases`: a pass of writing, which takes bytes from what waits for the peer.
- `touches_serveWritable`: a pass of writing touches nobody else.
-/

namespace ChatRelay

/-! ### Memory -/

/-- Neither queue of a peer to come will be refused memory. -/
structure Peer.Supply.Ample (supply : Peer.Supply) : Prop where
  inbound : supply.inbound.Ample
  outbound : supply.outbound.Ample

/-- Neither queue of a peer will be refused memory. -/
structure Peer.Granted (p : Peer) : Prop where
  inbound : p.inbound.memory.Ample
  outbound : p.outbound.memory.Ample

theorem Peer.Gains.all_granted {p p' : Peer} {bytes : List UInt8} (h : p.Gains bytes p')
    (hp : p.Granted) : p'.Granted :=
  ⟨h.inbound ▸ hp.inbound, h.granted hp.outbound⟩

namespace Broker

variable {b b' b'' : Broker} {id : PeerId} {p p' p'' : Peer} {entries more : List Entry}

/-- No queue will be refused memory. -/
structure Supply.Ample (supply : Supply) : Prop where
  messages : supply.messages.Ample
  localLines : supply.localLines.Ample
  peers : ∀ connection, (supply.peers connection).Ample

theorem Supply.ample_default : Supply.Ample {} :=
  ⟨Memory.ample_default, Memory.ample_default, fun _ => ⟨Memory.ample_default, Memory.ample_default⟩⟩

/-- No queue of a broker will be refused memory, nor one of a peer to come. -/
structure Granted (b : Broker) : Prop where
  messages : b.messages.memory.Ample
  localLines : b.localLines.memory.Ample
  supply : ∀ connection, (b.supply connection).Ample
  peers : ∀ id p, b.peers.get? id = some p → p.Granted

/-! ### What becomes of messages -/

/-- New messages have come to the second broker. -/
def Fills (new : List Message) (b b' : Broker) : Prop :=
  ∃ came, came.map Prod.fst = new ∧ TakesIn messages intake came b b'

namespace Fills

variable {new later : List Message}

theorem granted (h : Fills new b b') : b.messages.memory.Ample → b'.messages.memory.Ample := by
  obtain ⟨came, -, hcame⟩ := h
  exact hcame.granted

theorem trans (h : Fills new b b') (h' : Fills later b' b'') : Fills (new ++ later) b b'' := by
  obtain ⟨came, rfl, hfirst⟩ := h
  obtain ⟨more, rfl, hlater⟩ := h'
  exact ⟨came ++ more, List.map_append, hfirst.trans hlater⟩

/-- With memory, the new messages wait behind the others. -/
theorem toList (h : Fills new b b') (hgranted : b.messages.memory.Ample) :
    b'.messages.toList = b.messages.toList ++ new := by
  obtain ⟨came, rfl, hcame⟩ := h
  rw [hcame.queued, keptOf_eq (hcame.whole hgranted)]

end Fills

theorem fills_of_eq (hmessages : b'.messages = b.messages) (hintake : b'.intake = b.intake) :
    Fills [] b b' :=
  ⟨[], rfl, .of_eq hintake hmessages⟩

theorem Fills.refl (b : Broker) : Fills [] b b := fills_of_eq rfl rfl

theorem Keeps.fills (h : Keeps b b') : Fills [] b b' := fills_of_eq h.messages h.intake

/-- An operation on peers takes in nothing. -/
theorem Fills.keeps {new : List Message} (h : Fills new b b') (hkeeps : Keeps b' b'') :
    Fills new b b'' :=
  List.append_nil new ▸ h.trans hkeeps.fills

/-- A message is queued, or lost for lack of memory. -/
theorem fills_queueMessage (b : Broker) (message : Message) :
    Fills [message] b (b.queueMessage message).1 := by
  unfold queueMessage
  rcases htry : b.messages.tryPush message with ⟨messages, cause | ⟨⟩⟩
  · exact ⟨[(message, false)], rfl, .of_tryPush htry rfl (intake_note ..)⟩
  · exact ⟨[(message, true)], rfl, .of_tryPush htry rfl (intake_note ..)⟩

/-! ### What serving comes to -/

/-- The bytes of the lines of a piece of traffic, whoever sent them. -/
def Traffic.wires (entries : List Entry) : List UInt8 := (lines entries).flatMap Line.wire

@[simp] theorem Traffic.wires_append (entries more : List Entry) :
    wires (entries ++ more) = wires entries ++ wires more := by
  simp [wires]

/-- Serving a peer has added entries to the traffic and made `p'` of the peer. Every other peer that
lives on has gained the lines in those entries. -/
structure Served (id : PeerId) (p p' : Peer) (entries : List Entry) (b b' : Broker) : Prop where
  author : b'.author = b.author
  localLines : b'.localLines = b.localLines
  connections : b'.connections = b.connections
  supply : b'.supply = b.supply
  traffic : b'.traffic = b.traffic ++ entries
  messages : Fills (Traffic.messages entries) b b'
  own : b'.peers.get? id = some p'
  others : ∀ other ≠ id, ∀ q', b'.peers.get? other = some q' →
    ∃ q, b.peers.get? other = some q ∧ q.Gains (Traffic.wires entries) q'

theorem Served.refl (h : b.peers.get? id = some p) : Served id p p [] b b where
  author := rfl
  localLines := rfl
  connections := rfl
  supply := rfl
  traffic := (List.append_nil _).symm
  messages := Fills.refl b
  own := h
  others _ _ q' hq' := ⟨q', hq', Peer.Gains.refl q'⟩

theorem Served.trans (h : Served id p p' entries b b') (h' : Served id p' p'' more b' b'') :
    Served id p p'' (entries ++ more) b b'' where
  author := h'.author.trans h.author
  localLines := h'.localLines.trans h.localLines
  connections := h'.connections.trans h.connections
  supply := h'.supply.trans h.supply
  traffic := by rw [h'.traffic, h.traffic, List.append_assoc]
  messages := by
    rw [Traffic.messages_append]
    exact h.messages.trans h'.messages
  own := h'.own
  others := by
    intro other hne q'' hq''
    obtain ⟨q', hq', hlater⟩ := h'.others other hne q'' hq''
    obtain ⟨q, hq, hfirst⟩ := h.others other hne q' hq'
    rw [Traffic.wires_append]
    exact ⟨q, hq, hfirst.trans hlater⟩

/-- Changing a peer and writing down an entry that is no line. -/
theorem served_modify (h : b.peers.get? id = some p) (f : Peer → Peer) (entry : Entry)
    (htraffic : entry.isTraffic) (hline : entry.line? = none) (hintake : entry.intake? = none) :
    Served id p (f p) [entry] b (note { b with peers := b.peers.modify id f } entry) where
  author := rfl
  localLines := rfl
  connections := rfl
  supply := rfl
  traffic := traffic_note htraffic
  messages := by
    rw [Traffic.messages, Traffic.lines, List.filterMap_cons, hline]
    exact ((keeps_peers b _ b.multiplexer).trans (keeps_note _ hintake)).fills
  own := by
    rw [peers_note, PeerTable.get?_modify, if_pos rfl, h]
    rfl
  others := by
    intro other hne q' hq'
    rw [peers_note, PeerTable.get?_modify, if_neg hne] at hq'
    rw [Traffic.wires, Traffic.lines, List.filterMap_cons, hline]
    exact ⟨q', hq', Peer.Gains.refl q'⟩

/-- What is written down besides the traffic does not count. -/
theorem Served.note (h : Served id p p' entries b b') {entry : Entry} (hentry : ¬entry.isTraffic)
    (hintake : entry.intake? = none) : Served id p p' entries b (b'.note entry) :=
  { h with
    traffic := (traffic_note_of_not hentry).trans h.traffic
    messages := h.messages.keeps (keeps_note b' hintake) }

/-- If the peer that is served is granted all memory, so is everyone as before. -/
theorem Served.granted (h : Served id p p' entries b b') (hb : b.Granted) (hown : p'.Granted) :
    b'.Granted where
  messages := h.messages.granted hb.messages
  localLines := h.localLines ▸ hb.localLines
  supply := h.supply ▸ hb.supply
  peers := by
    intro other q' hq'
    by_cases hother : other = id
    · rw [hother, h.own] at hq'
      cases hq'
      exact hown
    · obtain ⟨q, hq, hgains⟩ := h.others other hother q' hq'
      exact hgains.all_granted (hb.peers other q hq)

theorem Granted.close (h : b.Granted) (id : PeerId) : (b.close id).Granted := by
  have hkeeps := keeps_close b id
  refine ⟨hkeeps.messages ▸ h.messages, hkeeps.localLines ▸ h.localLines, hkeeps.supply ▸ h.supply,
    fun other q hq => ?_⟩
  rw [get?_close] at hq
  split at hq
  · cases hq
  · exact h.peers other q hq

/-! ### What serving keeps -/

/-- The second broker is the first but for its peers, what the multiplexer knows of them, its messages
and what was written down. -/
structure KeepsRest (b b' : Broker) : Prop where
  author : b'.author = b.author
  listening : b'.listening = b.listening
  localLines : b'.localLines = b.localLines
  acceptPending : b'.acceptPending = b.acceptPending
  connections : b'.connections = b.connections

theorem Keeps.rest (h : Keeps b b') : KeepsRest b b' := { h with }

theorem KeepsRest.trans (h : KeepsRest b b') (h' : KeepsRest b' b'') : KeepsRest b b'' where
  author := h'.author.trans h.author
  listening := h'.listening.trans h.listening
  localLines := h'.localLines.trans h.localLines
  acceptPending := h'.acceptPending.trans h.acceptPending
  connections := h'.connections.trans h.connections

/-! ### Handling frames -/

/-- The entries that the frames of a connection make, given the name it had before. -/
def Entry.ofFrames (connection : Nat) : Option String → List (List UInt8) → List Entry
  | _, [] => []
  | none, frame :: rest =>
    joined connection frame :: ofFrames connection (some (Text.decodeLossy frame)) rest
  | some author, frame :: rest =>
    relayed (some connection) author frame :: ofFrames connection (some author) rest

/-- The first frame of a peer becomes its name. -/
theorem served_takeFrame_unnamed (h : b.peers.get? id = some p) (hname : p.name = none)
    (frame : List UInt8) :
    Served id p { p with name := some (Text.decodeLossy frame) } [.joined p.connection frame] b
      (takeFrame id b frame).1 := by
  have heq : (takeFrame id b frame).1 = note { b with peers := b.peers.modify id fun p =>
      { p with name := some (Text.decodeLossy frame) } } (.joined p.connection frame) := by
    simp only [takeFrame, h, hname]
  rw [heq]
  exact served_modify h (fun p => { p with name := some (Text.decodeLossy frame) }) _ rfl rfl rfl

/-- Queueing a message changes the messages, and what was written down besides the traffic. -/
theorem queueMessage_eq (b : Broker) (message : Message) :
    ∃ messages entry, ¬entry.isTraffic ∧
      (b.queueMessage message).1 = note { b with messages } entry := by
  unfold queueMessage
  rcases b.messages.tryPush message with ⟨messages, cause | ⟨⟩⟩
  · exact ⟨messages, .messageLost message cause, by simp [Entry.isTraffic], rfl⟩
  · exact ⟨messages, .queued message, by simp [Entry.isTraffic], rfl⟩

/-- A later frame of a peer is a line of it, for all others and for the hosting application. -/
theorem served_takeFrame_named (h : b.peers.get? id = some p) {author : String}
    (hname : p.name = some author) (frame : List UInt8) :
    Served id p p [.relayed (some p.connection) author frame] b (takeFrame id b frame).1 := by
  have heq : takeFrame id b frame =
      (b.relay (some id) author frame).queueMessage ⟨author, Text.decodeLossy frame⟩ := by
    simp only [takeFrame, h, hname]
  have hsender : (some id).bind b.connection? = some p.connection := by
    rw [Option.bind_some, connection?, h, Option.map_some]
  have hkeeps := keeps_relay b (some id) author frame
  have hfills := hkeeps.fills.trans
    (fills_queueMessage (b.relay (some id) author frame) ⟨author, Text.decodeLossy frame⟩)
  obtain ⟨messages, entry, hentry, hqueued⟩ :=
    queueMessage_eq (b.relay (some id) author frame) ⟨author, Text.decodeLossy frame⟩
  rw [hqueued] at hfills
  rw [heq, hqueued]
  exact {
    author := hkeeps.author
    localLines := hkeeps.localLines
    connections := hkeeps.connections
    supply := hkeeps.supply
    traffic := by
      rw [traffic_note_of_not hentry, ← hsender]
      exact traffic_relay b (some id) author frame
    messages := hfills
    own := (get?_relay_sender b id author frame).trans h
    others := by
      intro other hne q' hq'
      have hwires : Traffic.wires [.relayed (some p.connection) author frame] =
          Frame.relayed (Text.utf8 author) frame := List.append_nil _
      rw [hwires]
      obtain ⟨q, hq, -, hgains⟩ := survivor_relay hq' fun heq => hne (Option.some.inj heq)
      exact ⟨q, hq, hgains⟩ }

/-- Frames are handled one after the other, whatever becomes of the earlier ones. -/
theorem fst_takeFrames (id : PeerId) (b : Broker) (frames : List (List UInt8)) :
    (takeFrames id b frames).1 = frames.foldl (fun b frame => (takeFrame id b frame).1) b :=
  fst_inTurn ..

/-- Handling frames one after the other makes the entries of all of them, and the first frame of a peer
without a name stays its name. -/
theorem served_takeFrames (h : b.peers.get? id = some p) (frames : List (List UInt8)) :
    Served id p { p with name := p.name.or (nameIn frames) }
      (Entry.ofFrames p.connection p.name frames) b (takeFrames id b frames).1 := by
  rw [fst_takeFrames]
  induction frames generalizing b p with
  | nil =>
    have hsame : { p with name := p.name.or (nameIn []) } = p := by
      rw [show nameIn [] = none from rfl, Option.or_none]
    rw [hsame]
    cases hname : p.name <;> exact Served.refl h
  | cons frame rest ih =>
    -- the entries of the rest depend on the name that this frame leaves
    cases hname : p.name with
    | none =>
      have hfirst := served_takeFrame_unnamed h hname frame
      exact hfirst.trans (ih hfirst.own)
    | some author =>
      have hfirst := served_takeFrame_named h hname frame
      have hlater := hfirst.trans (ih hfirst.own)
      rw [hname] at hlater
      exact hlater

/-! ### A pass of reading -/

theorem serveReadable_of_none (h : b.peers.get? id = none) (reads : List ReadEvent) :
    b.serveReadable id reads = (b, .ok ()) := by
  simp only [serveReadable, h]

/-- What a pass that does not fail has read: the frames to be handled, and the broker before it handles
them. -/
def readIn (b : Broker) (id : PeerId) (reads : List ReadEvent) : List (List UInt8) × Broker :=
  match b.peers.get? id with
  | none => ([], b)
  | some peer =>
    let pass := peer.inbound.receive reads
    let (frames, tail) := pass.queue.takeFrames
    (frames, note { b with peers := b.peers.modify id fun p => { p with inbound := tail } }
      (.received peer.connection pass.received))

/-- A pass that does not fail handles the frames it has read one after the other. At the end of the
stream the peer is dropped after that. -/
theorem serveReadable_eq_takeFrames (h : b.peers.get? id = some p) {reads : List ReadEvent}
    {status : ReceiveStatus} (hok : (p.inbound.receive reads).outcome = .ok status) :
    b.serveReadable id reads =
      let (served, outcome) := takeFrames id (b.readIn id reads).2 (b.readIn id reads).1
      (if status = .closed then served.close id else served, outcome) := by
  simp only [serveReadable, readIn, h, hok]
  cases status with
  | inProgress => rfl
  | closed => rfl

/-- The frames of a pass are those of the bytes that waited and came, and the tail waits on. -/
theorem served_readIn (h : b.peers.get? id = some p) (reads : List ReadEvent) :
    (b.readIn id reads).1 =
        (Frame.split (p.inbound.unconsumed ++ (p.inbound.receive reads).received)).1 ∧
      ∃ tail, tail.unconsumed =
        (Frame.split (p.inbound.unconsumed ++ (p.inbound.receive reads).received)).2 ∧
        (p.inbound.memory.Ample → tail.memory.Ample) ∧
        Served id p { p with inbound := tail }
          [.received p.connection (p.inbound.receive reads).received] b
          (b.readIn id reads).2 := by
  obtain ⟨hframes, htail⟩ := (p.inbound.receive reads).queue.takeFrames_eq
  rw [ByteQueue.unconsumed_receive] at hframes htail
  have hread := served_modify h
    (fun q => { q with inbound := (p.inbound.receive reads).queue.takeFrames.2 })
    (.received p.connection (p.inbound.receive reads).received) rfl rfl rfl
  simp only [readIn, h]
  refine ⟨hframes, _, htail, fun hgranted => ?_, hread⟩
  rw [ByteQueue.memory_takeFrames]
  exact ByteQueue.ample_receive hgranted reads

/-- The frames of a pass, handled up to some point. -/
theorem served_readIn_takeFrames (h : b.peers.get? id = some p) (reads : List ReadEvent)
    (frames : List (List UInt8)) :
    ∃ tail, tail.unconsumed =
        (Frame.split (p.inbound.unconsumed ++ (p.inbound.receive reads).received)).2 ∧
      (p.inbound.memory.Ample → tail.memory.Ample) ∧
      Served id p { p with inbound := tail, name := p.name.or (nameIn frames) }
        (.received p.connection (p.inbound.receive reads).received ::
          Entry.ofFrames p.connection p.name frames) b
        (takeFrames id (b.readIn id reads).2 frames).1 := by
  obtain ⟨-, tail, htail, hgranted, hread⟩ := served_readIn h reads
  exact ⟨tail, htail, hgranted, hread.trans (served_takeFrames hread.own frames)⟩

/-- A pass that does not fail handles every complete frame. -/
theorem serveReadable_ok (h : b.peers.get? id = some p) {reads : List ReadEvent}
    {status : ReceiveStatus} (hok : (p.inbound.receive reads).outcome = .ok status) :
    ∃ served tail,
      tail.unconsumed =
        (Frame.split (p.inbound.unconsumed ++ (p.inbound.receive reads).received)).2 ∧
      (p.inbound.memory.Ample → tail.memory.Ample) ∧
      Served id p
        { p with
          inbound := tail
          name := p.name.or
            (nameIn (Frame.split (p.inbound.unconsumed ++ (p.inbound.receive reads).received)).1) }
        (.received p.connection (p.inbound.receive reads).received ::
          Entry.ofFrames p.connection p.name
            (Frame.split (p.inbound.unconsumed ++ (p.inbound.receive reads).received)).1) b served ∧
      (b.serveReadable id reads).1 = if status = .closed then served.close id else served := by
  obtain ⟨hframes, -⟩ := served_readIn h reads
  obtain ⟨tail, htail, hgranted, hserved⟩ := served_readIn_takeFrames h reads
    (Frame.split (p.inbound.unconsumed ++ (p.inbound.receive reads).received)).1
  refine ⟨_, tail, htail, hgranted, hserved, ?_⟩
  rw [serveReadable_eq_takeFrames h hok, hframes]

/-- A pass that fails handles no frame, and the peer is dropped with all that it has sent. -/
theorem serveReadable_error (h : b.peers.get? id = some p) {reads : List ReadEvent}
    {cause : RelayError} (herror : (p.inbound.receive reads).outcome = .error cause) :
    ∃ served inbound,
      inbound.unconsumed = p.inbound.unconsumed ++ (p.inbound.receive reads).received ∧
      (p.inbound.memory.Ample → inbound.memory.Ample) ∧
      Served id p { p with inbound } [.received p.connection (p.inbound.receive reads).received] b
        served ∧
      (b.serveReadable id reads).1 = served.close id := by
  have hread := served_modify h (fun q => { q with inbound := (p.inbound.receive reads).queue })
    (.received p.connection (p.inbound.receive reads).received) rfl rfl rfl
  -- no frame is cut off, so what is dropped is all that waited and came
  have hfailed : ¬(Entry.receiveFailed p.connection cause).isTraffic := by simp [Entry.isTraffic]
  refine ⟨_, _, ByteQueue.unconsumed_receive .., fun hgranted => ByteQueue.ample_receive hgranted reads,
    hread.note hfailed rfl, ?_⟩
  simp only [serveReadable, h, herror]
  rfl

theorem keepsRest_takeFrame (id : PeerId) (b : Broker) (frame : List UInt8) :
    KeepsRest b (takeFrame id b frame).1 := by
  unfold takeFrame
  split
  · exact (Keeps.refl b).rest
  split
  · exact ⟨rfl, rfl, rfl, rfl, rfl⟩
  · next author _ =>
    obtain ⟨messages, entry, -, heq⟩ :=
      queueMessage_eq (b.relay (some id) author frame) ⟨author, Text.decodeLossy frame⟩
    rw [heq]
    exact (keeps_relay b (some id) author frame).rest.trans ⟨rfl, rfl, rfl, rfl, rfl⟩

theorem keepsRest_takeFrames (id : PeerId) (b : Broker) (frames : List (List UInt8)) :
    KeepsRest b (takeFrames id b frames).1 := by
  rw [fst_takeFrames]
  exact List.foldlRecOn (motive := KeepsRest b) _ _ (Keeps.refl b).rest
    fun b' hb' frame _ => hb'.trans (keepsRest_takeFrame id b' frame)

/-- A pass that fails only notes what it has read before it drops the peer. -/
theorem serveReadable_eq_close (hp : b.peers.get? id = some p) {reads : List ReadEvent}
    {cause : RelayError} (herror : (p.inbound.receive reads).outcome = .error cause) :
    ∃ inbound, b.serveReadable id reads =
      ((note { b.note (.received p.connection (p.inbound.receive reads).received) with
        peers := b.peers.modify id fun q => { q with inbound } }
          (.receiveFailed p.connection cause)).close id, .ok ()) := by
  refine ⟨(p.inbound.receive reads).queue, ?_⟩
  simp only [serveReadable, hp, herror, peers_note]

/-- Cutting off the frames of a pass changes the input of the peer only. -/
theorem readIn_eq (hp : b.peers.get? id = some p) (reads : List ReadEvent) :
    ∃ tail, (b.readIn id reads).2 = note { b with
      peers := b.peers.modify id fun q => { q with inbound := tail } }
        (.received p.connection (p.inbound.receive reads).received) := by
  refine ⟨(p.inbound.receive reads).queue.takeFrames.2, ?_⟩
  simp only [readIn, hp]

theorem keepsRest_serveReadable (b : Broker) (id : PeerId) (reads : List ReadEvent) :
    KeepsRest b (b.serveReadable id reads).1 := by
  cases hp : b.peers.get? id with
  | none =>
    rw [serveReadable_of_none hp]
    exact (Keeps.refl b).rest
  | some p =>
    cases hend : (p.inbound.receive reads).outcome with
    | error cause =>
      obtain ⟨inbound, heq⟩ := serveReadable_eq_close hp hend
      rw [heq]
      refine KeepsRest.trans ?_ (keeps_close _ id).rest
      exact ⟨rfl, rfl, rfl, rfl, rfl⟩
    | ok status =>
      obtain ⟨tail, heq⟩ := readIn_eq hp reads
      have hread : KeepsRest b (b.readIn id reads).2 := by
        rw [heq]
        exact ⟨rfl, rfl, rfl, rfl, rfl⟩
      have hframes := hread.trans (keepsRest_takeFrames id _ (b.readIn id reads).1)
      rw [serveReadable_eq_takeFrames hp hend]
      simp only
      split
      · exact hframes.trans (keeps_close _ id).rest
      · exact hframes

/-- With memory for messages, handling a frame does not fail. -/
theorem takeFrame_of_ample (hgranted : b.messages.memory.Ample) (id : PeerId) (frame : List UInt8) :
    (takeFrame id b frame).1.messages.memory.Ample ∧ (takeFrame id b frame).2 = .ok () := by
  unfold takeFrame
  split
  · exact ⟨hgranted, rfl⟩
  split
  · exact ⟨hgranted, rfl⟩
  · next author _ =>
    have hrelayed : (b.relay (some id) author frame).messages.memory.Ample :=
      (keeps_relay b (some id) author frame).messages ▸ hgranted
    refine ⟨(fills_queueMessage _ _).granted hrelayed, ?_⟩
    unfold queueMessage
    rw [(MessageQueue.tryPush_of_ample hrelayed _).1]

theorem takeFrames_of_ample (hgranted : b.messages.memory.Ample) (id : PeerId)
    (frames : List (List UInt8)) :
    (takeFrames id b frames).1.messages.memory.Ample ∧ (takeFrames id b frames).2 = .ok () :=
  inTurn_ok (P := fun b => b.messages.memory.Ample) hgranted
    fun _ hb frame _ => takeFrame_of_ample hb id frame

/-- Nor does a pass of reading, whatever becomes of the peer. -/
theorem serveReadable_of_ample (hgranted : b.messages.memory.Ample) (id : PeerId)
    (reads : List ReadEvent) :
    (b.serveReadable id reads).1.messages.memory.Ample ∧ (b.serveReadable id reads).2 = .ok () := by
  cases hp : b.peers.get? id with
  | none =>
    rw [serveReadable_of_none hp]
    exact ⟨hgranted, rfl⟩
  | some p =>
    have hclose (b : Broker) : (b.close id).messages = b.messages := (keeps_close b id).messages
    cases hend : (p.inbound.receive reads).outcome with
    | error cause =>
      obtain ⟨inbound, heq⟩ := serveReadable_eq_close hp hend
      rw [heq, hclose]
      exact ⟨hgranted, rfl⟩
    | ok status =>
      obtain ⟨tail, heq⟩ := readIn_eq hp reads
      have hread : (b.readIn id reads).2.messages.memory.Ample := heq ▸ hgranted
      obtain ⟨hkept, hok⟩ := takeFrames_of_ample hread id (b.readIn id reads).1
      rw [serveReadable_eq_takeFrames hp hend]
      refine ⟨?_, hok⟩
      simp only
      split
      · rw [hclose]
        exact hkept
      · exact hkept

/-! ### A pass of writing -/

theorem serveWritable_of_none (h : b.peers.get? id = none) (writes : List WriteEvent) :
    b.serveWritable id writes = b := by
  simp only [serveWritable, h]

/-- The second peer is the first with the first bytes of its output written. -/
structure Sends (bytes : List UInt8) (p p' : Peer) : Prop where
  connection : p'.connection = p.connection
  name : p'.name = p.name
  inbound : p'.inbound = p.inbound
  outbound : bytes ++ p'.outbound.unconsumed = p.outbound.unconsumed
  memory : p'.outbound.memory = p.outbound.memory

/-- Syncing the interest of the peer that is served changes neither what it has nor the others. -/
theorem Served.syncInterest (h : Served id p p' entries b b') :
    ∃ armed, Served id p { p' with armed } entries b (b'.syncInterest id).1 := by
  obtain ⟨multiplexer, armed, heq⟩ := syncInterest_eq b' id
  have hkeeps := keeps_syncInterest b' id
  refine ⟨armed, ?_⟩
  exact {
    author := hkeeps.author.trans h.author
    localLines := hkeeps.localLines.trans h.localLines
    connections := hkeeps.connections.trans h.connections
    supply := hkeeps.supply.trans h.supply
    traffic := (traffic_syncInterest b' id).trans h.traffic
    messages := h.messages.keeps hkeeps
    own := by
      rw [heq]
      show (b'.peers.modify id _).get? id = _
      rw [PeerTable.get?_modify, if_pos rfl, h.own]
      rfl
    others := by
      intro other hne q' hq'
      rw [get?_syncInterest_of_ne hne] at hq'
      exact h.others other hne q' hq' }

/-- A pass of writing takes from what waits for the peer, which may then be dropped. -/
theorem serveWritable_cases (h : b.peers.get? id = some p) (writes : List WriteEvent) :
    ∃ served p', Sends (p.outbound.send writes).written p p' ∧
      Served id p p' [.wrote p.connection (p.outbound.send writes).written] b served ∧
      (b.serveWritable id writes = served ∨ b.serveWritable id writes = served.close id) := by
  have hsent := served_modify h (fun q => { q with outbound := (p.outbound.send writes).queue })
    (.wrote p.connection (p.outbound.send writes).written) rfl rfl rfl
  have hsends : Sends (p.outbound.send writes).written p
      { p with outbound := (p.outbound.send writes).queue } :=
    ⟨rfl, rfl, rfl, p.outbound.written_append_unconsumed_send writes, p.outbound.memory_send writes⟩
  have hfailed (cause : RelayError) : ¬(Entry.sendFailed p.connection cause).isTraffic := by
    simp [Entry.isTraffic]
  cases houtcome : (p.outbound.send writes).outcome with
  | error cause =>
    refine ⟨_, _, hsends, hsent.note (hfailed cause) rfl, Or.inr ?_⟩
    simp only [serveWritable, h, houtcome]
  | ok status =>
    cases status with
    | partly =>
      refine ⟨_, _, hsends, hsent, Or.inl ?_⟩
      simp only [serveWritable, h, houtcome]
    | complete =>
      obtain ⟨armed, hsynced⟩ := hsent.syncInterest
      have hsends' : Sends (p.outbound.send writes).written p
          { p with outbound := (p.outbound.send writes).queue, armed } :=
        ⟨rfl, rfl, rfl, hsends.outbound, hsends.memory⟩
      simp only [serveWritable, h, houtcome]
      -- the peer stays or goes as the multiplexer answers
      split
      · next heq =>
        rw [heq] at hsynced
        exact ⟨_, _, hsends', hsynced, Or.inl rfl⟩
      · next cause heq =>
        rw [heq] at hsynced
        exact ⟨_, _, hsends', hsynced.note (hfailed (.system cause)) rfl, Or.inr rfl⟩

/-- What a pass of writing leaves, before it is known what becomes of the peer. -/
def writeOut (b : Broker) (id : PeerId) (p : Peer) (writes : List WriteEvent) : Broker :=
  note { b with peers := b.peers.modify id fun q =>
    { q with outbound := (p.outbound.send writes).queue } }
      (.wrote p.connection (p.outbound.send writes).written)

theorem serveWritable_eq (hp : b.peers.get? id = some p) (writes : List WriteEvent) :
    b.serveWritable id writes =
      match (p.outbound.send writes).outcome with
      | .ok .partly => b.writeOut id p writes
      | .ok .complete =>
        match (b.writeOut id p writes).syncInterest id with
        | (b', .ok ()) => b'
        | (b', .error cause) => (b'.note (.sendFailed p.connection (.system cause))).close id
      | .error cause => ((b.writeOut id p writes).note (.sendFailed p.connection cause)).close id := by
  simp only [serveWritable, hp]
  rfl

/-- The second broker is the first but for one peer, what the multiplexer knows of it, and what was
written down. -/
structure Touches (id : PeerId) (b b' : Broker) : Prop where
  keeps : Keeps b b'
  others : ∀ other ≠ id, b'.peers.get? other = b.peers.get? other

theorem Touches.fail (h : Touches id b b') {entry : Entry} (hintake : entry.intake? = none) :
    Touches id b ((b'.note entry).close id) where
  keeps := (h.keeps.trans (keeps_note b' hintake)).trans (keeps_close _ id)
  others other hne := by
    rw [get?_close, if_neg hne]
    exact h.others other hne

/-- Writing to a peer touches nobody else. -/
theorem touches_serveWritable (b : Broker) (id : PeerId) (writes : List WriteEvent) :
    Touches id b (b.serveWritable id writes) := by
  cases hp : b.peers.get? id with
  | none =>
    rw [serveWritable_of_none hp]
    exact ⟨.refl b, fun _ _ => rfl⟩
  | some p =>
    have hwritten : Touches id b (b.writeOut id p writes) :=
      ⟨(keeps_peers b _ b.multiplexer).trans (keeps_note _ rfl), fun other hne =>
        (PeerTable.get?_modify ..).trans (if_neg hne)⟩
    have hsynced : Touches id b ((b.writeOut id p writes).syncInterest id).1 :=
      ⟨hwritten.keeps.trans (keeps_syncInterest _ id), fun other hne =>
        (get?_syncInterest_of_ne hne).trans (hwritten.others other hne)⟩
    rw [serveWritable_eq hp]
    split
    · exact hwritten
    · split
      · next heq =>
        rw [heq] at hsynced
        exact hsynced
      · next heq =>
        rw [heq] at hsynced
        exact hsynced.fail rfl
    · exact hwritten.fail rfl

end Broker

end ChatRelay
