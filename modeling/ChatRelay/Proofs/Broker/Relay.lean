import ChatRelay.Proofs.Broker.Traffic
import ChatRelay.Proofs.Peer.Table

/-!
# Relaying a line

What a line does to the peers of a broker. A peer that lives on has got the line behind the output it
had and is otherwise the same; its sender is not touched at all. Peers may be dropped on the way, when
there is no memory for the line or the multiplexer refuses to arm them.

- `Peer.Gains`: a peer that differs by bytes queued for it.
- `Broker.Keeps`: what an operation leaves alone that only touches peers.
- `Broker.Queued`: what queueing a line for some peers has come to.
- `survivor_relay`, `get?_relay_sender`, `traffic_relay`: the effect of a line.
-/

namespace ChatRelay

/-- The second peer is the first with some bytes more to send. What the multiplexer was told may
differ. -/
structure Peer.Gains (bytes : List UInt8) (p p' : Peer) : Prop where
  connection : p'.connection = p.connection
  name : p'.name = p.name
  inbound : p'.inbound = p.inbound
  outbound : p'.outbound.unconsumed = p.outbound.unconsumed ++ bytes
  granted : p.outbound.memory.Ample → p'.outbound.memory.Ample

theorem Peer.Gains.refl (p : Peer) : p.Gains [] p where
  connection := rfl
  name := rfl
  inbound := rfl
  outbound := (List.append_nil _).symm
  granted := id

theorem Peer.Gains.trans {p p' p'' : Peer} {bytes more : List UInt8} (h : p.Gains bytes p')
    (h' : p'.Gains more p'') : p.Gains (bytes ++ more) p'' where
  connection := h'.connection.trans h.connection
  name := h'.name.trans h.name
  inbound := h'.inbound.trans h.inbound
  outbound := by rw [h'.outbound, h.outbound, List.append_assoc]
  granted := h'.granted ∘ h.granted

namespace Broker

/-- The second broker is the first but for its peers, what the multiplexer knows of them, and what
was written down. -/
structure Keeps (b b' : Broker) : Prop where
  author : b'.author = b.author
  listening : b'.listening = b.listening
  messages : b'.messages = b.messages
  localLines : b'.localLines = b.localLines
  acceptPending : b'.acceptPending = b.acceptPending
  connections : b'.connections = b.connections
  intake : b'.intake = b.intake
  supply : b'.supply = b.supply

theorem Keeps.refl (b : Broker) : Keeps b b := ⟨rfl, rfl, rfl, rfl, rfl, rfl, rfl, rfl⟩

theorem keeps_peers (b : Broker) (peers : PeerTable Peer) (multiplexer : Multiplexer) :
    Keeps b { b with peers, multiplexer } := ⟨rfl, rfl, rfl, rfl, rfl, rfl, rfl, rfl⟩

theorem Keeps.trans {b b' b'' : Broker} (h : Keeps b b') (h' : Keeps b' b'') : Keeps b b'' where
  author := h'.author.trans h.author
  listening := h'.listening.trans h.listening
  messages := h'.messages.trans h.messages
  localLines := h'.localLines.trans h.localLines
  acceptPending := h'.acceptPending.trans h.acceptPending
  connections := h'.connections.trans h.connections
  intake := h'.intake.trans h.intake
  supply := h'.supply.trans h.supply

variable {b : Broker} {id other : PeerId}

/-! ### Writing down -/

@[simp] theorem peers_note (b : Broker) (entry : Entry) : (b.note entry).peers = b.peers := rfl

theorem intake_note (b : Broker) (entry : Entry) :
    (b.note entry).intake = b.intake ++ entry.intake?.toList := by
  simp only [intake, note, Array.toList_push, List.filterMap_append, List.filterMap_cons,
    List.filterMap_nil]
  cases entry.intake? <;> rfl

theorem keeps_note (b : Broker) {entry : Entry} (h : entry.intake? = none) :
    Keeps b (b.note entry) :=
  ⟨rfl, rfl, rfl, rfl, rfl, rfl, by rw [intake_note, h]; exact List.append_nil _, rfl⟩

/-- An entry of the traffic is added to it. -/
theorem traffic_note {entry : Entry} (h : entry.isTraffic) :
    (b.note entry).traffic = b.traffic ++ [entry] := by
  simp [traffic, note, h]

/-- Any other entry is not. -/
theorem traffic_note_of_not {entry : Entry} (h : ¬entry.isTraffic) :
    (b.note entry).traffic = b.traffic := by
  simp [traffic, note, h]

/-! ### Dropping a peer -/

/-- Nothing happens if no peer is dropped. Otherwise the peer leaves the table, and its departure is the
last thing written down. -/
theorem close_cases (b : Broker) (id : PeerId) :
    (b.peers.get? id = none ∧ b.close id = b) ∨
      ∃ p peers multiplexer noted, b.peers.remove? id = some (p, peers) ∧
        (noted = { b with peers, multiplexer } ∨
          ∃ cause, noted = note { b with peers, multiplexer }
            (.deregistrationFailed p.connection cause)) ∧
        b.close id = noted.note
          (.left p.connection p.label p.inbound.pending p.outbound.pending) := by
  unfold close
  split
  · next h => exact Or.inl ⟨PeerTable.remove?_eq_none_iff.1 h, rfl⟩
  · next p peers h =>
    rcases p.deregister b.multiplexer with ⟨multiplexer, cause | ⟨⟩⟩
    · exact Or.inr ⟨p, peers, multiplexer.forget p.socket, _, h, Or.inr ⟨cause, rfl⟩, rfl⟩
    · exact Or.inr ⟨p, peers, multiplexer.forget p.socket, _, h, Or.inl rfl, rfl⟩

/-- A dropped peer is gone, and all others stay as they are. -/
theorem get?_close (b : Broker) (id other : PeerId) :
    (b.close id).peers.get? other = if other = id then none else b.peers.get? other := by
  rcases close_cases b id with ⟨h, heq⟩ | ⟨p, peers, multiplexer, noted, h, hnoted, heq⟩
  · rw [heq]
    split
    · next hid => rw [hid, h]
    · rfl
  · have hpeers : (b.close id).peers = peers := by
      rcases hnoted with rfl | ⟨cause, rfl⟩ <;> rw [heq] <;> rfl
    rw [hpeers, PeerTable.get?_of_remove? h]

theorem get?_close_self (b : Broker) (id : PeerId) : (b.close id).peers.get? id = none :=
  (get?_close b id id).trans (if_pos rfl)

theorem keeps_close (b : Broker) (id : PeerId) : Keeps b (b.close id) := by
  rcases close_cases b id with ⟨-, heq⟩ | ⟨p, peers, multiplexer, noted, -, hnoted, heq⟩
  · rw [heq]
    exact Keeps.refl b
  · rw [heq]
    refine Keeps.trans ?_ (keeps_note noted rfl)
    rcases hnoted with rfl | ⟨cause, rfl⟩
    · exact keeps_peers b peers multiplexer
    · exact (keeps_peers b peers multiplexer).trans (keeps_note _ rfl)

@[simp] theorem traffic_close (b : Broker) (id : PeerId) : (b.close id).traffic = b.traffic := by
  rcases close_cases b id with ⟨-, heq⟩ | ⟨p, peers, multiplexer, noted, -, hnoted, heq⟩
  · rw [heq]
  · rw [heq, traffic_note_of_not (by simp [Entry.isTraffic])]
    rcases hnoted with rfl | ⟨cause, rfl⟩
    · rfl
    · exact traffic_note_of_not (by simp [Entry.isTraffic])

/-- The last thing written down of a dropped peer is how many bytes were unread and unsent. -/
theorem back?_close {p : Peer} (h : b.peers.get? id = some p) :
    (b.close id).journal.back? =
      some (.left p.connection p.label p.inbound.unconsumed.length p.outbound.unconsumed.length) := by
  rcases close_cases b id with ⟨hnone, -⟩ | ⟨q, peers, multiplexer, noted, hremove, -, heq⟩
  · rw [hnone] at h
    cases h
  · rw [PeerTable.get?_self_of_remove? hremove] at h
    cases h
    rw [heq, ByteQueue.length_unconsumed, ByteQueue.length_unconsumed]
    exact Array.back?_push

/-- Of several dropped peers none is left, and all others stay as they are. -/
theorem get?_foldl_close (b : Broker) (dropped : List PeerId) (other : PeerId) :
    (dropped.foldl close b).peers.get? other =
      if other ∈ dropped then none else b.peers.get? other := by
  induction dropped generalizing b with
  | nil => simp
  | cons id rest ih =>
    rw [List.foldl_cons, ih, get?_close]
    by_cases hrest : other ∈ rest
    · rw [if_pos hrest, if_pos (List.mem_cons_of_mem _ hrest)]
    · simp only [if_neg hrest, List.mem_cons, or_iff_left hrest]

theorem keeps_foldl_close (b : Broker) (dropped : List PeerId) :
    Keeps b (dropped.foldl close b) := by
  induction dropped generalizing b with
  | nil => exact Keeps.refl b
  | cons id rest ih => exact (keeps_close b id).trans (ih (b.close id))

@[simp] theorem traffic_foldl_close (b : Broker) (dropped : List PeerId) :
    (dropped.foldl close b).traffic = b.traffic := by
  induction dropped generalizing b with
  | nil => rfl
  | cons id rest ih => rw [List.foldl_cons, ih, traffic_close]

/-! ### Queueing a line for one peer -/

/-- Syncing the interest of a peer changes what the multiplexer was told of it. -/
theorem syncInterest_eq (b : Broker) (id : PeerId) :
    ∃ multiplexer armed, (b.syncInterest id).1 =
      { b with multiplexer, peers := b.peers.modify id fun p => { p with armed } } := by
  unfold syncInterest
  split
  · next h =>
    -- with no such peer nothing is modified, so any interest will do
    refine ⟨b.multiplexer, .read, ?_⟩
    have hnot : ¬b.peers.contains id := by
      rw [PeerTable.contains_iff]
      rintro ⟨p, hp⟩
      rw [h] at hp
      cases hp
    rw [PeerTable.modify, if_neg hnot]
  · exact ⟨_, _, rfl⟩

theorem keeps_syncInterest (b : Broker) (id : PeerId) : Keeps b (b.syncInterest id).1 := by
  obtain ⟨multiplexer, armed, heq⟩ := syncInterest_eq b id
  rw [heq]
  exact keeps_peers ..

@[simp] theorem traffic_syncInterest (b : Broker) (id : PeerId) :
    (b.syncInterest id).1.traffic = b.traffic := by
  obtain ⟨multiplexer, armed, heq⟩ := syncInterest_eq b id
  rw [heq]
  rfl

theorem get?_syncInterest_of_ne (h : other ≠ id) :
    (b.syncInterest id).1.peers.get? other = b.peers.get? other := by
  obtain ⟨multiplexer, armed, heq⟩ := syncInterest_eq b id
  rw [heq]
  show (b.peers.modify id _).get? other = _
  rw [PeerTable.get?_modify, if_neg h]

/-- A peer gains nothing when its interest is synced. -/
theorem gains_syncInterest {p' : Peer} (h : (b.syncInterest id).1.peers.get? other = some p') :
    ∃ p, b.peers.get? other = some p ∧ p'.outbound = p.outbound ∧ p.Gains [] p' := by
  obtain ⟨multiplexer, armed, heq⟩ := syncInterest_eq b id
  rw [heq] at h
  change (b.peers.modify id _).get? other = some p' at h
  rw [PeerTable.get?_modify] at h
  split at h
  · obtain ⟨p, hp, rfl⟩ := Option.map_eq_some_iff.1 h
    exact ⟨p, hp, rfl, rfl, rfl, rfl, (List.append_nil _).symm, fun hgranted => hgranted⟩
  · exact ⟨p', h, rfl, Peer.Gains.refl p'⟩

variable {author body : List UInt8}

/-- What queueing a line for one peer comes to: nothing without the peer, a part of the frame without
memory for it, and else the whole frame, with the multiplexer told of it. -/
theorem enqueue_cases (b : Broker) (author body : List UInt8) (id : PeerId) :
    (b.peers.get? id = none ∧ b.enqueue author body id = (b, .ok ())) ∨
      ∃ p, b.peers.get? id = some p ∧
        let grown := { b with peers := b.peers.modify id fun q =>
          { q with outbound := p.outbound.pushRelayed author body } }
        (∃ cause, (p.outbound.tryPushRelayed author body).2 = .error cause ∧
          b.enqueue author body id = (grown, .error cause)) ∨
        ((p.outbound.tryPushRelayed author body).2 = .ok () ∧ b.enqueue author body id =
          ((grown.syncInterest id).1, (grown.syncInterest id).2.mapError .system)) := by
  unfold enqueue
  cases hp : b.peers.get? id with
  | none => exact Or.inl ⟨rfl, rfl⟩
  | some p =>
    refine Or.inr ⟨p, rfl, ?_⟩
    simp only [ByteQueue.pushRelayed]
    rcases p.outbound.tryPushRelayed author body with ⟨outbound, cause | ⟨⟩⟩
    · exact Or.inl ⟨cause, rfl, rfl⟩
    · exact Or.inr ⟨rfl, rfl⟩

theorem keeps_enqueue (b : Broker) (author body : List UInt8) (id : PeerId) :
    Keeps b (b.enqueue author body id).1 := by
  obtain ⟨-, heq⟩ | ⟨p, -, ⟨cause, -, heq⟩ | ⟨-, heq⟩⟩ := enqueue_cases b author body id
  · rw [heq]
    exact Keeps.refl b
  · rw [heq]
    exact keeps_peers ..
  · rw [heq]
    exact (keeps_peers ..).trans (keeps_syncInterest _ id)

@[simp] theorem traffic_enqueue (b : Broker) (author body : List UInt8) (id : PeerId) :
    (b.enqueue author body id).1.traffic = b.traffic := by
  obtain ⟨-, heq⟩ | ⟨p, -, ⟨cause, -, heq⟩ | ⟨-, heq⟩⟩ := enqueue_cases b author body id
  · rw [heq]
  · rw [heq]
    rfl
  · rw [heq]
    exact traffic_syncInterest _ id

theorem get?_enqueue_of_ne (h : other ≠ id) :
    (b.enqueue author body id).1.peers.get? other = b.peers.get? other := by
  obtain ⟨-, heq⟩ | ⟨p, -, ⟨cause, -, heq⟩ | ⟨-, heq⟩⟩ := enqueue_cases b author body id
  · rw [heq]
  · rw [heq]
    show (b.peers.modify id _).get? other = _
    rw [PeerTable.get?_modify, if_neg h]
  · rw [heq]
    show (syncInterest _ id).1.peers.get? other = _
    rw [get?_syncInterest_of_ne h]
    show (b.peers.modify id _).get? other = _
    rw [PeerTable.get?_modify, if_neg h]

/-- The peer for which a line has been queued has gained the frame of the line, for which there was
memory. -/
theorem gains_enqueue {p' : Peer} (hok : (b.enqueue author body id).2 = .ok ())
    (h : (b.enqueue author body id).1.peers.get? id = some p') :
    ∃ p, b.peers.get? id = some p ∧
      p.outbound.tryPushRelayed author body = (p'.outbound, .ok ()) ∧
      p.Gains (Frame.relayed author body) p' := by
  obtain ⟨hnone, heq⟩ | ⟨p, hp, ⟨cause, -, heq⟩ | ⟨hpush, heq⟩⟩ := enqueue_cases b author body id
  · rw [heq, hnone] at h
    cases h
  · rw [heq] at hok
    cases hok
  · rw [heq] at h
    obtain ⟨q, hq, hsame, hgains⟩ := gains_syncInterest h
    change (b.peers.modify id _).get? id = some q at hq
    rw [PeerTable.get?_modify, if_pos rfl, hp] at hq
    cases hq
    have hqueued : p.Gains (Frame.relayed author body)
        { p with outbound := p.outbound.pushRelayed author body } :=
      ⟨rfl, rfl, rfl, ByteQueue.unconsumed_of_tryPushRelayed hpush,
        fun hgranted => (ByteQueue.tryPushRelayed_of_ample hgranted author body).2⟩
    have htrans := hqueued.trans hgains
    rw [List.append_nil] at htrans
    exact ⟨p, hp, Prod.ext hsame.symm hpush, htrans⟩

/-! ### Queueing a line for several peers -/

/-- A peer for which a line could not be queued is set down as failed. -/
theorem relayTo_cases (author body : List UInt8) (progress : Broker × List PeerId) (id : PeerId) :
    ((progress.1.enqueue author body id).2 = .ok () ∧
      relayTo author body progress id = ((progress.1.enqueue author body id).1, progress.2)) ∨
      ((relayTo author body progress id).2 = progress.2 ++ [id] ∧
        ((relayTo author body progress id).1 = (progress.1.enqueue author body id).1 ∨
          ∃ connection cause, (relayTo author body progress id).1 =
            (progress.1.enqueue author body id).1.note (.relayFailed connection cause)) ∧
        (progress.1.enqueue author body id).2 ≠ .ok ()) := by
  unfold relayTo
  split
  · next heq =>
    rw [heq]
    exact Or.inl ⟨rfl, rfl⟩
  · next cause heq =>
    rw [heq]
    refine Or.inr ⟨rfl, ?_, nofun⟩
    split
    · next connection _ => exact Or.inr ⟨connection, cause, rfl⟩
    · exact Or.inl rfl

/-- What queueing a line for some peers has come to: those peers, as far as they are live and have not
failed, have gained its frame, and all else is the same. -/
structure Queued (author body : List UInt8) (ids failed : List PeerId) (b b' : Broker) : Prop where
  keeps : Keeps b b'
  traffic : b'.traffic = b.traffic
  untouched : ∀ other ∉ ids, b'.peers.get? other = b.peers.get? other
  gains : ∀ other ∈ ids, other ∉ failed → ∀ p', b'.peers.get? other = some p' →
    ∃ p, b.peers.get? other = some p ∧
      p.outbound.tryPushRelayed author body = (p'.outbound, .ok ()) ∧
      p.Gains (Frame.relayed author body) p'

theorem queued_relayTo (author body : List UInt8) (progress : Broker × List PeerId) (id : PeerId) :
    Queued author body [id] (relayTo author body progress id).2 progress.1
      (relayTo author body progress id).1 := by
  have huntouched : ∀ other ∉ [id],
      (progress.1.enqueue author body id).1.peers.get? other = progress.1.peers.get? other :=
    fun other hother => get?_enqueue_of_ne (List.ne_of_not_mem_cons hother)
  have hkeeps := keeps_enqueue progress.1 author body id
  have htraffic := traffic_enqueue progress.1 author body id
  rcases relayTo_cases author body progress id with ⟨hok, heq⟩ | ⟨hfailed, heq, -⟩
  · rw [heq]
    refine ⟨hkeeps, htraffic, huntouched, fun other hother _ p' hp' => ?_⟩
    rw [List.mem_singleton.1 hother] at hp' ⊢
    exact gains_enqueue hok hp'
  · have hnone : ∀ other ∈ [id], other ∉ (relayTo author body progress id).2 → False := by
      intro other hother hnot
      rw [hfailed] at hnot
      exact hnot (List.mem_append_right _ hother)
    rcases heq with heq | ⟨connection, cause, heq⟩
    · rw [heq]
      exact ⟨hkeeps, htraffic, huntouched, fun other hother hnot => (hnone other hother hnot).elim⟩
    · rw [heq]
      refine ⟨hkeeps.trans (keeps_note _ rfl), ?_, huntouched,
        fun other hother hnot => (hnone other hother hnot).elim⟩
      rw [traffic_note_of_not (by simp [Entry.isTraffic]), htraffic]

/-- Only peers for which a line was to be queued are set down as failed. -/
theorem mem_failed_relayTo {author body : List UInt8} {progress : Broker × List PeerId}
    (h : other ∈ (relayTo author body progress id).2) : other ∈ progress.2 ∨ other = id := by
  rcases relayTo_cases author body progress id with ⟨-, heq⟩ | ⟨heq, -⟩
  · rw [heq] at h
    exact Or.inl h
  · rw [heq, List.mem_append, List.mem_singleton] at h
    exact h

/-- Who has been set down as failed stays so. -/
theorem mem_failed_foldl_relayTo {author body : List UInt8} {ids : List PeerId}
    {progress : Broker × List PeerId} (h : other ∈ progress.2) :
    other ∈ (ids.foldl (relayTo author body) progress).2 := by
  induction ids generalizing progress with
  | nil => exact h
  | cons id rest ih =>
    refine ih ?_
    rcases relayTo_cases author body progress id with ⟨-, heq⟩ | ⟨heq, -⟩
    · rwa [heq]
    · rw [heq]
      exact List.mem_append_left _ h

/-- Each of several different peers gains the frame of the line once, unless it fails. -/
theorem queued_foldl_relayTo (author body : List UInt8) {ids : List PeerId} (hnodup : ids.Nodup)
    (progress : Broker × List PeerId) :
    Queued author body ids (ids.foldl (relayTo author body) progress).2 progress.1
        (ids.foldl (relayTo author body) progress).1 ∧
      ∀ other ∈ (ids.foldl (relayTo author body) progress).2, other ∈ progress.2 ∨ other ∈ ids := by
  induction ids generalizing progress with
  | nil =>
    exact ⟨⟨Keeps.refl _, rfl, fun _ _ => rfl, fun _ h => nomatch h⟩, fun _ h => Or.inl h⟩
  | cons id rest ih =>
    -- the first peer is not among the others, or it would gain the frame twice
    obtain ⟨hid, hrest⟩ := List.nodup_cons.1 hnodup
    obtain ⟨hqueued, hfailed⟩ := ih hrest (relayTo author body progress id)
    have hfirst := queued_relayTo author body progress id
    rw [List.foldl_cons]
    refine ⟨⟨hfirst.keeps.trans hqueued.keeps, hqueued.traffic.trans hfirst.traffic, ?_, ?_⟩, ?_⟩
    · intro other hother
      rw [List.mem_cons, not_or] at hother
      rw [hqueued.untouched other hother.2,
        hfirst.untouched other (mt List.mem_singleton.1 hother.1)]
    · intro other hother hnot p' hp'
      rcases List.mem_cons.1 hother with rfl | hlater
      · rw [hqueued.untouched other hid] at hp'
        exact hfirst.gains other List.mem_cons_self (mt mem_failed_foldl_relayTo hnot) p' hp'
      · obtain ⟨p, hp, hgains⟩ := hqueued.gains other hlater hnot p' hp'
        have hne : other ∉ [id] := by
          rw [List.mem_singleton]
          rintro rfl
          exact hid hlater
        rw [hfirst.untouched other hne] at hp
        exact ⟨p, hp, hgains⟩
    · intro other hother
      rcases hfailed other hother with hother | hother
      · rcases mem_failed_relayTo hother with hother | rfl
        · exact Or.inl hother
        · exact Or.inr List.mem_cons_self
      · exact Or.inr (List.mem_cons_of_mem _ hother)

/-! ### Relaying -/

/-- The peers that a line is queued for, and those of them that fail. -/
theorem relay_eq (b : Broker) (sender : Option PeerId) (author : String) (body : List UInt8) :
    ∃ (queued : Broker) (failed : List PeerId), b.relay sender author body =
      failed.foldl close queued ∧
      Queued (Text.utf8 author) body (b.peers.ids.filter fun id => some id ≠ sender) failed
        (b.note (.relayed (sender.bind b.connection?) author body)) queued ∧
      ∀ other ∈ failed, some other ≠ sender := by
  have hnodup : (b.peers.ids.filter fun id => some id ≠ sender).Nodup :=
    (b.peers.nodup_ids).filter _
  obtain ⟨hqueued, hfailed⟩ := queued_foldl_relayTo (Text.utf8 author) body hnodup
    (b.note (.relayed (sender.bind b.connection?) author body), [])
  refine ⟨_, _, rfl, hqueued, ?_⟩
  intro other hother
  rcases hfailed other hother with hother | hother
  · cases hother
  · simpa using (List.mem_filter.1 hother).2

theorem keeps_relay (b : Broker) (sender : Option PeerId) (author : String) (body : List UInt8) :
    Keeps b (b.relay sender author body) := by
  obtain ⟨queued, failed, heq, hqueued, -⟩ := relay_eq b sender author body
  rw [heq]
  exact (keeps_note b rfl).trans (hqueued.keeps.trans (keeps_foldl_close ..))

/-- A line is set down once, whatever becomes of it. -/
theorem traffic_relay (b : Broker) (sender : Option PeerId) (author : String) (body : List UInt8) :
    (b.relay sender author body).traffic =
      b.traffic ++ [.relayed (sender.bind b.connection?) author body] := by
  obtain ⟨queued, failed, heq, hqueued, -⟩ := relay_eq b sender author body
  rw [heq, traffic_foldl_close, hqueued.traffic, traffic_note rfl]

/-- The sender of a line is not touched. -/
theorem get?_relay_sender (b : Broker) (id : PeerId) (author : String) (body : List UInt8) :
    (b.relay (some id) author body).peers.get? id = b.peers.get? id := by
  obtain ⟨queued, failed, heq, hqueued, hfailed⟩ := relay_eq b (some id) author body
  -- nothing is queued for the sender, so it can neither gain nor fail
  have hnot : id ∉ failed := fun hid => hfailed id hid rfl
  rw [heq, get?_foldl_close, if_neg hnot, hqueued.untouched id (by simp), peers_note]

/-- **Whoever lives on after a line has got it**, if he is not its sender. There was memory for it. -/
theorem survivor_relay {sender : Option PeerId} {author : String} {body : List UInt8} {p' : Peer}
    (h : (b.relay sender author body).peers.get? other = some p') (hne : some other ≠ sender) :
    ∃ p, b.peers.get? other = some p ∧
      p.outbound.tryPushRelayed (Text.utf8 author) body = (p'.outbound, .ok ()) ∧
      p.Gains (Frame.relayed (Text.utf8 author) body) p' := by
  obtain ⟨queued, failed, heq, hqueued, -⟩ := relay_eq b sender author body
  rw [heq, get?_foldl_close] at h
  split at h
  · cases h
  next hnot =>
  by_cases hother : other ∈ b.peers.ids
  · refine hqueued.gains other ?_ hnot p' h
    rw [List.mem_filter]
    exact ⟨hother, by simpa using hne⟩
  -- one that was not live before cannot be live now
  · rw [hqueued.untouched other fun hmem => hother (List.mem_filter.1 hmem).1, peers_note] at h
    exact absurd (PeerTable.mem_ids_iff.2 ⟨p', h⟩) hother

end Broker

end ChatRelay
