import ChatRelay.Proofs.Broker.Relay
import ChatRelay.Proofs.ByteQueue.Transfer
import ChatRelay.Proofs.Multiplexer

/-!
# What a broker has the multiplexer watch

The sockets that are watched are the listening one and those of the live peers, each under its own token
and with the interest that was last handed over; and that is the interest which the waiting output
implies. Between two steps of one operation this may fail for a few peers, those whose output has just
changed and those that are about to be dropped.

- `Broker.Watched`: the invariant, but for the peers that are listed as exceptions.
- `Watched.of_peers`: what an operation has to show to keep it.
- `Watched.modify`, `Watched.sync`, `Watched.note_failed`, `Watched.close`: the single steps. Whoever is
  refused is listed as failed, and is no exception any more once it is dropped.
- `Watched.begin`, `Watched.listen`, `Watched.accept`: the sockets that come to be watched.
-/

namespace ChatRelay

/-- The registration that a live peer has under its identity. -/
def Peer.registration (p : Peer) (id : PeerId) : Registration := ⟨p.socket, id.token, p.armed⟩

theorem Peer.socket_eq_iff {p q : Peer} : p.socket = q.socket ↔ p.connection = q.connection :=
  Socket.connection.injEq .. ▸ Iff.rfl

/-- What becomes of a peer when the multiplexer is asked to watch it. -/
theorem Peer.register_eq {p p' : Peer} {m m' : Multiplexer} {id : PeerId}
    {outcome : Except IoError Unit} (h : p.register m id = (p', m', outcome)) :
    p' = { p with armed := p.interest } ∧
      m.register p.socket id.token p.interest = (m', outcome) :=
  ⟨(congrArg Prod.fst h).symm, congrArg Prod.snd h⟩

namespace Broker

/-- The registration of the listening socket. -/
def listenerRegistration : Registration := ⟨.listener, Token.listener, .read⟩

/-- The connection that an entry tells a failure of: the multiplexer refused it, or its socket failed. -/
def Entry.failed? : Entry → Option Nat
  | registrationRefused connection _ | receiveFailed connection _ | relayFailed connection _
  | sendFailed connection _ => some connection
  | _ => none

/-- The multiplexer watches the listening socket and the live peers, and nothing else. Each peer but the
`unsynced` has the interest that its output implies, and nothing of a peer has failed but of those that
are listed so. -/
structure Watched (unsynced failed : List PeerId) (b : Broker) : Prop where
  lt : ∀ id p, b.peers.get? id = some p → p.connection < b.connections
  distinct : ∀ id id' p p', b.peers.get? id = some p → b.peers.get? id' = some p' →
    p.connection = p'.connection → id = id'
  /-- No socket is registered twice. -/
  nodup : (b.multiplexer.registrations.map Registration.socket).Nodup
  registered : ∀ r, r ∈ b.multiplexer.registrations ↔
    b.listening ∧ r = listenerRegistration ∨
      ∃ id p, b.peers.get? id = some p ∧ r = p.registration id
  synced : ∀ id p, b.peers.get? id = some p → id ∉ unsynced → p.armed = p.interest
  /-- Connections that are still to come have not failed. -/
  past : ∀ entry ∈ b.journal, ∀ connection, entry.failed? = some connection →
    connection < b.connections
  sound : ∀ id p, b.peers.get? id = some p → id ∉ failed →
    ∀ entry ∈ b.journal, entry.failed? ≠ some p.connection

variable {b b' : Broker} {id : PeerId} {p : Peer} {unsynced failed : List PeerId}

/-- An operation that keeps the connections of the peers that live on, and tells of no failure of them,
keeps the invariant if it is right about the registrations and the interests. -/
theorem Watched.of_peers (h : Watched unsynced failed b) {unsynced' failed' : List PeerId}
    (hpeers : ∀ other q', b'.peers.get? other = some q' → ∃ q, b.peers.get? other = some q ∧
      q'.connection = q.connection ∧ (other ∉ failed' → other ∉ failed))
    (hconnections : b.connections ≤ b'.connections)
    (hjournal : ∀ entry ∈ b'.journal, entry ∈ b.journal ∨ ∀ connection,
      entry.failed? = some connection → b.connections ≤ connection ∧ connection < b'.connections)
    (hnodup : (b'.multiplexer.registrations.map Registration.socket).Nodup)
    (hregistered : ∀ r, r ∈ b'.multiplexer.registrations ↔
      b'.listening ∧ r = listenerRegistration ∨
        ∃ id p, b'.peers.get? id = some p ∧ r = p.registration id)
    (hsynced : ∀ id p, b'.peers.get? id = some p → id ∉ unsynced' → p.armed = p.interest) :
    Watched unsynced' failed' b' where
  lt id p' hp' := by
    obtain ⟨p, hp, heq, -⟩ := hpeers id p' hp'
    rw [heq]
    exact Nat.lt_of_lt_of_le (h.lt id p hp) hconnections
  distinct id id' p' q' hp' hq' heq := by
    obtain ⟨p, hp, hpeq, -⟩ := hpeers id p' hp'
    obtain ⟨q, hq, hqeq, -⟩ := hpeers id' q' hq'
    exact h.distinct id id' p q hp hq (by rw [← hpeq, ← hqeq, heq])
  nodup := hnodup
  registered := hregistered
  synced := hsynced
  past entry hentry connection hfailed := by
    rcases hjournal entry hentry with hold | hnew
    · exact Nat.lt_of_lt_of_le (h.past entry hold connection hfailed) hconnections
    · exact (hnew connection hfailed).2
  sound id p' hp' hnot entry hentry hfailed := by
    obtain ⟨p, hp, heq, hexcept⟩ := hpeers id p' hp'
    rw [heq] at hfailed
    rcases hjournal entry hentry with hold | hnew
    · exact h.sound id p hp (hexcept hnot) entry hold hfailed
    · -- what has failed is a connection that no live peer had
      exact absurd (h.lt id p hp) (Nat.not_lt_of_le (hnew p.connection hfailed).1)

/-- More exceptions may be made. -/
theorem Watched.mono (h : Watched unsynced failed b) {unsynced' failed' : List PeerId}
    (hunsynced : unsynced ⊆ unsynced') (hfailed : failed ⊆ failed') :
    Watched unsynced' failed' b :=
  h.of_peers (fun _ q hq => ⟨q, hq, rfl, fun hnot hmem => hnot (hfailed hmem)⟩) (Nat.le_refl _)
    (fun _ hentry => Or.inl hentry) h.nodup h.registered
    fun other q hq hnot => h.synced other q hq fun hmem => hnot (hunsynced hmem)

/-- What touches neither peers nor registrations keeps the invariant. -/
theorem Watched.congr (h : Watched unsynced failed b)
    (hpeers : ∀ id, b'.peers.get? id = b.peers.get? id)
    (hregistrations : b'.multiplexer.registrations = b.multiplexer.registrations)
    (hlistening : b'.listening = b.listening) (hconnections : b.connections ≤ b'.connections)
    (hjournal : ∀ entry ∈ b'.journal, entry ∈ b.journal ∨ ∀ connection,
      entry.failed? = some connection → b.connections ≤ connection ∧ connection < b'.connections) :
    Watched unsynced failed b' := by
  refine h.of_peers
    (fun other q hq => ⟨q, (hpeers other).symm.trans hq, rfl, fun hnot => hnot⟩) hconnections hjournal
    ?_ ?_ ?_
  · rw [hregistrations]
    exact h.nodup
  · simp only [hregistrations, hlistening, hpeers]
    exact h.registered
  · simp only [hpeers]
    exact h.synced

theorem mem_journal_note {entry entry' : Entry} :
    entry' ∈ (b.note entry).journal ↔ entry' ∈ b.journal ∨ entry' = entry :=
  Array.mem_push

/-- Writing down what is no failure keeps the invariant. -/
theorem Watched.note (h : Watched unsynced failed b) {entry : Entry} (hentry : entry.failed? = none) :
    Watched unsynced failed (b.note entry) := by
  refine h.congr (fun _ => rfl) rfl rfl (Nat.le_refl _) fun entry' hmem => ?_
  rcases mem_journal_note.1 hmem with hold | rfl
  · exact Or.inl hold
  · refine Or.inr fun connection hfailed => ?_
    rw [hentry] at hfailed
    cases hfailed

/-- A live peer of which something fails is listed as failed. -/
theorem Watched.note_failed (h : Watched unsynced failed b) (hp : b.peers.get? id = some p) {entry : Entry}
    (hentry : entry.failed? = some p.connection) :
    Watched unsynced (id :: failed) (b.note entry) where
  lt := h.lt
  distinct := h.distinct
  nodup := h.nodup
  registered := h.registered
  synced := h.synced
  past entry' hmem connection hfailed := by
    rcases mem_journal_note.1 hmem with hold | rfl
    · exact h.past entry' hold connection hfailed
    · cases hentry.symm.trans hfailed
      exact h.lt id p hp
  sound other q hq hnot entry' hmem hfailed := by
    rw [List.mem_cons, not_or] at hnot
    rcases mem_journal_note.1 hmem with hold | rfl
    · exact h.sound other q hq hnot.2 entry' hold hfailed
    · exact hnot.1 (h.distinct other id q p hq hp (Option.some.inj (hfailed.symm.trans hentry)))

/-! ### Changing one peer -/

/-- A peer may be changed in anything but its connection and what the multiplexer knows of it; unless it
is an exception, its interest must stay. -/
theorem Watched.modify (h : Watched unsynced failed b) {f : Peer → Peer}
    (hsame : ∀ q, (f q).connection = q.connection ∧ (f q).armed = q.armed)
    (hinterest : id ∉ unsynced → ∀ q, b.peers.get? id = some q → (f q).interest = q.interest) :
    Watched unsynced failed { b with peers := b.peers.modify id f } := by
  refine h.of_peers ?_ (Nat.le_refl _) (fun _ hentry => Or.inl hentry) h.nodup ?_ ?_
  · intro other q' hq'
    obtain ⟨q, hq, rfl⟩ := PeerTable.get?_modify_eq_some_iff.1 hq'
    refine ⟨q, hq, ?_, fun hnot => hnot⟩
    split
    · exact (hsame q).1
    · rfl
  · intro r
    have hregistration (other : PeerId) (q : Peer) :
        (if other = id then f q else q).registration other = q.registration other := by
      split
      · simp only [Peer.registration, Peer.socket, (hsame q).1, (hsame q).2]
      · rfl
    refine (h.registered r).trans (or_congr_right ⟨?_, ?_⟩)
    · rintro ⟨other, q, hq, rfl⟩
      exact ⟨other, _, PeerTable.get?_modify_eq_some_iff.2 ⟨q, hq, rfl⟩, (hregistration other q).symm⟩
    · rintro ⟨other, q', hq', rfl⟩
      obtain ⟨q, hq, rfl⟩ := PeerTable.get?_modify_eq_some_iff.1 hq'
      exact ⟨other, q, hq, hregistration other q⟩
  · intro other q' hq' hnot
    obtain ⟨q, hq, rfl⟩ := PeerTable.get?_modify_eq_some_iff.1 hq'
    have hold := h.synced other q hq hnot
    split
    · next heq =>
      subst heq
      rw [(hsame q).2, hinterest hnot q hq, hold]
    · exact hold

/-- A peer whose interest is right is no exception, and neither is one that is not live. -/
theorem Watched.settle (h : Watched (id :: unsynced) failed b)
    (hsynced : ∀ q, b.peers.get? id = some q → q.armed = q.interest) :
    Watched unsynced failed b :=
  { h with
    synced := fun other q hq hnot => by
      by_cases hother : other = id
      · subst hother
        exact hsynced q hq
      · exact h.synced other q hq (by simp [hother, hnot]) }

theorem Watched.mem_registrations (h : Watched unsynced failed b) (hp : b.peers.get? id = some p) :
    p.registration id ∈ b.multiplexer.registrations :=
  (h.registered _).2 (Or.inr ⟨id, p, hp, rfl⟩)

/-- A granted change of interest is what the multiplexer then watches the peer for. -/
theorem Watched.rearm (h : Watched (id :: unsynced) failed b) (hp : b.peers.get? id = some p)
    {m : Multiplexer} (hrearm : b.multiplexer.rearm p.socket id.token p.interest = (m, .ok ())) :
    Watched unsynced failed { b with
      multiplexer := m
      peers := b.peers.modify id fun q => { q with armed := p.interest } } := by
  have hregistered : b.multiplexer.isRegistered p.socket :=
    Multiplexer.isRegistered_iff.2 ⟨_, h.mem_registrations hp, rfl⟩
  have hnodup : (m.registrations.map Registration.socket).Nodup := by
    rw [Multiplexer.sockets_of_rearm hrearm]
    exact h.nodup
  refine h.of_peers ?_ (Nat.le_refl _) (fun _ hentry => Or.inl hentry) hnodup ?_ ?_
  · intro other q' hq'
    obtain ⟨q, hq, rfl⟩ := PeerTable.get?_modify_eq_some_iff.1 hq'
    refine ⟨q, hq, ?_, fun hnot => hnot⟩
    split <;> rfl
  · intro r
    show r ∈ m.registrations ↔ _
    rw [Multiplexer.mem_rearm_iff hrearm]
    constructor
    · rintro (⟨-, rfl⟩ | ⟨hr, hne⟩)
      · refine Or.inr ⟨id, _, PeerTable.get?_modify_eq_some_iff.2 ⟨p, hp, rfl⟩, ?_⟩
        rw [if_pos rfl]
        rfl
      · rcases (h.registered r).1 hr with hlistener | ⟨other, q, hq, rfl⟩
        · exact Or.inl hlistener
        · have hother : other ≠ id := by
            rintro rfl
            exact hne (congrArg Peer.socket (Option.some.inj (hq.symm.trans hp)))
          refine Or.inr ⟨other, _, PeerTable.get?_modify_eq_some_iff.2 ⟨q, hq, rfl⟩, ?_⟩
          rw [if_neg hother]
    · rintro (⟨hlistening, rfl⟩ | ⟨other, q', hq', rfl⟩)
      · exact Or.inr ⟨(h.registered _).2 (Or.inl ⟨hlistening, rfl⟩), Socket.noConfusion⟩
      · obtain ⟨q, hq, rfl⟩ := PeerTable.get?_modify_eq_some_iff.1 hq'
        by_cases hother : other = id
        · subst hother
          cases hp.symm.trans hq
          rw [if_pos rfl]
          exact Or.inl ⟨hregistered, rfl⟩
        · rw [if_neg hother]
          refine Or.inr ⟨h.mem_registrations hq, fun hsocket => hother ?_⟩
          exact h.distinct other id q p hq hp (Peer.socket_eq_iff.1 hsocket)
  · intro other q' hq' hnot
    obtain ⟨q, hq, rfl⟩ := PeerTable.get?_modify_eq_some_iff.1 hq'
    split
    · next heq =>
      subst heq
      cases hp.symm.trans hq
      rfl
    · next hne => exact h.synced other q hq (by simp [hne, hnot])

/-- What syncing comes to: either nothing was to be handed over, or the multiplexer was asked. -/
theorem syncInterest_cases (hp : b.peers.get? id = some p) :
    (p.armed = p.interest ∧ b.syncInterest id = ({ b with
        peers := b.peers.modify id fun q => { q with armed := p.armed } }, .ok ())) ∨
      (∃ m, b.multiplexer.rearm p.socket id.token p.interest = (m, .ok ()) ∧
        b.syncInterest id = ({ b with
          multiplexer := m
          peers := b.peers.modify id fun q => { q with armed := p.interest } }, .ok ())) ∨
      ∃ m cause, b.multiplexer.rearm p.socket id.token p.interest = (m, .error cause) ∧
        b.syncInterest id = ({ b with
          multiplexer := m
          peers := b.peers.modify id fun q => { q with armed := p.armed } }, .error cause) := by
  simp only [syncInterest, hp, Peer.syncInterest]
  split
  · next heq => exact Or.inl ⟨heq.symm, rfl⟩
  · refine Or.inr ?_
    rcases b.multiplexer.rearm p.socket id.token p.interest with ⟨m, cause | ⟨⟩⟩
    · exact Or.inr ⟨m, cause, rfl, rfl⟩
    · exact Or.inl ⟨m, rfl, rfl⟩

/-- Handing over what was handed over before changes no peer. -/
theorem get?_modify_armed (hp : b.peers.get? id = some p) (other : PeerId) :
    (b.peers.modify id fun q => { q with armed := p.armed }).get? other = b.peers.get? other := by
  rw [PeerTable.get?_modify]
  split
  · next heq => rw [heq, hp, Option.map_some]
  · rfl

/-- A peer whose interest was handed over is no exception any more. -/
theorem Watched.sync (h : Watched (id :: unsynced) failed b)
    (hsync : b.syncInterest id = (b', .ok ())) : Watched unsynced failed b' := by
  cases hp : b.peers.get? id with
  | none =>
    have hsame : b' = b := by
      simp only [syncInterest, hp] at hsync
      exact (congrArg Prod.fst hsync).symm
    rw [hsame]
    refine h.settle fun q hq => ?_
    rw [hp] at hq
    cases hq
  | some p =>
    rcases syncInterest_cases hp with ⟨harmed, heq⟩ | ⟨m, hrearm, heq⟩ | ⟨m, cause, -, heq⟩
    · cases heq.symm.trans hsync
      have hsettled : Watched unsynced failed b := h.settle fun q hq => by
        cases hp.symm.trans hq
        exact harmed
      exact hsettled.congr (get?_modify_armed hp) rfl rfl (Nat.le_refl _) fun _ => Or.inl
    · cases heq.symm.trans hsync
      exact h.rearm hp hrearm
    · cases heq.symm.trans hsync

/-- A refusal changes no peer, and not what is watched. -/
theorem syncInterest_refused {cause : IoError} (hsync : b.syncInterest id = (b', .error cause)) :
    (∀ other, b'.peers.get? other = b.peers.get? other) ∧
      b'.multiplexer.registrations = b.multiplexer.registrations ∧
      b'.listening = b.listening ∧ b'.connections = b.connections ∧ b'.journal = b.journal := by
  cases hp : b.peers.get? id with
  | none =>
    simp only [syncInterest, hp] at hsync
    cases hsync
  | some p =>
    rcases syncInterest_cases hp with ⟨-, heq⟩ | ⟨m, -, heq⟩ | ⟨m, cause, hrearm, heq⟩
    · cases heq.symm.trans hsync
    · cases heq.symm.trans hsync
    · cases heq.symm.trans hsync
      exact ⟨get?_modify_armed hp, Multiplexer.registrations_of_rearm_error hrearm, rfl, rfl, rfl⟩

/-- So an exception stays one. -/
theorem Watched.refused (h : Watched unsynced failed b) {cause : IoError}
    (hsync : b.syncInterest id = (b', .error cause)) : Watched unsynced failed b' := by
  obtain ⟨hget, hregistrations, hlistening, hconnections, hjournal⟩ := syncInterest_refused hsync
  refine h.congr hget hregistrations hlistening (Nat.le_of_eq hconnections.symm) fun entry hentry => ?_
  rw [hjournal] at hentry
  exact Or.inl hentry

/-! ### Dropping a peer -/

/-- The multiplexer forgets the socket of a dropped peer, and no failure is told of it. -/
theorem close_eq (hp : b.peers.get? id = some p) :
    (b.close id).multiplexer.registrations =
        ((b.multiplexer.deregister p.socket).1.forget p.socket).registrations ∧
      ∀ entry ∈ (b.close id).journal, entry ∈ b.journal ∨ entry.failed? = none := by
  unfold close
  split
  · next h =>
    rw [PeerTable.remove?_eq_none_iff, hp] at h
    cases h
  · next q peers h =>
    cases hp.symm.trans (PeerTable.get?_self_of_remove? h)
    rw [Peer.deregister]
    rcases b.multiplexer.deregister p.socket with ⟨m, cause | ⟨⟩⟩
    · refine ⟨rfl, fun entry hentry => ?_⟩
      rcases mem_journal_note.1 hentry with hentry | rfl
      · rcases mem_journal_note.1 hentry with hentry | rfl
        · exact Or.inl hentry
        · exact Or.inr rfl
      · exact Or.inr rfl
    · refine ⟨rfl, fun entry hentry => ?_⟩
      rcases mem_journal_note.1 hentry with hentry | rfl
      · exact Or.inl hentry
      · exact Or.inr rfl

/-- A dropped peer is no exception any more. -/
theorem Watched.close (h : Watched (id :: unsynced) (id :: failed) b) :
    Watched unsynced failed (b.close id) := by
  cases hp : b.peers.get? id with
  | none =>
    -- there is no such peer, so there was no exception
    have hsame : b.close id = b := by
      rcases close_cases b id with ⟨-, heq⟩ | ⟨p, peers, multiplexer, noted, hremove, -⟩
      · exact heq
      · rw [PeerTable.get?_self_of_remove? hremove] at hp
        cases hp
    have hne : ∀ other q, b.peers.get? other = some q → other ≠ id := by
      rintro other q hq rfl
      rw [hp] at hq
      cases hq
    rw [hsame]
    refine h.of_peers (fun other q hq => ⟨q, hq, rfl, fun hnot => ?_⟩) (Nat.le_refl _)
      (fun _ hentry => Or.inl hentry) h.nodup h.registered ?_
    · simp [hne other q hq, hnot]
    · exact fun other q hq hnot => h.synced other q hq (by simp [hne other q hq, hnot])
  | some p =>
    obtain ⟨hregistrations, hjournal⟩ := close_eq hp
    have hkeeps := keeps_close b id
    have hlive : ∀ other q, (b.close id).peers.get? other = some q ↔
        other ≠ id ∧ b.peers.get? other = some q := by
      intro other q
      rw [get?_close]
      split
      · next heq => simp [heq]
      · next hne => simp [hne]
    refine h.of_peers ?_ (Nat.le_of_eq hkeeps.connections.symm) ?_ ?_ ?_ ?_
    · intro other q hq
      obtain ⟨hne, hq⟩ := (hlive other q).1 hq
      exact ⟨q, hq, rfl, fun hnot => by simp [hne, hnot]⟩
    · intro entry hentry
      refine (hjournal entry hentry).imp_right fun hnone connection hfailed => ?_
      rw [hnone] at hfailed
      cases hfailed
    · rw [hregistrations]
      exact h.nodup.sublist (Multiplexer.drop_sublist.map _)
    · intro r
      rw [hregistrations, Multiplexer.mem_drop_iff, h.registered, hkeeps.listening]
      simp only [hlive]
      constructor
      · rintro ⟨hlistener | ⟨other, q, hq, rfl⟩, hne⟩
        · exact Or.inl hlistener
        · refine Or.inr ⟨other, q, ⟨?_, hq⟩, rfl⟩
          rintro rfl
          exact hne (congrArg Peer.socket (Option.some.inj (hq.symm.trans hp)))
      · rintro (hlistener | ⟨other, q, ⟨hne, hq⟩, rfl⟩)
        · refine ⟨Or.inl hlistener, ?_⟩
          rw [hlistener.2]
          exact Socket.noConfusion
        · refine ⟨Or.inr ⟨other, q, hq, rfl⟩, fun hsocket => hne ?_⟩
          exact h.distinct other id q p hq hp (Peer.socket_eq_iff.1 hsocket)
    · intro other q hq hnot
      obtain ⟨hne, hq⟩ := (hlive other q).1 hq
      exact h.synced other q hq (by simp [hne, hnot])

/-- Once all exceptions are dropped there are none. -/
theorem Watched.foldl_close {dropped : List PeerId} (h : Watched dropped dropped b) :
    Watched [] [] (dropped.foldl Broker.close b) := by
  induction dropped generalizing b with
  | nil => exact h
  | cons id rest ih => exact ih h.close

/-! ### Taking in a peer -/

/-- A connection that the multiplexer watches under its own token may be a peer. It is a new one, so
nothing was told of it yet. -/
theorem Watched.admit (h : Watched [] [] b) (hconnection : p.connection = b.connections)
    (harmed : p.armed = p.interest)
    (hlive : ∀ other q, b'.peers.get? other = some q ↔
      other = id ∧ q = p ∨ b.peers.get? other = some q)
    (hregister : b.multiplexer.register p.socket id.token p.armed = (b'.multiplexer, .ok ()))
    (hlistening : b'.listening = b.listening) (hconnections : b'.connections = b.connections + 1)
    (hjournal : ∀ entry ∈ b'.journal, entry ∈ b.journal ∨ entry.failed? = none) :
    Watched [] [] b' := by
  have hregistrations := (Multiplexer.registrations_of_register hregister).2
  have hnew : ∀ other q, b.peers.get? other = some q → q.connection ≠ p.connection := by
    intro other q hq
    rw [hconnection]
    exact Nat.ne_of_lt (h.lt other q hq)
  constructor
  case lt =>
    intro other q hq
    rw [hconnections]
    rcases (hlive other q).1 hq with ⟨-, rfl⟩ | hq
    · omega
    · exact Nat.lt_succ_of_lt (h.lt other q hq)
  case distinct =>
    intro i j q q' hq hq' heq
    rcases (hlive i q).1 hq with ⟨rfl, rfl⟩ | hq <;> rcases (hlive j q').1 hq' with ⟨rfl, rfl⟩ | hq'
    · rfl
    · exact absurd heq.symm (hnew j q' hq')
    · exact absurd heq (hnew i q hq)
    · exact h.distinct i j q q' hq hq' heq
  case nodup => exact Multiplexer.nodup_of_register h.nodup hregister
  case registered =>
    intro r
    rw [hregistrations, List.mem_cons, h.registered, hlistening]
    constructor
    · rintro (rfl | hlistener | ⟨other, q, hq, rfl⟩)
      · exact Or.inr ⟨id, p, (hlive id p).2 (Or.inl ⟨rfl, rfl⟩), rfl⟩
      · exact Or.inl hlistener
      · exact Or.inr ⟨other, q, (hlive other q).2 (Or.inr hq), rfl⟩
    · rintro (hlistener | ⟨other, q, hq, rfl⟩)
      · exact Or.inr (Or.inl hlistener)
      · rcases (hlive other q).1 hq with ⟨rfl, rfl⟩ | hq
        · exact Or.inl rfl
        · exact Or.inr (Or.inr ⟨other, q, hq, rfl⟩)
  case synced =>
    intro other q hq _
    rcases (hlive other q).1 hq with ⟨-, rfl⟩ | hq
    · exact harmed
    · exact h.synced other q hq List.not_mem_nil
  case past =>
    intro entry hentry connection hfailed
    rw [hconnections]
    rcases hjournal entry hentry with hold | hnone
    · exact Nat.lt_succ_of_lt (h.past entry hold connection hfailed)
    · rw [hnone] at hfailed
      cases hfailed
  case sound =>
    intro other q hq _ entry hentry hfailed
    rcases hjournal entry hentry with hold | hnone
    · rcases (hlive other q).1 hq with ⟨-, rfl⟩ | hq
      · rw [hconnection] at hfailed
        exact Nat.lt_irrefl _ (h.past entry hold _ hfailed)
      · exact h.sound other q hq List.not_mem_nil entry hold hfailed
    · rw [hnone] at hfailed
      cases hfailed

/-- A new connection is a peer that is watched, or no peer. -/
theorem Watched.accept (h : Watched [] [] b) : Watched [] [] b.accept := by
  have hnumbered : Watched [] [] { b with connections := b.connections + 1 } :=
    h.congr (fun _ => rfl) rfl rfl (Nat.le_succ _) fun _ => Or.inl
  unfold Broker.accept
  simp only
  split
  · exact hnumbered.note rfl
  next id peers hinsert =>
  obtain ⟨hnone, hget⟩ := PeerTable.get?_of_insert? hinsert
  split
  · next peer m hregister =>
    obtain ⟨rfl, hgranted⟩ := Peer.register_eq hregister
    refine h.admit rfl rfl ?_ hgranted rfl rfl ?_
    · intro other q
      show PeerTable.get? (PeerTable.modify ..) other = _ ↔ _
      rw [PeerTable.get?_modify, hget]
      by_cases hother : other = id
      · subst hother
        simp only [hnone, if_true, Option.map_some, Option.some.injEq, reduceCtorEq, or_false,
          true_and]
        exact eq_comm
      · simp [hother]
    · intro entry hentry
      refine (mem_journal_note.1 hentry).imp_right ?_
      rintro rfl
      rfl
  · next m cause hregister =>
    obtain ⟨-, hrefused⟩ := Peer.register_eq hregister
    -- the peer leaves the table as it came
    split
    · next hremove =>
      refine h.congr (fun other => ?_) (Multiplexer.registrations_of_register_error hrefused) rfl
        (Nat.le_succ _) fun entry hentry => ?_
      · refine (PeerTable.get?_of_remove? hremove other).trans ?_
        rw [hget]
        split
        · next heq => rw [heq, hnone]
        · rfl
      · refine (mem_journal_note.1 hentry).imp_right ?_
        rintro rfl connection hfailed
        cases hfailed
        exact ⟨Nat.le_refl _, Nat.lt_succ_self _⟩
    · next hremove =>
      rw [PeerTable.remove?_eq_none_iff, hget, if_pos rfl] at hremove
      cases hremove

/-- Nothing is watched in a broker that has not begun. -/
theorem Watched.begin (settings : BrokerSettings) (registers rearms : List (Option IoError))
    (supply : Supply) :
    Watched [] [] { Broker.ofSettings settings supply with
      multiplexer := { registerVerdicts := registers, rearmVerdicts := rearms } } := by
  have hnone (id : PeerId) : (Broker.ofSettings settings supply).peers.get? id = none :=
    PeerTable.get?_ofLimit ..
  constructor
  case nodup => exact List.nodup_nil
  case registered =>
    intro r
    constructor
    · rintro ⟨⟩
    · rintro (⟨hlistening, -⟩ | ⟨id, p, hp, -⟩)
      · cases hlistening
      · cases (hnone id).symm.trans hp
  case past => exact fun entry hentry => nomatch hentry
  case sound => exact fun id p hp => nomatch (hnone id).symm.trans hp
  case lt => exact fun id p hp => nomatch (hnone id).symm.trans hp
  case distinct => exact fun id _ p _ hp => nomatch (hnone id).symm.trans hp
  case synced => exact fun id p hp => nomatch (hnone id).symm.trans hp

/-- Listening begins with the listening socket watched, or not at all. -/
theorem Watched.listen (h : Watched unsynced failed b) (port : Nat)
    (setup : Except ListenFault Unit) : Watched unsynced failed (b.listen port setup).1 := by
  unfold Broker.listen
  split
  · exact h
  next hnot =>
  split
  · exact h
  split
  · next m cause hregister =>
    exact h.congr (fun _ => rfl) (Multiplexer.registrations_of_register_error hregister) rfl
      (Nat.le_refl _) fun _ => Or.inl
  · next m hregister =>
    have hopen : Watched unsynced failed { b with multiplexer := m, listening := true } := by
      refine h.of_peers (fun _ q hq => ⟨q, hq, rfl, fun hfailed => hfailed⟩) (Nat.le_refl _)
        (fun _ => Or.inl) (Multiplexer.nodup_of_register h.nodup hregister) (fun r => ?_) h.synced
      show r ∈ m.registrations ↔ _
      rw [(Multiplexer.registrations_of_register hregister).2, List.mem_cons, h.registered]
      simp only [hnot, Bool.false_eq_true, false_and, false_or, true_and]
      rfl
    exact hopen.note rfl

end Broker

end ChatRelay
