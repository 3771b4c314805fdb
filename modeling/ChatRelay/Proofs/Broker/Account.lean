import ChatRelay.Proofs.Broker.Serve

/-!
# The account of the live peers

The traffic accounts for all that a live peer is: its name, the unfinished frame it has sent, and the
bytes that wait for it.

- `Peer.Accords`: what the whole traffic says of a live peer.
- `Peer.Advances`, `Broker.Advances`: how a piece of traffic changes a peer, and a broker.
- `Broker.Consistent`: the invariant; it is kept by whatever advances (`Consistent.advance`).
- `Served.advances`, `Served.advances_close`: serving a peer advances the broker. Here it matters that
  no two live peers share a connection, since the others must not be taken for the sender.
-/

namespace ChatRelay

open Broker (Entry Line nameIn)
open Broker.Traffic

variable {p p' : Peer} {entries more : List Entry}

/-! ### Peers -/

/-- The traffic so far accounts for a live peer. -/
structure Peer.Accords (entries : List Entry) (p : Peer) : Prop where
  accepted : ∃ entry ∈ entries, entry.accepts p.connection
  name : p.name = nameIn (frames p.connection entries)
  inbound : Frame.split (received p.connection entries) =
    (frames p.connection entries, p.inbound.unconsumed)
  outbound : written p.connection entries ++ p.outbound.unconsumed =
    wiresFor p.connection (since p.connection entries)

/-- A piece of traffic accounts for what the second peer has more than the first. -/
structure Peer.Advances (entries : List Entry) (p p' : Peer) : Prop where
  connection : p'.connection = p.connection
  name : p'.name = p.name.or (nameIn (frames p.connection entries))
  inbound : Frame.terminator ∉ p.inbound.unconsumed →
    Frame.split (p.inbound.unconsumed ++ received p.connection entries) =
      (frames p.connection entries, p'.inbound.unconsumed)
  outbound : written p.connection entries ++ p'.outbound.unconsumed =
    p.outbound.unconsumed ++ wiresFor p.connection entries

/-- The first of two runs of frames gives the name, if it has a frame. -/
theorem Broker.nameIn_append (frames more : List (List UInt8)) :
    nameIn (frames ++ more) = (nameIn frames).or (nameIn more) := by
  cases frames <;> rfl

/-- A peer that has been accounted for stays so as it advances. -/
theorem Peer.Accords.advance (h : p.Accords entries) (h' : p.Advances more p') :
    p'.Accords (entries ++ more) := by
  obtain ⟨entry, hmem, hentry⟩ := h.accepted
  have htail : Frame.terminator ∉ p.inbound.unconsumed := by
    have hinbound : p.inbound.unconsumed = (Frame.split (received p.connection entries)).2 := by
      rw [h.inbound]
    rw [hinbound]
    exact Frame.terminator_not_mem_tail _
  constructor
  · rw [h'.connection]
    exact ⟨entry, List.mem_append_left _ hmem, hentry⟩
  · rw [h'.connection, h'.name, h.name, frames_append, Broker.nameIn_append]
  · rw [h'.connection, received_append, Frame.split_append, h.inbound,
      h'.inbound htail, frames_append]
  · rw [h'.connection, written_append, List.append_assoc, h'.outbound, ← List.append_assoc,
      h.outbound, since_append more ⟨entry, hmem, hentry⟩, wiresFor_append]

/-- Traffic that is not about a peer gives it the lines of the others and nothing else. -/
theorem Peer.Gains.advances (h : p.Gains (wires entries) p')
    (hsilent : Silent p.connection entries) :
    p.Advances entries p' where
  connection := h.connection
  name := by
    rw [frames_eq_nil hsilent, h.name]
    exact Option.or_none.symm
  inbound htail := by
    rw [received_eq_nil hsilent, frames_eq_nil hsilent, List.append_nil, h.inbound,
      Frame.split_of_not_mem htail]
  outbound := by
    rw [written_eq_nil hsilent, List.nil_append, h.outbound, wiresFor,
      linesFor_eq_lines hsilent, wires]

namespace Broker

variable {b b' : Broker} {id : PeerId}

/-! ### Brokers -/

/-- The traffic accounts for all live peers. -/
structure Consistent (b : Broker) : Prop where
  /-- Connections that are still to come have not been spoken of. -/
  fresh : ∀ connection, b.connections ≤ connection → Silent connection b.traffic
  /-- A line goes out under the name of the connection that sent it. -/
  named : ∀ connection, linesFrom b.traffic (some connection) =
    Line.ofFrames connection none (frames connection b.traffic)
  /-- No two live peers share a connection. -/
  distinct : ∀ id id' p p', b.peers.get? id = some p → b.peers.get? id' = some p' →
    p.connection = p'.connection → id = id'
  accords : ∀ id p, b.peers.get? id = some p → p.Accords b.traffic

/-- The second broker is the first with some traffic more, in which only peers of it act, and with
peers of it that have advanced by that traffic. -/
structure Advances (entries : List Entry) (b b' : Broker) : Prop where
  connections : b'.connections = b.connections
  traffic : b'.traffic = b.traffic ++ entries
  speakers : ∀ connection, Silent connection entries ∨
    ∃ id p, b.peers.get? id = some p ∧ p.connection = connection ∧
      linesFrom entries (some connection) =
        Line.ofFrames connection p.name (frames connection entries)
  peers : ∀ id p', b'.peers.get? id = some p' → ∃ p, b.peers.get? id = some p ∧
    p.Advances entries p'

/-- The number of a live peer's connection has been given. -/
theorem Consistent.lt (h : b.Consistent) {p : Peer} (hp : b.peers.get? id = some p) :
    p.connection < b.connections := by
  by_contra hle
  obtain ⟨entry, hmem, hentry⟩ := (h.accords id p hp).accepted
  refine h.fresh p.connection (Nat.le_of_not_lt hle) entry hmem ?_
  cases entry with
  | accepted connection slot => exact congrArg some (beq_iff_eq.1 hentry)
  | _ => cases hentry

/-- **What advances stays consistent.** -/
theorem Consistent.advance (h : b.Consistent) (h' : Advances entries b b') : b'.Consistent where
  fresh := by
    intro connection hle entry hmem hentry
    rw [h'.connections] at hle
    rw [h'.traffic] at hmem
    rcases List.mem_append.1 hmem with hold | hnew
    · exact h.fresh connection hle entry hold hentry
    · rcases h'.speakers connection with hsilent | ⟨id, p, hp, rfl, -⟩
      · exact hsilent entry hnew hentry
      · exact absurd (h.lt hp) (Nat.not_lt.2 hle)
  named := by
    intro connection
    rw [h'.traffic, linesFrom_append, frames_append, Line.ofFrames_append, h.named, Option.none_or]
    congr 1
    -- who is not spoken of has no new lines; any other is live and has the name of its first frame
    rcases h'.speakers connection with hsilent | ⟨id, p, hp, rfl, hlines⟩
    · rw [linesFrom_eq_nil hsilent, frames_eq_nil hsilent, Line.ofFrames_nil]
    · rw [hlines, (h.accords id p hp).name]
  distinct := by
    intro id id' p p' hp hp' heq
    obtain ⟨q, hq, hadvance⟩ := h'.peers id p hp
    obtain ⟨q', hq', hadvance'⟩ := h'.peers id' p' hp'
    exact h.distinct id id' q q' hq hq' (by rw [← hadvance.connection, ← hadvance'.connection, heq])
  accords := by
    intro id p' hp'
    obtain ⟨p, hp, hadvance⟩ := h'.peers id p' hp'
    rw [h'.traffic]
    exact (h.accords id p hp).advance hadvance

theorem Advances.refl (b : Broker) : Advances [] b b where
  connections := rfl
  traffic := (List.append_nil _).symm
  speakers _ := Or.inl silent_nil
  peers := by
    intro id p hp
    refine ⟨p, hp, Peer.Gains.advances ?_ silent_nil⟩
    exact Peer.Gains.refl p

/-- Dropping a peer leaves the account of the others as it is. -/
theorem Advances.close (h : Advances entries b b') (id : PeerId) :
    Advances entries b (b'.close id) where
  connections := (keeps_close b' id).connections.trans h.connections
  traffic := (traffic_close b' id).trans h.traffic
  speakers := h.speakers
  peers := by
    intro other p' hp'
    rw [get?_close] at hp'
    split at hp'
    · cases hp'
    · exact h.peers other p' hp'

/-! ### Serving -/

/-- The entries speak of one peer only, and its lines in them are those of its frames in them. -/
structure SpeakOf (p : Peer) (entries : List Entry) : Prop where
  silent : ∀ connection ≠ p.connection, Silent connection entries
  lines : linesFrom entries (some p.connection) =
    Line.ofFrames p.connection p.name (frames p.connection entries)

/-- The peers that are not served advance by the lines of the one that is. -/
theorem Served.others_advance (h : Served id p p' entries b b') (hb : b.Consistent)
    (hp : b.peers.get? id = some p) (hspeak : SpeakOf p entries) {other : PeerId} (hne : other ≠ id)
    {q' : Peer} (hq' : b'.peers.get? other = some q') :
    ∃ q, b.peers.get? other = some q ∧ q.Advances entries q' := by
  obtain ⟨q, hq, hgains⟩ := h.others other hne q' hq'
  -- the entries would speak of a peer that had the same connection
  refine ⟨q, hq, hgains.advances (hspeak.silent q.connection fun heq => hne ?_)⟩
  exact hb.distinct other id q p hq hp heq

theorem SpeakOf.speakers (h : SpeakOf p entries) (hp : b.peers.get? id = some p)
    (connection : Nat) :
    Silent connection entries ∨ ∃ id p, b.peers.get? id = some p ∧ p.connection = connection ∧
      linesFrom entries (some connection) =
        Line.ofFrames connection p.name (frames connection entries) := by
  by_cases heq : connection = p.connection
  · exact Or.inr ⟨id, p, hp, heq.symm, heq ▸ h.lines⟩
  · exact Or.inl (h.silent connection heq)

/-- Serving a peer advances the broker if the peer advances by the entries. -/
theorem Served.advances (h : Served id p p' entries b b') (hb : b.Consistent)
    (hp : b.peers.get? id = some p) (hspeak : SpeakOf p entries) (hown : p.Advances entries p') :
    Advances entries b b' where
  connections := h.connections
  traffic := h.traffic
  speakers := hspeak.speakers hp
  peers := by
    intro other q' hq'
    by_cases hother : other = id
    · rw [hother, h.own] at hq'
      cases hq'
      exact ⟨p, hother ▸ hp, hown⟩
    · exact h.others_advance hb hp hspeak hother hq'

/-- If the peer is dropped it does not matter what it became. -/
theorem Served.advances_close (h : Served id p p' entries b b') (hb : b.Consistent)
    (hp : b.peers.get? id = some p) (hspeak : SpeakOf p entries) :
    Advances entries b (b'.close id) where
  connections := (keeps_close b' id).connections.trans h.connections
  traffic := (traffic_close b' id).trans h.traffic
  speakers := hspeak.speakers hp
  peers := by
    intro other q' hq'
    rw [get?_close] at hq'
    split at hq'
    · cases hq'
    · next hother => exact h.others_advance hb hp hspeak hother hq'

end Broker

end ChatRelay
