import ChatRelay.Proofs.Broker.Session
import ChatRelay.Proofs.Broker.Watch
import ChatRelay.Proofs.Peer.Occupancy
import Mathlib.Data.List.Nodup

/-!
# Interests are kept up

A multiplexer that reports edges reports a writable socket again only while it is watched for writing, so
a peer with waiting output that is not watched for it would never be written to. No operation leaves
such a peer behind, whatever the multiplexer and the allocator refuse.

- `Watched.relay`, `Watched.serveReadable`, `Watched.serveWritable`, `Watched.update`, `Watched.feed`:
  every operation keeps the invariant, with no exceptions left at its end.
- `Interests`: what the invariant says between two operations.
- `Session.watched_step`, `Session.interests_run`: every event keeps it, and so every session has it.
-/

namespace ChatRelay

@[simp] theorem Interest.isWritable_forOutbound (outbound : ByteQueue) :
    (Interest.forOutbound outbound).isWritable = outbound.hasPending := by
  unfold Interest.forOutbound
  split
  · next h => exact h.symm
  · next h => exact (Bool.eq_false_iff.2 h).symm

namespace Broker

variable {b b' : Broker} {id : PeerId} {p : Peer} {unsynced failed : List PeerId}

/-! ### Relaying -/

/-- A peer that gets output is an exception until its interest is handed over. -/
theorem Watched.modify_output (h : Watched unsynced failed b) (id : PeerId)
    (f : Peer → ByteQueue) : Watched (id :: unsynced) failed
      { b with peers := b.peers.modify id fun q => { q with outbound := f q } } := by
  have hexcept := h.mono (List.subset_cons_self id unsynced) (List.Subset.refl failed)
  refine hexcept.modify (fun _ => ⟨rfl, rfl⟩) fun hnot => ?_
  exact absurd List.mem_cons_self hnot

/-- A line may be queued for a peer, whose interest is then handed over. -/
theorem Watched.enqueue (h : Watched unsynced failed b) {author body : List UInt8}
    (henqueue : b.enqueue author body id = (b', .ok ())) : Watched unsynced failed b' := by
  obtain ⟨-, heq⟩ | ⟨p, -, ⟨cause, -, heq⟩ | ⟨-, heq⟩⟩ := enqueue_cases b author body id
  · cases heq.symm.trans henqueue
    exact h
  · cases heq.symm.trans henqueue
  · have hgrown := h.modify_output id fun _ => p.outbound.pushRelayed author body
    rcases hsync : syncInterest { b with peers := b.peers.modify id fun q =>
      { q with outbound := p.outbound.pushRelayed author body } } id with ⟨b'', cause | ⟨⟩⟩
    · rw [hsync] at heq
      cases heq.symm.trans henqueue
    · rw [hsync] at heq
      cases heq.symm.trans henqueue
      exact hgrown.sync hsync

/-- If there is no memory for it, or the multiplexer refuses it, the peer is an exception. -/
theorem Watched.enqueue_refused (h : Watched unsynced failed b) {author body : List UInt8}
    {cause : RelayError} (henqueue : b.enqueue author body id = (b', .error cause)) :
    Watched (id :: unsynced) failed b' := by
  obtain ⟨-, heq⟩ | ⟨p, -, ⟨_, -, heq⟩ | ⟨-, heq⟩⟩ := enqueue_cases b author body id
  · cases heq.symm.trans henqueue
  · cases heq.symm.trans henqueue
    exact h.modify_output id fun _ => p.outbound.pushRelayed author body
  · have hgrown := h.modify_output id fun _ => p.outbound.pushRelayed author body
    rcases hsync : syncInterest { b with peers := b.peers.modify id fun q =>
      { q with outbound := p.outbound.pushRelayed author body } } id with ⟨b'', refusal | ⟨⟩⟩
    · rw [hsync] at heq
      cases heq.symm.trans henqueue
      exact hgrown.refused hsync
    · rw [hsync] at heq
      cases heq.symm.trans henqueue

/-- The exceptions are those peers that are set down as failed. -/
theorem Watched.relayTo {progress : Broker × List PeerId}
    (h : Watched progress.2 progress.2 progress.1) (author body : List UInt8) (id : PeerId) :
    Watched (Broker.relayTo author body progress id).2 (Broker.relayTo author body progress id).2
      (Broker.relayTo author body progress id).1 := by
  unfold Broker.relayTo
  split
  · next b' henqueue => exact h.enqueue henqueue
  · next b' cause henqueue =>
    have hrefused := h.enqueue_refused henqueue
    have hlisted : id :: progress.2 ⊆ progress.2 ++ [id] := by simp
    have hbefore : progress.2 ⊆ progress.2 ++ [id] := List.subset_append_left ..
    show Watched (progress.2 ++ [id]) (progress.2 ++ [id]) _
    split
    · next connection hconnection =>
      obtain ⟨p, hp, rfl⟩ := Option.map_eq_some_iff.1 hconnection
      exact (hrefused.note_failed hp rfl).mono hlisted hlisted
    · exact hrefused.mono hlisted hbefore

/-- Whoever was refused on the way is dropped at the end. -/
theorem Watched.relay (h : Watched [] [] b) (sender : Option PeerId) (author : String)
    (body : List UInt8) : Watched [] [] (b.relay sender author body) := by
  refine Watched.foldl_close ?_
  refine List.foldlRecOn (motive := fun (progress : Broker × List PeerId) =>
    Watched progress.2 progress.2 progress.1) _ _ (h.note rfl) ?_
  exact fun progress hprogress id _ => hprogress.relayTo _ _ id

/-! ### Serving -/

/-- What touches only the name or the input of a peer leaves its interest. -/
theorem Watched.modify_input (h : Watched unsynced failed b) {f : Peer → Peer}
    (hsame : ∀ q, (f q).connection = q.connection ∧ (f q).armed = q.armed ∧
      (f q).outbound = q.outbound) :
    Watched unsynced failed { b with peers := b.peers.modify id f } :=
  h.modify (fun q => ⟨(hsame q).1, (hsame q).2.1⟩) fun _ q _ =>
    congrArg Interest.forOutbound (hsame q).2.2

theorem Watched.takeFrame (h : Watched [] [] b) (id : PeerId) (frame : List UInt8) :
    Watched [] [] (takeFrame id b frame).1 := by
  unfold Broker.takeFrame
  split
  · exact h
  next peer _ =>
  split
  · have hnamed : Watched [] [] { b with peers := b.peers.modify id fun q =>
        { q with name := some (Text.decodeLossy frame) } } :=
      h.modify_input fun _ => ⟨rfl, rfl, rfl⟩
    exact hnamed.note rfl
  · next author _ =>
    have hqueued (messages : MessageQueue) :
        Watched [] [] { b.relay (some id) author frame with messages } :=
      (h.relay (some id) author frame).congr (fun _ => rfl) rfl rfl (Nat.le_refl _) fun _ => Or.inl
    unfold queueMessage
    -- neither what is written down of a message nor the message is about a peer
    split <;> exact (hqueued _).note rfl

theorem Watched.takeFrames (h : Watched [] [] b) (id : PeerId) (frames : List (List UInt8)) :
    Watched [] [] (takeFrames id b frames).1 := by
  rw [fst_takeFrames]
  exact List.foldlRecOn (motive := Watched [] []) _ _ h
    fun b' hb' frame _ => hb'.takeFrame id frame

/-- A peer may be dropped at any time. -/
theorem Watched.close_any (h : Watched [] [] b) (id : PeerId) : Watched [] [] (b.close id) :=
  (h.mono (List.nil_subset [id]) (List.nil_subset [id])).close

/-- A peer of which something fails is dropped. -/
theorem Watched.fail (h : Watched unsynced [] b) (hunsynced : unsynced ⊆ [id])
    (hp : b.peers.get? id = some p) {entry : Entry} (hentry : entry.failed? = some p.connection) :
    Watched [] [] ((b.note entry).close id) :=
  ((h.note_failed hp hentry).mono hunsynced (List.Subset.refl [id])).close

theorem Watched.serveReadable (h : Watched [] [] b) (id : PeerId) (reads : List ReadEvent) :
    Watched [] [] (b.serveReadable id reads).1 := by
  cases hp : b.peers.get? id with
  | none =>
    rw [serveReadable_of_none hp]
    exact h
  | some p =>
    have hread (inbound : ByteQueue) :
        Watched [] [] { b.note (.received p.connection (p.inbound.receive reads).received) with
          peers := b.peers.modify id fun q => { q with inbound } } :=
      (h.note rfl).modify_input fun _ => ⟨rfl, rfl, rfl⟩
    simp only [Broker.serveReadable, hp]
    split
    · next cause _ =>
      have hmodified : (b.peers.modify id fun q =>
          { q with inbound := (p.inbound.receive reads).queue }).get? id =
            some { p with inbound := (p.inbound.receive reads).queue } := by
        rw [PeerTable.get?_modify, if_pos rfl, hp, Option.map_some]
      exact (hread _).fail (List.nil_subset _) hmodified rfl
    · next status _ =>
      have hframes := (hread (p.inbound.receive reads).queue.takeFrames.2).takeFrames id
        (p.inbound.receive reads).queue.takeFrames.1
      split
      · exact hframes
      · exact hframes.close_any id

/-- A pass that leaves output waiting leaves the interest too; one that writes all hands over the new
one, and one that fails drops the peer. -/
theorem Watched.serveWritable (h : Watched [] [] b) (id : PeerId) (writes : List WriteEvent) :
    Watched [] [] (b.serveWritable id writes) := by
  cases hp : b.peers.get? id with
  | none =>
    rw [serveWritable_of_none hp]
    exact h
  | some p =>
    have hwritten : Watched [id] [] (Broker.note { b with peers := b.peers.modify id fun q =>
        { q with outbound := (p.outbound.send writes).queue } }
          (.wrote p.connection (p.outbound.send writes).written)) :=
      (h.modify_output id fun _ => (p.outbound.send writes).queue).note rfl
    have hmodified : (b.peers.modify id fun q =>
        { q with outbound := (p.outbound.send writes).queue }).get? id =
          some { p with outbound := (p.outbound.send writes).queue } := by
      rw [PeerTable.get?_modify, if_pos rfl, hp, Option.map_some]
    simp only [Broker.serveWritable, hp]
    split
    · next hpartly =>
      obtain ⟨hbefore, hafter⟩ := ByteQueue.hasPending_of_partly hpartly
      refine hwritten.settle fun q hq => ?_
      cases hmodified.symm.trans hq
      show p.armed = _
      rw [h.synced id p hp List.not_mem_nil]
      simp only [Peer.interest, Interest.forOutbound, hbefore, hafter]
    · split
      · next b' hsync => exact hwritten.sync hsync
      · next b' cause hsync =>
        have hlive := ((syncInterest_refused hsync).1 id).trans hmodified
        exact (hwritten.refused hsync).fail (List.Subset.refl _) hlive rfl
    · exact hwritten.fail (List.Subset.refl _) hmodified rfl

/-! ### Cycles -/

theorem Watched.acceptAll (h : Watched [] [] b) (attempts : List AcceptEvent) :
    Watched [] [] (b.acceptAll attempts).1 := by
  fun_induction Broker.acceptAll b attempts with
  | case1 b => exact h
  | case2 b rest ih => exact ih h.accept
  | case3 b cause rest => exact h
  | case4 b cause rest hkind ih => exact ih h
  | case5 b cause rest hkind ih => exact ih h
  | case6 b cause rest =>
    have hpending : Watched [] [] { b with acceptPending := true } :=
      h.congr (fun _ => rfl) rfl rfl (Nat.le_refl _) fun _ => Or.inl
    exact hpending.note rfl

theorem Watched.serve (h : Watched [] [] b) (accepts : List AcceptEvent) (ready : Readiness) :
    Watched [] [] (b.serve accepts ready).1 := by
  unfold Broker.serve
  split
  · exact h.acceptAll accepts
  split
  · exact h
  next id _ =>
  have hread : Watched [] []
      (if ready.readable then b.serveReadable id ready.traffic.reads else (b, .ok ())).1 := by
    split
    · exact h.serveReadable id _
    · exact h
  simp only
  split
  · exact hread.serveWritable id _
  · exact hread

theorem Watched.serveAll (h : Watched [] [] b) (accepts : List AcceptEvent)
    (batch : List Readiness) : Watched [] [] (b.serveAll accepts batch).1 := by
  unfold Broker.serveAll
  rw [fst_inTurn]
  exact List.foldlRecOn (motive := Watched [] []) _ _ h
    fun b' hb' ready _ => hb'.serve accepts ready

theorem Watched.update (h : Watched [] [] b) (timeout : Option Nat)
    (poll : Option Nat → PollOutcome) : Watched [] [] (b.update timeout poll).1 := by
  unfold Broker.update
  split
  · simp only
    split
    · exact h
    · next ready accepts _ =>
      have hretried : Watched [] [] { b with acceptPending := false } :=
        h.congr (fun _ => rfl) rfl rfl (Nat.le_refl _) fun _ => Or.inl
      split
      · exact hretried
      · exact hretried.serveAll accepts _
  · exact h

theorem Watched.feed (h : Watched [] [] b) (text : List UInt8) : Watched [] [] (b.feed text).1 := by
  have hlines (localLines : ByteQueue) : Watched [] [] { b with localLines } :=
    h.congr (fun _ => rfl) rfl rfl (Nat.le_refl _) fun _ => Or.inl
  obtain ⟨-, tail, -, heq⟩ | ⟨-, localLines, -, heq⟩ := feed_cases b text
  · rw [heq]
    exact List.foldlRecOn (motive := Watched [] []) _ _ (hlines tail) fun b' hb' body _ =>
      hb'.relay none b'.author body
  · rw [heq]
    exact hlines localLines

/-! ### What is watched -/

/-- What the multiplexer is to watch: the listening socket, if there is one, and every live peer with the
interest last handed over. -/
def watchList (b : Broker) : List Registration :=
  (if b.listening then [listenerRegistration] else []) ++
    b.peers.toList.map fun (id, p) => p.registration id

theorem mem_watchList_iff {r : Registration} : r ∈ b.watchList ↔
    b.listening ∧ r = listenerRegistration ∨
      ∃ id p, b.peers.get? id = some p ∧ r = p.registration id := by
  have hlistener : r ∈ (if b.listening then [listenerRegistration] else []) ↔
      b.listening ∧ r = listenerRegistration := by
    split <;> simp_all
  rw [watchList, List.mem_append, hlistener, List.mem_map]
  simp only [Prod.exists, PeerTable.mem_toList_iff, eq_comm]

theorem tokens_watchList (b : Broker) : b.watchList.map Registration.token =
    (if b.listening then [Token.listener] else []) ++ b.peers.ids.map PeerId.token := by
  rw [watchList, List.map_append, PeerTable.ids, List.map_map, List.map_map]
  congr 1
  split <;> rfl

/-- No token is used twice. -/
theorem nodup_tokens_watchList (b : Broker) : (b.watchList.map Registration.token).Nodup := by
  have hpeers : (b.peers.ids.map PeerId.token).Nodup := PeerTable.History.nodup_tokens b.peers
  rw [tokens_watchList]
  split
  · rw [List.singleton_append, List.nodup_cons]
    refine ⟨fun hmem => ?_, hpeers⟩
    obtain ⟨id, hid, heq⟩ := List.mem_map.1 hmem
    exact PeerId.token_ne_listener (PeerTable.History.slot_le_of_mem_ids hid) heq
  · exact hpeers

/-- The multiplexer watches what it is to watch. -/
theorem Watched.perm (h : Watched unsynced failed b) :
    b.multiplexer.registrations.Perm b.watchList := by
  refine (List.perm_ext_iff_of_nodup (List.Nodup.of_map _ h.nodup)
    (List.Nodup.of_map _ (nodup_tokens_watchList b))).2 fun r => ?_
  rw [h.registered, mem_watchList_iff]

/-- What may be relied on between two operations. -/
structure Interests (b : Broker) : Prop where
  /-- Exactly the listening socket, if there is one, and the live peers are watched. -/
  tokens : (b.multiplexer.registrations.map Registration.token).Perm
    ((if b.listening then [Token.listener] else []) ++ b.peers.ids.map PeerId.token)
  distinct : (b.multiplexer.registrations.map Registration.token).Nodup
  /-- Each is watched under its own token and for the interest last handed over. -/
  watched : b.multiplexer.registrations.Perm b.watchList
  /-- That interest is the one which the output implies. -/
  armed : ∀ id p, b.peers.get? id = some p → p.armed = Interest.forOutbound p.outbound
  /-- A peer is watched for writing exactly while output waits for it. -/
  writable : ∀ id p, b.peers.get? id = some p → (p.armed.isWritable ↔ p.outbound.unconsumed ≠ [])
  /-- Whoever was refused, or whose socket failed, is no peer any more. -/
  dropped : ∀ entry ∈ b.journal, ∀ connection, entry.failed? = some connection →
    ∀ id p, b.peers.get? id = some p → p.connection ≠ connection
  /-- A broker that does not listen waits for nothing. -/
  idle : b.interest? = none ↔ ¬b.listening
  /-- The hosting application waits for writing while some peer is watched for it. -/
  hosted : ∀ interest, b.interest? = some interest →
    (interest.isWritable ↔ ∃ id p, b.peers.get? id = some p ∧ p.armed.isWritable)

theorem Watched.interests (h : Watched [] [] b) : b.Interests := by
  have harmed : ∀ id p, b.peers.get? id = some p → p.armed = Interest.forOutbound p.outbound :=
    fun id p hp => h.synced id p hp List.not_mem_nil
  have hpending : ∀ id p, b.peers.get? id = some p →
      (p.armed.isWritable ↔ p.outbound.hasPending) := by
    intro id p hp
    rw [harmed id p hp, Interest.isWritable_forOutbound]
  constructor
  case tokens =>
    rw [← tokens_watchList]
    exact h.perm.map _
  case distinct => exact (h.perm.map _).nodup_iff.2 (nodup_tokens_watchList b)
  case watched => exact h.perm
  case armed => exact harmed
  case writable =>
    intro id p hp
    rw [hpending id p hp, ByteQueue.hasPending_iff]
  case dropped =>
    rintro entry hentry connection hfailed id p hp rfl
    exact h.sound id p hp List.not_mem_nil entry hentry hfailed
  case idle =>
    unfold interest?
    split <;> simp_all
  case hosted =>
    intro interest hinterest
    unfold interest? at hinterest
    split at hinterest
    · cases hinterest
      have hany : b.peers.toList.any (·.2.outbound.hasPending) ↔
          ∃ id p, b.peers.get? id = some p ∧ p.armed.isWritable := by
        simp only [List.any_eq_true, Prod.exists, PeerTable.mem_toList_iff]
        exact exists_congr fun id => exists_congr fun p =>
          and_congr_right fun hp => (hpending id p hp).symm
      rw [← hany]
      split
      · next hsome => simp [hsome, Interest.isWritable]
      · next hnone => simp [hnone, Interest.isWritable]
    · cases hinterest

/-! ### Sessions -/

namespace Session

/-- Every event keeps the invariant. -/
theorem watched_step {s : Session} (h : Watched [] [] s.broker) (event : Event) :
    Watched [] [] (s.step event).broker := by
  cases event with
  | listen port setup => exact h.listen port setup
  | accept attempts => exact h.acceptAll attempts
  | readable id reads => exact h.serveReadable id reads
  | writable id writes => exact h.serveWritable id writes
  | close id => exact h.close_any id
  | update timeout poll => exact h.update timeout poll
  | feed text =>
    rw [step_feed]
    split <;> exact h.feed text
  | pop =>
    unfold step pop?
    cases s.broker.messages.pop? with
    | none => exact h
    | some taken => exact h.congr (fun _ => rfl) rfl rfl (Nat.le_refl _) fun _ => Or.inl

theorem watched_run {s : Session} (h : Watched [] [] s.broker) (events : List Event) :
    Watched [] [] (s.run events).broker :=
  List.foldlRecOn (motive := fun (s : Session) => Watched [] [] s.broker) events _ h
    fun _ hs event _ => watched_step hs event

/-- **No peer is left with waiting output that is not watched for writing**, in any session, whichever
registrations and changes of interest the multiplexer refuses, and whatever memory is refused. -/
theorem interests_run (settings : BrokerSettings) (registers rearms : List (Option IoError))
    (supply : Supply) (events : List Event) :
    ((start settings { registerVerdicts := registers, rearmVerdicts := rearms } supply).run
      events).broker.Interests :=
  (watched_run (Watched.begin settings registers rearms supply) events).interests

/-- When the multiplexer refuses the first change of interest, the peer for whom a line was queued is
dropped. The other has waiting output and is watched for writing. -/
theorem interests_run_refused :
    let b := ((start {} { rearmVerdicts := [some (.os 5)] }).run meeting).broker
    b.Interests ∧ b.peers.get? firstPeer = none ∧
      (b.peers.get? secondPeer).map (·.outbound.unconsumed) =
        some (Text.utf8 "server\nwelcome\x00") ∧
      b.multiplexer.registrations = [⟨.connection 1, secondPeer.token, .readWrite⟩] := by
  intro b
  have hpeers : (b.peers.get? firstPeer).isNone ∧
      (b.peers.get? secondPeer).map (·.outbound.unconsumed) =
        some (Text.utf8 "server\nwelcome\x00") ∧
      b.multiplexer.registrations = [⟨.connection 1, secondPeer.token, .readWrite⟩] := by
    decide +kernel
  obtain ⟨hdropped, hwaits, hwatched⟩ := hpeers
  exact ⟨interests_run {} [] [some (.os 5)] {} meeting, Option.isNone_iff_eq_none.1 hdropped, hwaits,
    hwatched⟩

end Session

end Broker

end ChatRelay
