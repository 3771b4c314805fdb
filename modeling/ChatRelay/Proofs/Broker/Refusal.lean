import ChatRelay.Proofs.Broker.Interest

/-!
# Who is dropped on the way

A line is queued for a peer piece by piece, and a peer whose output cannot hold it all is dropped. A peer
with waiting output is watched for writing already, and the multiplexer is not asked about it again when
more is queued. So it is asked only about those with nothing waiting, when the first of some lines has been
queued for them, in the order of the table; and whoever it refuses is dropped too.

- `refusedAmong`: those that are refused, by the answers.
- `Peer.hasRoom`: whether there is memory for lines in the output of a peer.
- `Broker.asksFor`, `Broker.idle`: those that the multiplexer is asked about.
- `Broker.Asks`: what an operation has come to that queues lines and asks about some peers.
- `foldl_relayTo_asked`: queueing a line for several peers.
- `asks_relay`, `Asks.lines`: relaying a line, and more lines after it.
- `asks_takeFrames`: handling the frames of a peer.
-/

namespace ChatRelay

variable {id : PeerId} {asked : List PeerId} {verdicts : List (Option IoError)}

/-- Those that are refused when some peers are asked about one after the other and these are the
answers. -/
def refusedAmong (asked : List PeerId) (verdicts : List (Option IoError)) : List PeerId :=
  ((asked.zip verdicts).filter (·.2.isSome)).map (·.1)

@[simp] theorem refusedAmong_nil (verdicts : List (Option IoError)) :
    refusedAmong [] verdicts = [] := rfl

/-- Those asked about later get the later answers. -/
theorem refusedAmong_append (asked more : List PeerId) (verdicts : List (Option IoError)) :
    refusedAmong (asked ++ more) verdicts =
      refusedAmong asked verdicts ++ refusedAmong more (verdicts.drop asked.length) := by
  induction asked generalizing verdicts with
  | nil => rfl
  | cons id rest ih =>
    cases verdicts with
    | nil => simp [refusedAmong]
    | cons verdict later =>
      have hrest := ih later
      unfold refusedAmong at hrest
      cases verdict <;> simp [refusedAmong, hrest]

/-- Nobody is refused if every answer grants. -/
theorem refusedAmong_eq_nil (h : ∀ verdict ∈ verdicts.take asked.length, verdict = none) :
    refusedAmong asked verdicts = [] := by
  rw [refusedAmong, List.map_eq_nil_iff, List.filter_eq_nil_iff]
  rintro ⟨id, verdict⟩ hmem
  have hverdict : verdict ∈ verdicts.take asked.length := by
    rw [List.zip_eq_zip_take_min] at hmem
    have := (List.of_mem_zip hmem).2
    exact List.take_subset_take_left _ (Nat.min_le_left ..) this
  simp [h verdict hverdict]

/-- One that is asked about is refused if the next answer says so. -/
theorem refusedAmong_singleton (id : PeerId) (verdicts : List (Option IoError)) :
    refusedAmong [id] verdicts =
      match (nextVerdict verdicts).1 with
      | .ok () => []
      | .error _ => [id] := by
  rcases verdicts with _ | ⟨_ | cause, rest⟩ <;> rfl

/-! ### Memory for lines -/

/-- The pieces in which a line is queued. -/
def Broker.Line.pieces (line : Broker.Line) : List (List UInt8) :=
  Frame.pieces (Text.utf8 line.author) line.body

namespace Peer

variable {p p' : Peer} {lines more : List Broker.Line}

/-- Append lines to the output of a peer, as far as memory reaches. -/
def tryQueue (p : Peer) (lines : List Broker.Line) : ByteQueue × Except RelayError Unit :=
  p.outbound.tryPushAll (lines.flatMap Broker.Line.pieces)

/-- Whether there is memory for all of them. -/
def hasRoom (p : Peer) (lines : List Broker.Line) : Bool := (p.tryQueue lines).2.isOk

theorem tryQueue_singleton (p : Peer) (line : Broker.Line) :
    p.tryQueue [line] = p.outbound.tryPushRelayed (Text.utf8 line.author) line.body :=
  congrArg p.outbound.tryPushAll (List.append_nil line.pieces)

theorem tryQueue_append (h : p.tryQueue lines = (p'.outbound, .ok ())) (more : List Broker.Line) :
    p.tryQueue (lines ++ more) = p'.tryQueue more := by
  unfold tryQueue at h ⊢
  rw [List.flatMap_append, ByteQueue.tryPushAll_append, h]

theorem hasRoom_of_append (h : p.hasRoom (lines ++ more)) : p.hasRoom lines := by
  unfold hasRoom tryQueue at h ⊢
  rw [List.flatMap_append, ByteQueue.tryPushAll_append] at h
  rcases hfirst : p.outbound.tryPushAll (lines.flatMap Broker.Line.pieces) with
    ⟨outbound, cause | ⟨⟩⟩
  · rw [hfirst] at h
    cases h
  · rfl

theorem hasRoom_of_ample (h : p.outbound.memory.Ample) (lines : List Broker.Line) :
    p.hasRoom lines := by
  rw [hasRoom, tryQueue, (ByteQueue.tryPushAll_of_ample h _).1]
  rfl

end Peer

namespace Broker

variable {b b' b'' : Broker} {p : Peer} {sender : Option PeerId} {unsynced failed : List PeerId}

/-! ### Asking about one peer -/

/-- Syncing asks about a live peer if its interest has changed. -/
theorem syncInterest_asks (hp : b.peers.get? id = some p) :
    ((b.syncInterest id).1.multiplexer, (b.syncInterest id).2) =
      if p.interest = p.armed then (b.multiplexer, .ok ())
      else b.multiplexer.rearm p.socket id.token p.interest := by
  simp only [syncInterest, hp, Peer.syncInterest]
  split
  · rfl
  · rcases b.multiplexer.rearm p.socket id.token p.interest with ⟨m, cause | ⟨⟩⟩ <;> rfl

/-- Whether a live peer has nothing waiting. -/
def isIdle (b : Broker) (id : PeerId) : Bool := (b.peers.get? id).any (!·.outbound.hasPending)

/-- Whether there is memory for a line in the output of a live peer. -/
def fits (b : Broker) (author body : List UInt8) (id : PeerId) : Bool :=
  (b.peers.get? id).any fun p => (p.outbound.tryPushRelayed author body).2.isOk

/-- Whether the multiplexer is asked about a peer when a line is queued for it. -/
def asksFor (b : Broker) (author body : List UInt8) (id : PeerId) : Bool :=
  b.isIdle id && b.fits author body id

/-- A line in the output of a peer changes its interest if nothing waited there. -/
theorem syncInterest_queued (h : Watched unsynced failed b) (hp : b.peers.get? id = some p)
    (hsynced : id ∉ unsynced) {author body : List UInt8}
    (hpush : (p.outbound.tryPushRelayed author body).2 = .ok ()) :
    let b' : Broker := { b with peers := b.peers.modify id fun q =>
      { q with outbound := p.outbound.pushRelayed author body } }
    let asked := if p.outbound.hasPending then [] else [id]
    (b'.syncInterest id).1.multiplexer.rearmVerdicts =
        b.multiplexer.rearmVerdicts.drop asked.length ∧
      ((b'.syncInterest id).2 = .ok () ↔ id ∉ refusedAmong asked b.multiplexer.rearmVerdicts) := by
  intro b' asked
  let queued : Peer := { p with outbound := p.outbound.pushRelayed author body }
  have hqueued : b'.peers.get? id = some queued := by
    show (b.peers.modify id _).get? id = _
    rw [PeerTable.get?_modify, if_pos rfl, hp]
    rfl
  have hinterest : queued.interest = .readWrite := by
    have hpending : queued.outbound.hasPending := by
      rw [ByteQueue.hasPending_iff, ByteQueue.unconsumed_of_tryPushRelayed hpush]
      simp [Frame.relayed]
    exact if_pos hpending
  have harmed : queued.armed = p.interest := h.synced id p hp hsynced
  have hasks := syncInterest_asks hqueued
  rw [hinterest, harmed] at hasks
  obtain ⟨hmultiplexer, houtcome⟩ := Prod.ext_iff.1 hasks
  rw [show (b'.syncInterest id).1.multiplexer = _ from hmultiplexer,
    show (b'.syncInterest id).2 = _ from houtcome]
  by_cases hpending : p.outbound.hasPending
  · have hsame : p.interest = .readWrite := if_pos hpending
    rw [show asked = [] from if_pos hpending, hsame]
    exact ⟨rfl, iff_of_true rfl List.not_mem_nil⟩
  · have hchanged : p.interest = .read := if_neg hpending
    have hregistered : b'.multiplexer.isRegistered queued.socket :=
      Multiplexer.isRegistered_iff.2 ⟨_, h.mem_registrations hp, rfl⟩
    obtain ⟨hverdicts, hanswer⟩ :=
      Multiplexer.rearm_of_isRegistered hregistered id.token .readWrite
    rw [show asked = [id] from if_neg hpending, hchanged, if_neg (by decide), hanswer, hverdicts,
      refusedAmong_singleton]
    refine ⟨List.drop_one.symm, ?_⟩
    show ((nextVerdict b.multiplexer.rearmVerdicts).1 = _ ↔ _)
    rcases (nextVerdict b.multiplexer.rearmVerdicts).1 with cause | ⟨⟩
    · refine iff_of_false (fun hgrant => ?_) fun hnot => hnot List.mem_cons_self
      cases hgrant
    · exact iff_of_true rfl List.not_mem_nil

/-- Queueing a line asks about a peer that had nothing waiting, once the line is in its output. -/
theorem enqueue_asks (h : Watched unsynced failed b) (hp : b.peers.get? id = some p)
    (hsynced : id ∉ unsynced) (author body : List UInt8) :
    let asked := [id].filter (b.asksFor author body)
    (b.enqueue author body id).1.multiplexer.rearmVerdicts =
        b.multiplexer.rearmVerdicts.drop asked.length ∧
      ((b.enqueue author body id).2 = .ok () ↔
        b.fits author body id ∧ id ∉ refusedAmong asked b.multiplexer.rearmVerdicts) := by
  intro asked
  have hidle : b.isIdle id = !p.outbound.hasPending := by rw [isIdle, hp]; rfl
  have hfits : b.fits author body id = (p.outbound.tryPushRelayed author body).2.isOk := by
    rw [fits, hp]
    rfl
  obtain ⟨hnone, -⟩ | ⟨q, hq, ⟨cause, hshort, heq⟩ | ⟨hpush, heq⟩⟩ := enqueue_cases b author body id
  · cases hnone.symm.trans hp
  -- without memory the multiplexer is not asked
  · cases hp.symm.trans hq
    have hasked : asked = [] := by simp [asked, asksFor, hfits, hshort, Except.isOk, Except.toBool]
    rw [heq, hasked, hfits, hshort]
    refine ⟨rfl, iff_of_false (fun hok => ?_) fun h => ?_⟩
    · cases hok
    · cases h.1
  · cases hp.symm.trans hq
    have hok : b.fits author body id := by rw [hfits, hpush]; rfl
    have hasked : asked = if p.outbound.hasPending then [] else [id] := by
      cases hpending : p.outbound.hasPending <;> simp [asked, asksFor, hidle, hok, hpending]
    obtain ⟨hverdicts, hanswer⟩ := syncInterest_queued h hp hsynced hpush
    rw [heq, hasked, and_iff_right hok, ← hanswer]
    refine ⟨hverdicts, ?_⟩
    generalize (syncInterest _ id).2 = outcome
    rcases outcome with cause | ⟨⟩
    · exact iff_of_false (fun hgrant => by cases hgrant) fun hgrant => by cases hgrant
    · exact iff_of_true rfl rfl

/-! ### Asking about several peers -/

/-- The peers with nothing waiting, but for a sender, in the order of the table. -/
def idle (b : Broker) (sender : Option PeerId) : List PeerId :=
  (b.peers.ids.filter fun id => some id ≠ sender).filter b.isIdle

theorem isIdle_congr (h : b'.peers.get? id = b.peers.get? id) : b'.isIdle id = b.isIdle id := by
  unfold isIdle
  rw [h]

theorem fits_congr (h : b'.peers.get? id = b.peers.get? id) (author body : List UInt8) :
    b'.fits author body id = b.fits author body id := by
  unfold fits
  rw [h]

theorem contains_syncInterest (b : Broker) (id other : PeerId) :
    (b.syncInterest id).1.peers.contains other = b.peers.contains other := by
  obtain ⟨multiplexer, armed, heq⟩ := syncInterest_eq b id
  rw [heq]
  exact PeerTable.contains_modify ..

theorem contains_enqueue (b : Broker) (author body : List UInt8) (id other : PeerId) :
    (b.enqueue author body id).1.peers.contains other = b.peers.contains other := by
  obtain ⟨-, heq⟩ | ⟨p, -, ⟨cause, -, heq⟩ | ⟨-, heq⟩⟩ := enqueue_cases b author body id
  · rw [heq]
  · rw [heq]
    exact PeerTable.contains_modify ..
  · rw [heq]
    exact (contains_syncInterest ..).trans (PeerTable.contains_modify ..)

/-- What queueing a line for some peers comes to when it is known whom the multiplexer is asked about. The
peers that fail are those without memory for the line and those that are refused; none is dropped yet. -/
structure Asked (author body : List UInt8) (ids : List PeerId) (progress result : Broker × List PeerId) :
    Prop where
  verdicts : result.1.multiplexer.rearmVerdicts = progress.1.multiplexer.rearmVerdicts.drop
    (ids.filter (progress.1.asksFor author body)).length
  failed : ∀ other, other ∈ result.2 ↔ other ∈ progress.2 ∨
    (other ∈ ids ∧ ¬progress.1.fits author body other) ∨ other ∈
      refusedAmong (ids.filter (progress.1.asksFor author body)) progress.1.multiplexer.rearmVerdicts
  contains : ∀ other, result.1.peers.contains other = progress.1.peers.contains other

/-- Those that are refused have been asked about. -/
theorem mem_of_mem_refusedAmong {other : PeerId} (h : other ∈ refusedAmong asked verdicts) :
    other ∈ asked := by
  obtain ⟨⟨_, verdict⟩, hmem, rfl⟩ := List.mem_map.1 h
  exact (List.of_mem_zip (List.mem_filter.1 hmem).1).1

theorem relayTo_asked {progress : Broker × List PeerId}
    (h : Watched progress.2 progress.2 progress.1) (hlive : progress.1.peers.contains id)
    (hnot : id ∉ progress.2) (author body : List UInt8) :
    Asked author body [id] progress (relayTo author body progress id) := by
  obtain ⟨p, hp⟩ := PeerTable.contains_iff.1 hlive
  obtain ⟨hverdicts, houtcome⟩ := enqueue_asks h hp hnot author body
  have hcontains := contains_enqueue progress.1 author body id
  have hrefused {other : PeerId} (hother : other ∈ refusedAmong
      ([id].filter (progress.1.asksFor author body)) progress.1.multiplexer.rearmVerdicts) :
      other = id :=
    List.mem_singleton.1 (List.mem_filter.1 (mem_of_mem_refusedAmong hother)).1
  obtain ⟨hok, heq⟩ | ⟨hfailed, heq, herror⟩ := relayTo_cases author body progress id
  · obtain ⟨hfits, hgranted⟩ := houtcome.1 hok
    rw [heq]
    refine ⟨hverdicts, fun other => ⟨Or.inl, ?_⟩, hcontains⟩
    rintro (hother | ⟨hother, hshort⟩ | hother)
    · exact hother
    · exact absurd (List.mem_singleton.1 hother ▸ hfits) hshort
    · exact absurd (hrefused hother ▸ hother) hgranted
  -- the failure may be written down, which touches neither the answers nor the peers
  · have hsame : (relayTo author body progress id).1.multiplexer =
          (progress.1.enqueue author body id).1.multiplexer ∧
        (relayTo author body progress id).1.peers = (progress.1.enqueue author body id).1.peers := by
      rcases heq with heq | ⟨connection, cause, heq⟩ <;> rw [heq] <;> exact ⟨rfl, rfl⟩
    have hreason : ¬progress.1.fits author body id ∨ id ∈ refusedAmong
        ([id].filter (progress.1.asksFor author body)) progress.1.multiplexer.rearmVerdicts := by
      by_contra hnone
      obtain ⟨hfits, hgranted⟩ := not_or.1 hnone
      exact herror (houtcome.2 ⟨Decidable.not_not.1 hfits, hgranted⟩)
    refine ⟨by rw [hsame.1]; exact hverdicts, fun other => ?_, fun other => ?_⟩
    · rw [hfailed, List.mem_append, List.mem_singleton]
      refine or_congr_right ⟨?_, ?_⟩
      · rintro rfl
        exact hreason.imp_left fun hshort => ⟨rfl, hshort⟩
      · rintro (hother | hother)
        · exact hother.1
        · exact hrefused hother
    · rw [hsame.2]
      exact hcontains other

/-- Queueing a line for several peers asks about one after the other. -/
theorem foldl_relayTo_asked (author body : List UInt8) {ids : List PeerId} (hnodup : ids.Nodup)
    {progress : Broker × List PeerId} (h : Watched progress.2 progress.2 progress.1)
    (hlive : ∀ id ∈ ids, progress.1.peers.contains id ∧ id ∉ progress.2) :
    Asked author body ids progress (ids.foldl (relayTo author body) progress) := by
  induction ids generalizing progress with
  | nil => exact ⟨rfl, fun other => by simp, fun _ => rfl⟩
  | cons id rest ih =>
    obtain ⟨hid, hrest⟩ := List.nodup_cons.1 hnodup
    obtain ⟨⟨hcontains, hnot⟩, hlater⟩ := List.forall_mem_cons.1 hlive
    have hfirst := relayTo_asked h hcontains hnot author body
    have hstill : ∀ other ∈ rest, (relayTo author body progress id).1.peers.contains other ∧
        other ∉ (relayTo author body progress id).2 := by
      intro other hother
      refine ⟨(hfirst.contains other).trans (hlater other hother).1, fun hmem => ?_⟩
      rcases mem_failed_relayTo hmem with hmem | rfl
      · exact (hlater other hother).2 hmem
      · exact hid hother
    -- the line for the first leaves the others as they are, and what is asked about them
    have hsame : ∀ other ∈ rest, (relayTo author body progress id).1.peers.get? other =
        progress.1.peers.get? other := by
      intro other hother
      refine (queued_relayTo author body progress id).untouched other fun hmem => hid ?_
      exact List.mem_singleton.1 hmem ▸ hother
    have hasked : rest.filter ((relayTo author body progress id).1.asksFor author body) =
        rest.filter (progress.1.asksFor author body) := by
      refine List.filter_congr fun other hother => ?_
      rw [asksFor, asksFor, isIdle_congr (hsame other hother), fits_congr (hsame other hother)]
    have hsplit : (id :: rest).filter (progress.1.asksFor author body) =
        [id].filter (progress.1.asksFor author body) ++
          rest.filter (progress.1.asksFor author body) :=
      List.filter_append (p := progress.1.asksFor author body) [id] rest
    obtain ⟨hverdicts, hfailed, hpeers⟩ := ih hrest (h.relayTo author body id) hstill
    rw [hasked] at hverdicts
    simp only [hasked, hfirst.failed, hfirst.verdicts] at hfailed
    rw [List.foldl_cons]
    refine ⟨?_, fun other => ?_, fun other => (hpeers other).trans (hfirst.contains other)⟩
    · rw [hverdicts, hfirst.verdicts, List.drop_drop, ← List.length_append, ← hsplit]
    · have hfits : (other ∈ rest ∧ ¬(relayTo author body progress id).1.fits author body other) ↔
          (other ∈ rest ∧ ¬progress.1.fits author body other) :=
        and_congr_right fun hother => by rw [fits_congr (hsame other hother)]
      rw [hfailed, hfits, hsplit, refusedAmong_append, List.mem_append, List.mem_singleton,
        List.mem_cons, or_and_right]
      exact or_assoc.trans (or_congr_right or_or_or_comm)

/-! ### Relaying -/

/-- Whether there is memory for some lines in the output of a peer, if it is live. -/
def takes (b : Broker) (lines : List Line) (id : PeerId) : Prop :=
  ∀ p, b.peers.get? id = some p → p.hasRoom lines

/-- An operation has queued some lines for those that it does not serve, and has asked the multiplexer
about some of them. Those that were refused are gone, and those without memory for the lines, and no
others. -/
structure Asks (sender : Option PeerId) (lines : List Line) (asked : List PeerId) (b b' : Broker) :
    Prop where
  verdicts : b'.multiplexer.rearmVerdicts = b.multiplexer.rearmVerdicts.drop asked.length
  live : ∀ other, some other ≠ sender → (b'.peers.contains other ↔ b.peers.contains other ∧
    other ∉ refusedAmong asked b.multiplexer.rearmVerdicts ∧ b.takes lines other)
  output : ∀ other, some other ≠ sender → ∀ q q', b.peers.get? other = some q →
    b'.peers.get? other = some q' → q.tryQueue lines = (q'.outbound, .ok ())

/-- What touches neither the answers nor the others queues nothing and asks about nobody. -/
theorem Asks.quiet (hmultiplexer : b'.multiplexer.rearmVerdicts = b.multiplexer.rearmVerdicts)
    (hpeers : ∀ other, some other ≠ sender → b'.peers.get? other = b.peers.get? other) :
    Asks sender [] [] b b' where
  verdicts := hmultiplexer
  live other hother := by
    have hroom : b.takes [] other := fun _ _ => rfl
    rw [PeerTable.contains, hpeers other hother]
    exact (and_iff_left ⟨List.not_mem_nil, hroom⟩).symm
  output other hother q q' hq hq' := by
    rw [hpeers other hother, hq] at hq'
    cases hq'
    rfl

theorem Asks.trans {lines more : List Line} {asked' : List PeerId} (h : Asks sender lines asked b b')
    (h' : Asks sender more asked' b' b'') :
    Asks sender (lines ++ more) (asked ++ asked') b b'' where
  verdicts := by
    rw [h'.verdicts, h.verdicts, List.drop_drop, List.length_append]
  live other hother := by
    rw [h'.live other hother, h.verdicts, refusedAmong_append, List.mem_append, not_or]
    constructor
    · rintro ⟨hlive', hunrefused', hroom'⟩
      obtain ⟨hlive, hunrefused, -⟩ := (h.live other hother).1 hlive'
      refine ⟨hlive, ⟨hunrefused, hunrefused'⟩, fun q hq => ?_⟩
      obtain ⟨q', hq'⟩ := PeerTable.contains_iff.1 hlive'
      rw [Peer.hasRoom, Peer.tryQueue_append (h.output other hother q q' hq hq')]
      exact hroom' q' hq'
    · rintro ⟨hlive, ⟨hunrefused, hunrefused'⟩, hroom⟩
      obtain ⟨q, hq⟩ := PeerTable.contains_iff.1 hlive
      have hfirst : b.takes lines other := fun q hq => Peer.hasRoom_of_append (hroom q hq)
      refine ⟨(h.live other hother).2 ⟨hlive, hunrefused, hfirst⟩, hunrefused', fun q' hq' => ?_⟩
      have hall := hroom q hq
      rwa [Peer.hasRoom, Peer.tryQueue_append (h.output other hother q q' hq hq')] at hall
  output other hother q q'' hq hq'' := by
    obtain ⟨hlive', -⟩ := (h'.live other hother).1 (PeerTable.contains_iff.2 ⟨q'', hq''⟩)
    obtain ⟨q', hq'⟩ := PeerTable.contains_iff.1 hlive'
    rw [Peer.tryQueue_append (h.output other hother q q' hq hq')]
    exact h'.output other hother q' q'' hq' hq''

theorem rearmVerdicts_close (b : Broker) (id : PeerId) :
    (b.close id).multiplexer.rearmVerdicts = b.multiplexer.rearmVerdicts := by
  unfold close
  split
  · rfl
  next p peers _ =>
  have hdrop : ((p.deregister b.multiplexer).1.forget p.socket).rearmVerdicts =
      b.multiplexer.rearmVerdicts := b.multiplexer.rearmVerdicts_drop p.socket
  revert hdrop
  rcases p.deregister b.multiplexer with ⟨multiplexer, cause | ⟨⟩⟩ <;> exact fun hdrop => hdrop

theorem rearmVerdicts_foldl_close (b : Broker) (dropped : List PeerId) :
    (dropped.foldl close b).multiplexer.rearmVerdicts = b.multiplexer.rearmVerdicts :=
  List.foldlRecOn (motive := fun (b' : Broker) =>
    b'.multiplexer.rearmVerdicts = b.multiplexer.rearmVerdicts) dropped close rfl
    fun b' hb' id _ => (rearmVerdicts_close b' id).trans hb'

/-- Dropping the peer that is served asks about nobody more. -/
theorem Asks.close {lines : List Line} (h : Asks (some id) lines asked b b') :
    Asks (some id) lines asked b (b'.close id) := by
  have hquiet : Asks (some id) [] [] b' (b'.close id) :=
    .quiet (rearmVerdicts_close b' id) fun other hother => by
      rw [get?_close, if_neg fun heq => hother (congrArg some heq)]
  have htrans := h.trans hquiet
  rwa [List.append_nil, List.append_nil] at htrans

/-- The peers that some lines of a sender ask about: once the first of them is queued, nobody has nothing
waiting any more. -/
def askedFor (b : Broker) (sender : Option PeerId) : List Line → List PeerId
  | [] => []
  | line :: _ => (b.idle sender).filter (b.fits (Text.utf8 line.author) line.body)

/-- Those of them that the multiplexer refuses. -/
def refusedFor (b : Broker) (sender : Option PeerId) (lines : List Line) : List PeerId :=
  refusedAmong (b.askedFor sender lines) b.multiplexer.rearmVerdicts

theorem fits_iff_takes (hlive : b.peers.contains id) (line : Line) :
    b.fits (Text.utf8 line.author) line.body id ↔ b.takes [line] id := by
  obtain ⟨p, hp⟩ := PeerTable.contains_iff.1 hlive
  have hfits : b.fits (Text.utf8 line.author) line.body id = p.hasRoom [line] := by
    rw [Peer.hasRoom, Peer.tryQueue_singleton, fits, hp]
    rfl
  rw [hfits]
  refine ⟨fun hroom q hq => ?_, fun hroom => hroom p hp⟩
  cases hp.symm.trans hq
  exact hroom

/-- **A line asks about the others that have nothing waiting**, as far as there is memory for it. Whoever
is refused is dropped, and whoever cannot hold the line. -/
theorem asks_relay (h : Watched [] [] b) (sender : Option PeerId) (connection : Option Nat)
    (author : String) (body : List UInt8) :
    Asks sender [⟨connection, author, body⟩] (b.askedFor sender [⟨connection, author, body⟩]) b
      (b.relay sender author body) := by
  have hnodup : (b.peers.ids.filter fun id => some id ≠ sender).Nodup := b.peers.nodup_ids.filter _
  have hlive : ∀ id ∈ b.peers.ids.filter fun id => some id ≠ sender,
      b.peers.contains id ∧ id ∉ ([] : List PeerId) := by
    intro id hid
    refine ⟨PeerTable.contains_iff.2 ?_, List.not_mem_nil⟩
    exact PeerTable.mem_ids_iff.1 (List.mem_filter.1 hid).1
  let noted := b.note (.relayed (sender.bind b.connection?) author body)
  have hnoted : Watched [] [] noted := h.note rfl
  have hasked := @foldl_relayTo_asked (Text.utf8 author) body _ hnodup (noted, []) hnoted hlive
  have hfilter : (b.peers.ids.filter fun id => some id ≠ sender).filter
      (noted.asksFor (Text.utf8 author) body) =
        b.askedFor sender [⟨connection, author, body⟩] :=
    (List.filter_congr fun _ _ => Bool.and_comm ..).trans (List.filter_filter ..).symm
  constructor
  case verdicts =>
    refine (rearmVerdicts_foldl_close _ _).trans ?_
    rw [← hfilter]
    exact hasked.verdicts
  case live =>
    intro other hother
    have hkept := hasked.contains other
    have hfailed := hasked.failed other
    rw [hfilter] at hfailed
    rw [relay, PeerTable.contains, get?_foldl_close]
    by_cases hcontains : b.peers.contains other
    · have hmem : other ∈ b.peers.ids.filter fun id => some id ≠ sender :=
        List.mem_filter.2 ⟨PeerTable.mem_ids_iff.2 (PeerTable.contains_iff.1 hcontains),
          decide_eq_true hother⟩
      have hfits : noted.fits (Text.utf8 author) body other ↔ b.takes [⟨connection, author, body⟩] other :=
        fits_iff_takes hcontains ⟨connection, author, body⟩
      split
      · next hdropped =>
        refine iff_of_false Bool.false_ne_true ?_
        rintro ⟨-, hgranted, hroom⟩
        rcases hfailed.1 hdropped with hnone | ⟨-, hshort⟩ | hrefused
        · cases hnone
        · exact hshort (hfits.2 hroom)
        · exact hgranted hrefused
      · next hnot =>
        refine iff_of_true (hkept.trans hcontains) ⟨hcontains, fun hrefused => ?_, hfits.1 ?_⟩
        · exact hnot (hfailed.2 (Or.inr (Or.inr hrefused)))
        · by_contra hshort
          exact hnot (hfailed.2 (Or.inr (Or.inl ⟨hmem, hshort⟩)))
    · refine iff_of_false ?_ fun h => hcontains h.1
      split
      · exact Bool.false_ne_true
      · exact fun hlive => hcontains (hkept.symm.trans hlive)
  case output =>
    intro other hother q q' hq hq'
    obtain ⟨p, hp, hpush, -⟩ := survivor_relay hq' hother
    cases hq.symm.trans hp
    rw [Peer.tryQueue_singleton]
    exact hpush

/-- Whoever lives on after a line has something waiting. -/
theorem idle_relay (b : Broker) (sender : Option PeerId) (author : String) (body : List UInt8) :
    (b.relay sender author body).idle sender = [] := by
  rw [idle, List.filter_eq_nil_iff]
  intro other hother hidle
  obtain ⟨hmem, hne⟩ := List.mem_filter.1 hother
  obtain ⟨q, hq⟩ := PeerTable.mem_ids_iff.1 hmem
  obtain ⟨p, -, -, hgains⟩ := survivor_relay hq (of_decide_eq_true hne)
  have hpending : q.outbound.hasPending := by
    rw [ByteQueue.hasPending_iff, hgains.outbound]
    simp [Frame.relayed]
  simp [isIdle, hq, hpending] at hidle

/-! ### Several lines -/

/-- After a line no more peers are asked about. -/
theorem Asks.lines {line : Line} {more : List Line}
    (h : Asks sender [line] (b.askedFor sender [line]) b b') (hidle : b'.idle sender = [])
    (h' : Asks sender more (b'.askedFor sender more) b' b'') :
    Asks sender (line :: more) (b.askedFor sender (line :: more)) b b'' := by
  have hnone : b'.askedFor sender more = [] := by
    cases more with
    | nil => rfl
    | cons next rest => rw [askedFor, hidle, List.filter_nil]
  have htrans := h.trans h'
  rwa [hnone, List.append_nil] at htrans

/-- The others are asked about as before if they are the same as before. -/
theorem askedFor_congr (hids : b'.peers.ids = b.peers.ids)
    (hpeers : ∀ other, some other ≠ sender → b'.peers.get? other = b.peers.get? other)
    (lines : List Line) : b'.askedFor sender lines = b.askedFor sender lines := by
  have hidle : b'.idle sender = b.idle sender := by
    rw [idle, idle, hids]
    exact List.filter_congr fun other hother =>
      isIdle_congr (hpeers other (of_decide_eq_true (List.mem_filter.1 hother).2))
  cases lines with
  | nil => rfl
  | cons line rest =>
    rw [askedFor, askedFor, hidle]
    refine List.filter_congr fun other hother => fits_congr (hpeers other ?_) ..
    exact of_decide_eq_true (List.mem_filter.1 (List.mem_filter.1 hother).1).2

/-- Changing a peer and writing something down asks about nobody, and the others are asked about as
before. -/
theorem asks_modify (b : Broker) (id : PeerId) (f : Peer → Peer) (entry : Entry) (lines : List Line) :
    let b' := note { b with peers := b.peers.modify id f } entry
    Asks (some id) [] [] b b' ∧ b'.askedFor (some id) lines = b.askedFor (some id) lines := by
  intro b'
  have hids : b'.peers.ids = b.peers.ids := PeerTable.ids_modify b.peers id f
  have hpeers : ∀ other, some other ≠ some id → b'.peers.get? other = b.peers.get? other := by
    intro other hother
    show (b.peers.modify id f).get? other = b.peers.get? other
    rw [PeerTable.get?_modify, if_neg fun heq => hother (congrArg some heq)]
  exact ⟨.quiet rfl hpeers, askedFor_congr hids hpeers lines⟩

/-- **The frames of a peer ask once**, however many of them are lines. -/
theorem asks_takeFrames (h : Watched [] [] b) (hp : b.peers.get? id = some p)
    (frames : List (List UInt8)) :
    let lines := Line.ofFrames p.connection p.name frames
    Asks (some id) lines (b.askedFor (some id) lines) b (takeFrames id b frames).1 := by
  simp only [fst_takeFrames]
  induction frames generalizing b p with
  | nil =>
    rw [Line.ofFrames_nil]
    exact .quiet rfl fun _ _ => rfl
  | cons frame rest ih =>
    have hwatched := h.takeFrame id frame
    cases hname : p.name with
    | none =>
      -- the name goes to nobody, and the rest are lines under it
      have hnamed := (served_takeFrame_unnamed hp hname frame).own
      have hfirst : (takeFrame id b frame).1 = note { b with peers := b.peers.modify id fun p =>
          { p with name := some (Text.decodeLossy frame) } } (.joined p.connection frame) := by
        simp only [takeFrame, hp, hname]
      obtain ⟨hquiet, hasked⟩ := asks_modify b id
        (fun p => { p with name := some (Text.decodeLossy frame) }) (.joined p.connection frame)
        (Line.ofFrames p.connection (some (Text.decodeLossy frame)) rest)
      rw [← hfirst] at hquiet hasked
      have hrest := ih hwatched hnamed
      simp only [hasked] at hrest
      exact hquiet.trans hrest
    | some author =>
      have hlive := (served_takeFrame_named hp hname frame).own
      have hfirst : (takeFrame id b frame).1 =
          ((b.relay (some id) author frame).queueMessage ⟨author, Text.decodeLossy frame⟩).1 := by
        simp only [takeFrame, hp, hname]
      obtain ⟨messages, entry, -, hqueued⟩ :=
        queueMessage_eq (b.relay (some id) author frame) ⟨author, Text.decodeLossy frame⟩
      have hrelay : Asks (some id) [⟨some p.connection, author, frame⟩]
          (b.askedFor (some id) [⟨some p.connection, author, frame⟩]) b (takeFrame id b frame).1 := by
        obtain ⟨hverdicts, hrelayed, houtput⟩ :=
          asks_relay h (some id) (some p.connection) author frame
        rw [hfirst, hqueued]
        exact ⟨hverdicts, hrelayed, houtput⟩
      have hidle : (takeFrame id b frame).1.idle (some id) = [] := by
        rw [hfirst, hqueued]
        exact idle_relay b (some id) author frame
      have hrest := ih hwatched hlive
      rw [hname] at hrest
      exact hrelay.lines hidle hrest

end Broker

end ChatRelay
