import ChatRelay.Proofs.Broker.Account

/-!
# What every operation keeps

Every operation of a broker keeps the account of its live peers, and what it does for the hosting
application is told by the traffic too.

- `Broker.Serves`: what holds of every operation but those of the hosting application itself.
- `serves_accept`, `serves_close`, `serves_serveReadable`, `serves_serveWritable`: the single operations.
- `serves_update`: a whole cycle of waiting and serving.
- `feed_cases`: feeding text, for which there may be no memory.
- `consistent_feed`, `Granted.feed`, `traffic_feed`: the lines of the hosting application.
-/

namespace ChatRelay.Broker

open ChatRelay.Broker.Traffic

variable {b b' b'' : Broker} {id : PeerId} {p p' : Peer} {entries : List Entry}

/-! ### The entries of frames -/

section OfFrames

variable (connection : Nat) (name : Option String) (frames : List (List UInt8))

/-- The frames of a connection are told one by one. -/
@[simp] theorem frames_ofFrames :
    Traffic.frames connection (Entry.ofFrames connection name frames) = frames := by
  fun_induction Entry.ofFrames connection name frames with
  | case1 => rfl
  | case2 frame rest ih => simpa [Traffic.frames, Entry.frame?] using ih
  | case3 author frame rest ih => simpa [Traffic.frames, Entry.frame?] using ih

@[simp] theorem lines_ofFrames :
    lines (Entry.ofFrames connection name frames) = Line.ofFrames connection name frames := by
  fun_induction Entry.ofFrames connection name frames with
  | case1 => rw [Line.ofFrames_nil]; rfl
  | case2 frame rest ih =>
    rw [lines, List.filterMap_cons_none rfl]
    exact ih
  | case3 author frame rest ih => simpa [lines, Entry.line?, Line.ofFrames] using ih

/-- Handling frames neither reads nor writes. -/
@[simp] theorem received_ofFrames (other : Nat) :
    received other (Entry.ofFrames connection name frames) = [] := by
  fun_induction Entry.ofFrames connection name frames with
  | case1 => rfl
  | case2 frame rest ih => simpa [received, Entry.bytesFrom] using ih
  | case3 author frame rest ih => simpa [received, Entry.bytesFrom] using ih

@[simp] theorem written_ofFrames (other : Nat) :
    written other (Entry.ofFrames connection name frames) = [] := by
  fun_induction Entry.ofFrames connection name frames with
  | case1 => rfl
  | case2 frame rest ih => simpa [written, Entry.bytesTo] using ih
  | case3 author frame rest ih => simpa [written, Entry.bytesTo] using ih

variable {connection}

@[simp] theorem received_cons (bytes : List UInt8) (entries : List Entry) :
    received connection (.received connection bytes :: entries) =
      bytes ++ received connection entries := by
  rw [received, List.flatMap_cons, Entry.bytesFrom, if_pos rfl]
  rfl

theorem silent_ofFrames {other : Nat} (h : other ≠ connection) :
    Silent other (Entry.ofFrames connection name frames) := by
  fun_induction Entry.ofFrames connection name frames with
  | case1 => exact silent_nil
  | case2 frame rest ih => exact silent_cons_iff.2 ⟨fun heq => h (Option.some.inj heq).symm, ih⟩
  | case3 author frame rest ih =>
    exact silent_cons_iff.2 ⟨fun heq => h (Option.some.inj heq).symm, ih⟩

/-- The lines of a connection's frames are its own. -/
theorem sender_of_mem_ofFrames {line : Line} (h : line ∈ Line.ofFrames connection name frames) :
    line.sender = some connection := by
  unfold Line.ofFrames at h
  split at h
  · obtain ⟨body, -, rfl⟩ := List.mem_map.1 h
    rfl
  · cases h
  · obtain ⟨body, -, rfl⟩ := List.mem_map.1 h
    rfl

end OfFrames

/-- What the frames of a peer make is about that peer only, and all its lines are its own. -/
theorem linesFrom_ofFrames (connection : Nat) (name : Option String) (frames : List (List UInt8)) :
    linesFrom (Entry.ofFrames connection name frames) (some connection) =
      Line.ofFrames connection name frames := by
  rw [linesFrom, lines_ofFrames, List.filter_eq_self]
  intro line hline
  exact decide_eq_true (sender_of_mem_ofFrames name frames hline)

theorem linesFor_ofFrames (connection : Nat) (name : Option String) (frames : List (List UInt8)) :
    linesFor connection (Entry.ofFrames connection name frames) = [] := by
  rw [linesFor, lines_ofFrames, List.filter_eq_nil_iff]
  intro line hline
  simpa using sender_of_mem_ofFrames name frames hline

/-! ### What every operation does -/

/-- What every operation but those of the hosting application does: it keeps the account of the peers,
and what it adds to the traffic it adds to the messages. None of it is a line of the hosting
application. -/
structure Serves (b b' : Broker) : Prop where
  consistent : b.Consistent → b'.Consistent
  author : b'.author = b.author
  localLines : b'.localLines = b.localLines
  grows : ∃ entries, b'.traffic = b.traffic ++ entries ∧ Fills (Traffic.messages entries) b b' ∧
    linesFrom entries none = []
  granted : b.Granted → b'.Granted

theorem Serves.refl (b : Broker) : Serves b b where
  consistent h := h
  author := rfl
  localLines := rfl
  grows := ⟨[], (List.append_nil _).symm, Fills.refl b, rfl⟩
  granted h := h

theorem Serves.trans (h : Serves b b') (h' : Serves b' b'') : Serves b b'' where
  consistent hb := h'.consistent (h.consistent hb)
  author := h'.author.trans h.author
  localLines := h'.localLines.trans h.localLines
  grows := by
    obtain ⟨entries, htraffic, hmessages, hlines⟩ := h.grows
    obtain ⟨more, htraffic', hmessages', hlines'⟩ := h'.grows
    refine ⟨entries ++ more, ?_, ?_, ?_⟩
    · rw [htraffic', htraffic, List.append_assoc]
    · rw [messages_append]
      exact hmessages.trans hmessages'
    · rw [linesFrom_append, hlines, hlines', List.append_nil]
  granted hb := h'.granted (h.granted hb)

/-- Peers that are the same, and traffic that is the same, are accounted for as before. -/
theorem Consistent.congr (h : b.Consistent) (hconnections : b.connections ≤ b'.connections)
    (htraffic : b'.traffic = b.traffic) (hpeers : ∀ id, b'.peers.get? id = b.peers.get? id) :
    b'.Consistent where
  fresh connection hle := by
    rw [htraffic]
    exact h.fresh connection (Nat.le_trans hconnections hle)
  named := by
    rw [htraffic]
    exact h.named
  distinct id id' p p' hp hp' := h.distinct id id' p p' (hpeers id ▸ hp) (hpeers id' ▸ hp')
  accords id p hp := by
    rw [htraffic]
    exact h.accords id p (hpeers id ▸ hp)

/-- An operation that touches neither peers nor traffic nor messages. -/
theorem serves_of_eq (hpeers : ∀ id, b'.peers.get? id = b.peers.get? id)
    (htraffic : b'.traffic = b.traffic) (hconnections : b.connections ≤ b'.connections)
    (hauthor : b'.author = b.author) (hlocal : b'.localLines = b.localLines)
    (hsupply : b'.supply = b.supply) (hmessages : Fills [] b b') : Serves b b' where
  consistent h := h.congr hconnections htraffic hpeers
  author := hauthor
  localLines := hlocal
  grows := ⟨[], by rw [htraffic, List.append_nil], hmessages, rfl⟩
  granted h := ⟨hmessages.granted h.messages, hlocal ▸ h.localLines, hsupply ▸ h.supply,
    fun id p hp => h.peers id p (hpeers id ▸ hp)⟩

theorem serves_note (b : Broker) {entry : Entry} (h : ¬entry.isTraffic)
    (hintake : entry.intake? = none) : Serves b (b.note entry) :=
  serves_of_eq (fun _ => rfl) (traffic_note_of_not h) (Nat.le_refl _) rfl rfl rfl
    (keeps_note b hintake).fills

theorem serves_close (b : Broker) (id : PeerId) : Serves b (b.close id) where
  consistent h := h.advance ((Advances.refl b).close id)
  author := (keeps_close b id).author
  localLines := (keeps_close b id).localLines
  grows := ⟨[], by simp, (keeps_close b id).fills, rfl⟩
  granted h := h.close id

/-- Serving a peer is such an operation if the entries account for that peer, or if it is dropped. -/
theorem Served.serves (h : Served id p p' entries b b') (hp : b.peers.get? id = some p)
    (hspeak : SpeakOf p entries) (hhost : linesFrom entries none = [])
    (hgranted : p.Granted → p'.Granted)
    (hend : b'' = b' ∧ p.Advances entries p' ∨ b'' = b'.close id) : Serves b b'' := by
  rcases hend with ⟨rfl, hown⟩ | rfl
  · exact {
      consistent := fun hb => hb.advance (h.advances hb hp hspeak hown)
      author := h.author
      localLines := h.localLines
      grows := ⟨entries, h.traffic, h.messages, hhost⟩
      granted := fun hb => h.granted hb (hgranted (hb.peers id p hp)) }
  · have hkeeps := keeps_close b' id
    exact {
      consistent := fun hb => hb.advance (h.advances_close hb hp hspeak)
      author := hkeeps.author.trans h.author
      localLines := hkeeps.localLines.trans h.localLines
      grows := ⟨entries, (traffic_close b' id).trans h.traffic, h.messages.keeps hkeeps, hhost⟩
      granted := fun hb => (h.granted hb (hgranted (hb.peers id p hp))).close id }

/-! ### Single operations -/

/-- What a pass of reading makes speaks of the peer that is read from. -/
theorem speakOf_received (p : Peer) (bytes : List UInt8) (frames : List (List UInt8)) :
    SpeakOf p (.received p.connection bytes :: Entry.ofFrames p.connection p.name frames) where
  silent connection hne :=
    silent_cons_iff.2 ⟨fun heq => hne (Option.some.inj heq).symm, silent_ofFrames p.name frames hne⟩
  lines := by
    show linesFrom (Entry.ofFrames p.connection p.name frames) (some p.connection) =
      Line.ofFrames p.connection p.name
        (Traffic.frames p.connection (Entry.ofFrames p.connection p.name frames))
    rw [linesFrom_ofFrames, frames_ofFrames]

theorem linesFrom_none_received (p : Peer) (bytes : List UInt8) (frames : List (List UInt8)) :
    linesFrom (.received p.connection bytes :: Entry.ofFrames p.connection p.name frames) none =
      [] := by
  show (lines (Entry.ofFrames p.connection p.name frames)).filter _ = []
  rw [lines_ofFrames, List.filter_eq_nil_iff]
  intro line hline
  simp [sender_of_mem_ofFrames p.name frames hline]

/-- A pass of reading that does not fail accounts for what it makes of the peer. -/
theorem advances_received (p : Peer) {bytes : List UInt8} {tail : ByteQueue}
    (htail : tail.unconsumed = (Frame.split (p.inbound.unconsumed ++ bytes)).2) :
    p.Advances (.received p.connection bytes ::
        Entry.ofFrames p.connection p.name (Frame.split (p.inbound.unconsumed ++ bytes)).1)
      { p with
        inbound := tail
        name := p.name.or (nameIn (Frame.split (p.inbound.unconsumed ++ bytes)).1) } where
  connection := rfl
  name := by
    show _ = p.name.or (nameIn (Traffic.frames p.connection (Entry.ofFrames ..)))
    rw [frames_ofFrames]
  inbound _ := by
    rw [received_cons, received_ofFrames, List.append_nil]
    show _ = (Traffic.frames p.connection (Entry.ofFrames ..), tail.unconsumed)
    rw [frames_ofFrames, htail]
  outbound := by
    show written p.connection (Entry.ofFrames ..) ++ _ =
      _ ++ (linesFor p.connection (Entry.ofFrames ..)).flatMap Line.wire
    rw [written_ofFrames, linesFor_ofFrames]
    exact (List.append_nil _).symm

theorem serves_serveReadable (b : Broker) (id : PeerId) (reads : List ReadEvent) :
    Serves b (b.serveReadable id reads).1 := by
  cases hp : b.peers.get? id with
  | none =>
    rw [serveReadable_of_none hp]
    exact Serves.refl b
  | some p =>
    cases hend : (p.inbound.receive reads).outcome with
    | ok status =>
      obtain ⟨served, tail, htail, hgranted, hserved, heq⟩ := serveReadable_ok hp hend
      refine hserved.serves hp (speakOf_received p _ _) (linesFrom_none_received p _ _)
        (fun h => ⟨hgranted h.inbound, h.outbound⟩) ?_
      rw [heq]
      split
      · exact Or.inr rfl
      · exact Or.inl ⟨rfl, advances_received p htail⟩
    | error cause =>
      -- the peer is dropped with complete frames unhandled, so it need not be accounted for
      obtain ⟨served, inbound, -, hgranted, hserved, heq⟩ := serveReadable_error hp hend
      have hnone : Entry.ofFrames p.connection p.name [] = [] := by cases p.name <;> rfl
      have hspeak := speakOf_received p (p.inbound.receive reads).received []
      rw [hnone] at hspeak
      exact hserved.serves hp hspeak rfl (fun h => ⟨hgranted h.inbound, h.outbound⟩) (Or.inr heq)

/-- What was written accounts for what no longer waits. -/
theorem Sends.advances {bytes : List UInt8} (h : Sends bytes p p') :
    p.Advances [.wrote p.connection bytes] p' where
  connection := h.connection
  name := h.name.trans Option.or_none.symm
  inbound htail := by
    rw [h.inbound]
    exact (congrArg Frame.split (List.append_nil _)).trans (Frame.split_of_not_mem htail)
  outbound := by
    show (if p.connection = p.connection then bytes else []) ++ [] ++ _ =
      p.outbound.unconsumed ++ []
    rw [if_pos rfl, List.append_nil, h.outbound, List.append_nil]

theorem serves_serveWritable (b : Broker) (id : PeerId) (writes : List WriteEvent) :
    Serves b (b.serveWritable id writes) := by
  cases hp : b.peers.get? id with
  | none =>
    rw [serveWritable_of_none hp]
    exact Serves.refl b
  | some p =>
    obtain ⟨served, p', hsends, hserved, heq⟩ := serveWritable_cases hp writes
    have hspeak : SpeakOf p [.wrote p.connection (p.outbound.send writes).written] :=
      { silent := fun connection hne => silent_singleton_iff.2 fun heq =>
          hne (Option.some.inj heq).symm
        lines := (Line.ofFrames_nil p.connection p.name).symm }
    refine hserved.serves hp hspeak rfl
      (fun h => ⟨hsends.inbound ▸ h.inbound, hsends.memory ▸ h.outbound⟩) ?_
    rcases heq with heq | heq
    · exact Or.inl ⟨heq, hsends.advances⟩
    · exact Or.inr heq

/-- A connection is taken in as a new peer, or closed at once. Either way its number is used up. -/
theorem accept_cases (b : Broker) :
    (∃ multiplexer peers entry, b.accept =
        note { b with multiplexer, peers, connections := b.connections + 1 } entry ∧
        ¬entry.isTraffic ∧ entry.intake? = none ∧ ∀ other, peers.get? other = b.peers.get? other) ∨
      ∃ multiplexer peers id armed, b.accept =
        note { b with multiplexer, peers, connections := b.connections + 1 }
          (.accepted b.connections id.slot) ∧ b.peers.get? id = none ∧ ∀ other, peers.get? other =
            if other = id then some { Peer.ofConnection b.connections (b.supply b.connections) with armed }
            else b.peers.get? other := by
  unfold accept
  simp only
  split
  · exact Or.inl ⟨b.multiplexer, b.peers, _, rfl, by simp [Entry.isTraffic], rfl, fun _ => rfl⟩
  next id peers hinsert =>
  obtain ⟨hnone, hget⟩ := PeerTable.get?_of_insert? hinsert
  split
  · next peer multiplexer hregister =>
    obtain rfl : _ = peer := congrArg Prod.fst hregister
    refine Or.inr ⟨multiplexer, _, id,
      (Peer.ofConnection b.connections (b.supply b.connections)).interest, rfl, hnone,
      fun other => ?_⟩
    rw [PeerTable.get?_modify, hget]
    by_cases hother : other = id
    · simp only [if_pos hother, Option.map_some]
      rfl
    · simp only [if_neg hother]
  · next multiplexer cause hregister =>
    refine Or.inl ⟨multiplexer, _, _, rfl, by simp [Entry.isTraffic], rfl, fun other => ?_⟩
    -- the peer is in the table again at once, and leaves it as it came
    split
    · next hremove =>
      rw [PeerTable.get?_of_remove? hremove, hget]
      split
      · next hother => rw [hother, hnone]
      · rfl
    · next hremove =>
      rw [PeerTable.remove?_eq_none_iff, hget, if_pos rfl] at hremove
      cases hremove

/-- A new peer has sent and got nothing, and nothing was said of it before. -/
theorem accords_accepted (h : b.Consistent) (slot : Nat) (supply : Peer.Supply) (armed : Interest) :
    Peer.Accords (b.traffic ++ [.accepted b.connections slot])
      { Peer.ofConnection b.connections supply with armed } := by
  have hsilent := h.fresh b.connections (Nat.le_refl _)
  have hnot : ∀ entry ∈ b.traffic, ¬entry.accepts b.connections := by
    intro entry hmem haccepts
    refine hsilent entry hmem ?_
    cases entry with
    | accepted connection slot => exact congrArg some (beq_iff_eq.1 haccepts)
    | _ => cases haccepts
  constructor
  · exact ⟨_, List.mem_append_right _ List.mem_cons_self, beq_self_eq_true _⟩
  · show none = nameIn (frames b.connections (b.traffic ++ _))
    rw [frames_append, frames_eq_nil hsilent]
    rfl
  · show Frame.split (received b.connections (b.traffic ++ _)) =
      (frames b.connections (b.traffic ++ _), [])
    rw [received_append, received_eq_nil hsilent, frames_append, frames_eq_nil hsilent]
    rfl
  · show written b.connections (b.traffic ++ _) ++ [] =
      wiresFor b.connections (since b.connections _)
    rw [written_append, written_eq_nil hsilent, since_accepted hnot]
    rfl

/-- A new peer with the next connection joins the account. -/
theorem Consistent.accept (h : b.Consistent) {slot : Nat} {supply : Peer.Supply} {armed : Interest}
    (htraffic : b'.traffic = b.traffic ++ [.accepted b.connections slot])
    (hconnections : b'.connections = b.connections + 1)
    (hget : ∀ other, b'.peers.get? other =
      if other = id then some { Peer.ofConnection b.connections supply with armed }
      else b.peers.get? other) :
    b'.Consistent := by
  have hold : ∀ other ≠ id, ∀ q, b'.peers.get? other = some q →
      b.peers.get? other = some q ∧ q.connection < b.connections := by
    intro other hne q hq
    rw [hget, if_neg hne] at hq
    exact ⟨hq, h.lt hq⟩
  have hnew : ∀ q, b'.peers.get? id = some q →
      q = { Peer.ofConnection b.connections supply with armed } := by
    intro q hq
    rw [hget, if_pos rfl] at hq
    exact (Option.some.inj hq).symm
  constructor
  case fresh =>
    intro connection hle
    rw [hconnections] at hle
    rw [htraffic]
    intro entry hmem hentry
    rcases List.mem_append.1 hmem with hmem | hmem
    · exact h.fresh connection (Nat.le_of_succ_le hle) entry hmem hentry
    · rw [List.mem_singleton.1 hmem] at hentry
      exact absurd (Option.some.inj hentry) (Nat.ne_of_lt hle)
  case named =>
    intro connection
    rw [htraffic, linesFrom_append, frames_append]
    show linesFrom b.traffic _ ++ [] =
      Line.ofFrames connection none (frames connection b.traffic ++ [])
    rw [List.append_nil, List.append_nil, h.named]
  case distinct =>
    intro i j p q hp hq heq
    by_cases hi : i = id <;> by_cases hj : j = id
    · rw [hi, hj]
    · subst hi
      rw [hnew p hp] at heq
      exact absurd heq.symm (Nat.ne_of_lt (hold j hj q hq).2)
    · subst hj
      rw [hnew q hq] at heq
      exact absurd heq (Nat.ne_of_lt (hold i hi p hp).2)
    · exact h.distinct i j p q (hold i hi p hp).1 (hold j hj q hq).1 heq
  case accords =>
    intro other q hq
    rw [htraffic]
    -- the new peer is accounted for from scratch, the others by an entry that is not about them
    by_cases hother : other = id
    · subst hother
      rw [hnew q hq]
      exact accords_accepted h slot supply armed
    · obtain ⟨hbefore, hlt⟩ := hold other hother q hq
      have hgains : q.Gains (wires [.accepted b.connections slot]) q := Peer.Gains.refl q
      refine (h.accords other q hbefore).advance (hgains.advances ?_)
      rw [silent_singleton_iff]
      exact fun heq => Nat.ne_of_gt hlt (Option.some.inj heq)

theorem serves_accept (b : Broker) : Serves b b.accept := by
  rcases accept_cases b with
    ⟨multiplexer, peers, entry, heq, hentry, hintake, hget⟩ |
      ⟨multiplexer, peers, id, armed, heq, hnone, hget⟩
  · rw [heq]
    exact serves_of_eq hget (traffic_note_of_not hentry) (Nat.le_succ _) rfl rfl rfl
      (fills_of_eq rfl ((intake_note _ entry).trans (by rw [hintake]; exact List.append_nil _)))
  rw [heq]
  have htraffic : (note { b with multiplexer, peers, connections := b.connections + 1 }
      (.accepted b.connections id.slot)).traffic = b.traffic ++ [.accepted b.connections id.slot] :=
    traffic_note rfl
  exact {
    consistent := fun hb => hb.accept htraffic rfl hget
    author := rfl
    localLines := rfl
    grows := ⟨_, htraffic, fills_of_eq rfl ((intake_note ..).trans (List.append_nil _)), rfl⟩
    granted := fun hb => ⟨hb.messages, hb.localLines, hb.supply, fun other q hq => by
      rw [peers_note, hget] at hq
      split at hq
      · cases hq
        exact ⟨(hb.supply b.connections).inbound, (hb.supply b.connections).outbound⟩
      · exact hb.peers other q hq⟩ }

/-! ### Cycles -/

theorem serves_acceptAll (b : Broker) (attempts : List AcceptEvent) :
    Serves b (b.acceptAll attempts).1 := by
  fun_induction acceptAll b attempts with
  | case1 b => exact Serves.refl b
  | case2 b rest ih => exact (serves_accept b).trans ih
  | case3 b cause rest h => exact Serves.refl b
  | case4 b cause rest h ih => exact ih
  | case5 b cause rest h ih => exact ih
  | case6 b cause rest =>
    have hentry : ¬(Entry.acceptFailed cause).isTraffic := by simp [Entry.isTraffic]
    have hpending : Serves b { b with acceptPending := true } :=
      serves_of_eq (fun _ => rfl) rfl (Nat.le_refl _) rfl rfl rfl (fills_of_eq rfl rfl)
    exact hpending.trans (serves_note _ hentry rfl)

theorem serves_serve (accepts : List AcceptEvent) (b : Broker) (ready : Readiness) :
    Serves b (serve accepts b ready).1 := by
  unfold serve
  split
  · exact serves_acceptAll b accepts
  split
  · exact Serves.refl b
  next id _ =>
  have hread : Serves b (if ready.readable then b.serveReadable id ready.traffic.reads
      else (b, .ok ())).1 := by
    split
    · exact serves_serveReadable b id _
    · exact Serves.refl b
  have hwrite (b : Broker) :
      Serves b (if ready.writable then b.serveWritable id ready.traffic.writes else b) := by
    split
    · exact serves_serveWritable b id _
    · exact Serves.refl b
  exact hread.trans (hwrite _)

theorem serves_serveAll (accepts : List AcceptEvent) (b : Broker) (batch : List Readiness) :
    Serves b (serveAll accepts b batch).1 := by
  refine List.foldlRecOn (motive := fun (progress : Broker × Except RelayError Unit) =>
    Serves b progress.1) batch _ (Serves.refl b) ?_
  intro progress h ready _
  exact h.trans (serves_serve accepts progress.1 ready)

/-- A whole cycle does only what its single operations do, whatever the wait reports. -/
theorem serves_update (b : Broker) (timeout : Option Nat) (poll : Option Nat → PollOutcome) :
    Serves b (b.update timeout poll).1 := by
  unfold update
  split
  · simp only
    split
    · exact Serves.refl b
    · next ready accepts _ =>
      have hclear : Serves b { b with acceptPending := false } :=
        serves_of_eq (fun _ => rfl) rfl (Nat.le_refl _) rfl rfl rfl (fills_of_eq rfl rfl)
      split
      · exact hclear
      · exact hclear.trans (serves_serveAll accepts _ _)
  · exact Serves.refl b

theorem serves_listen (b : Broker) (port : Nat) (setup : Except ListenFault Unit) :
    Serves b (b.listen port setup).1 := by
  unfold listen
  split
  · exact Serves.refl b
  split
  · exact Serves.refl b
  split
  · exact serves_of_eq (fun _ => rfl) rfl (Nat.le_refl _) rfl rfl rfl (fills_of_eq rfl rfl)
  · next multiplexer _ =>
    have hopen : Serves b { b with multiplexer, listening := true } :=
      serves_of_eq (fun _ => rfl) rfl (Nat.le_refl _) rfl rfl rfl (fills_of_eq rfl rfl)
    exact hopen.trans (serves_note _ (by simp [Entry.isTraffic]) rfl)

/-! ### The hosting application -/

/-- A line of the hosting application speaks of no peer. -/
theorem silent_relayed_none (connection : Nat) (author : String) (body : List UInt8) :
    Silent connection [.relayed none author body] := by
  rw [silent_singleton_iff]
  rintro ⟨⟩

/-- A line of the hosting application advances every peer. -/
theorem advances_relay_none (b : Broker) (author : String) (body : List UInt8) :
    Advances [.relayed none author body] b (b.relay none author body) where
  connections := (keeps_relay b none author body).connections
  traffic := traffic_relay b none author body
  speakers connection := Or.inl (silent_relayed_none connection author body)
  peers := by
    intro id p' hp'
    obtain ⟨p, hp, -, hgains⟩ := survivor_relay hp' (fun h => nomatch h)
    have hwires : wires [.relayed none author body] = Frame.relayed (Text.utf8 author) body :=
      List.append_nil _
    rw [← hwires] at hgains
    exact ⟨p, hp, hgains.advances (silent_relayed_none p.connection author body)⟩

/-- What some lines of the hosting application come to. -/
theorem foldl_relay_none (b : Broker) (bodies : List (List UInt8)) :
    let b' := bodies.foldl (fun b body => b.relay none b.author body) b
    (b.Consistent → b'.Consistent) ∧ Keeps b b' ∧
      b'.traffic = b.traffic ++ bodies.map fun body => .relayed none b.author body := by
  induction bodies generalizing b with
  | nil => exact ⟨id, Keeps.refl b, (List.append_nil _).symm⟩
  | cons body rest ih =>
    obtain ⟨hconsistent, hkeeps, htraffic⟩ := ih (b.relay none b.author body)
    have hfirst := keeps_relay b none b.author body
    refine ⟨fun hb => hconsistent (hb.advance (advances_relay_none b b.author body)),
      hfirst.trans hkeeps, ?_⟩
    rw [List.foldl_cons, htraffic, traffic_relay, hfirst.author, List.append_assoc]
    rfl

/-- **What feeding comes to**: every line that the text completes goes out, and the last one waits; or there
is no memory for the text, and nothing changes. -/
theorem feed_cases (b : Broker) (text : List UInt8) :
    ((b.feed text).2 = .ok () ∧
      ∃ tail, tail.unconsumed = (Frame.split (Frame.ofLines (b.localLines.unconsumed ++ text))).2 ∧
        (b.feed text).1 = (Frame.split (Frame.ofLines (b.localLines.unconsumed ++ text))).1.foldl
          (fun b body => b.relay none b.author body) { b with localLines := tail }) ∨
    ((∃ size, (b.feed text).2 = .error (.outOfMemory size)) ∧
      ∃ localLines, localLines.unconsumed = b.localLines.unconsumed ∧
        (b.feed text).1 = { b with localLines }) := by
  have hpush := b.localLines.tryPush_cases text
  unfold feed
  rw [ByteQueue.push] at hpush
  rcases htry : b.localLines.tryPush text with ⟨localLines, outcome⟩
  rw [htry] at hpush
  obtain ⟨rfl, hlive⟩ | ⟨-, ⟨size, rfl⟩, hlive⟩ := hpush
  · obtain ⟨hlines, htail⟩ := localLines.terminateLines.takeFrames_eq
    rw [ByteQueue.unconsumed_terminateLines, hlive] at hlines htail
    refine Or.inl ⟨rfl, _, htail, ?_⟩
    rw [← hlines]
  · exact Or.inr ⟨⟨size, rfl⟩, localLines, hlive, rfl⟩

/-- Text is fed whenever there is memory for it. -/
theorem feed_of_ample (h : b.localLines.memory.Ample) (text : List UInt8) :
    (b.feed text).2 = .ok () := by
  unfold feed
  rw [(ByteQueue.tryPush_of_ample h text).1]

/-- Feeding keeps the account of the peers. -/
theorem consistent_feed (h : b.Consistent) (text : List UInt8) : (b.feed text).1.Consistent := by
  obtain ⟨-, tail, -, heq⟩ | ⟨-, localLines, -, heq⟩ := feed_cases b text
  · rw [heq]
    refine (foldl_relay_none { b with localLines := tail } _).1 ?_
    exact h.congr (Nat.le_refl _) rfl fun _ => rfl
  · rw [heq]
    exact h.congr (Nat.le_refl _) rfl fun _ => rfl

/-- **What the hosting application has fed goes out under the broker's author**, one line for each that is
completed. -/
theorem traffic_feed {text : List UInt8} (hok : (b.feed text).2 = .ok ()) :
    (b.feed text).1.traffic = b.traffic ++
      (Frame.split (Frame.ofLines (b.localLines.unconsumed ++ text))).1.map fun body =>
        .relayed none b.author body := by
  obtain ⟨-, tail, -, heq⟩ | ⟨⟨_, hfailed⟩, -⟩ := feed_cases b text
  · rw [heq]
    exact (foldl_relay_none { b with localLines := tail } _).2.2
  · cases hfailed.symm.trans hok

theorem localLines_feed {text : List UInt8} (hok : (b.feed text).2 = .ok ()) :
    (b.feed text).1.localLines.unconsumed =
      (Frame.split (Frame.ofLines (b.localLines.unconsumed ++ text))).2 := by
  obtain ⟨-, tail, htail, heq⟩ | ⟨⟨_, hfailed⟩, -⟩ := feed_cases b text
  · rw [heq, (foldl_relay_none { b with localLines := tail } _).2.1.localLines]
    exact htail
  · cases hfailed.symm.trans hok

/-- Text for which there is no memory changes nothing. -/
theorem feed_of_error {text : List UInt8} {cause : RelayError} (h : (b.feed text).2 = .error cause) :
    ∃ localLines, localLines.unconsumed = b.localLines.unconsumed ∧
      (b.feed text).1 = { b with localLines } := by
  obtain ⟨hok, -⟩ | ⟨-, hsame⟩ := feed_cases b text
  · cases hok.symm.trans h
  · exact hsame

/-- A line of the hosting application takes the memory that is granted. -/
theorem Granted.relay_none (h : b.Granted) (author : String) (body : List UInt8) :
    (b.relay none author body).Granted := by
  have hkeeps := keeps_relay b none author body
  refine ⟨hkeeps.messages ▸ h.messages, hkeeps.localLines ▸ h.localLines, hkeeps.supply ▸ h.supply,
    fun id p' hp' => ?_⟩
  obtain ⟨p, hp, -, hgains⟩ := survivor_relay hp' (fun h => nomatch h)
  exact hgains.all_granted (h.peers id p hp)

theorem Granted.feed (h : b.Granted) (text : List UInt8) : (b.feed text).1.Granted := by
  obtain ⟨hpush, hample⟩ := ByteQueue.tryPush_of_ample h.localLines text
  unfold Broker.feed
  rw [hpush]
  refine List.foldlRecOn (motive := Granted) _ _ ⟨h.messages, ?_, h.supply, h.peers⟩
    fun b hb body _ => hb.relay_none b.author body
  show (b.localLines.push text).terminateLines.takeFrames.2.memory.Ample
  rw [ByteQueue.memory_takeFrames]
  exact hample

/-- Feeding leaves the author and the messages alone. -/
theorem author_feed (b : Broker) (text : List UInt8) :
    (b.feed text).1.author = b.author ∧ (b.feed text).1.messages = b.messages ∧
      (b.feed text).1.intake = b.intake := by
  obtain ⟨-, tail, -, heq⟩ | ⟨-, localLines, -, heq⟩ := feed_cases b text
  · rw [heq]
    have hkeeps := (foldl_relay_none { b with localLines := tail }
      (Frame.split (Frame.ofLines (b.localLines.unconsumed ++ text))).1).2.1
    exact ⟨hkeeps.author, hkeeps.messages, hkeeps.intake⟩
  · rw [heq]
    exact ⟨rfl, rfl, rfl⟩

end ChatRelay.Broker
