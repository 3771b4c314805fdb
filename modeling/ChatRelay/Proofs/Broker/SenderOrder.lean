import ChatRelay.Proofs.Broker.Isolation

/-!
# The order of two senders

Two peers that can be read from are served one after the other. Which of them comes first shows only in
the order in which the lines of the one and of the other go out: to the rest, and to the hosting
application. This holds as long as the multiplexer refuses nobody and memory is granted.

- `Broker.Unrefused`: between two brokers no change of interest was refused.
- `Isolated.stays`: then nobody but the peer that is served can leave.
- `Broker.BothRead`: what has become of everybody once two peers have been read from (`bothRead`).
- `Session.either_sender_first`: the two orders, compared.
-/

namespace ChatRelay

/-- What is read from a peer, and what is made of it, does not depend on its output. -/
theorem Peer.Gains.reads {bytes : List UInt8} {p p' : Peer} (h : p.Gains bytes p') :
    p'.input = p.input ∧
      ∀ reads, p'.linesOf reads = p.linesOf reads ∧ p'.inputAfter reads = p.inputAfter reads := by
  refine ⟨?_, fun reads => ⟨?_, ?_⟩⟩
  · rw [input, input, h.connection, h.name, h.inbound]
  · rw [linesOf, linesOf, h.connection, h.name, h.inbound]
  · rw [inputAfter, inputAfter, h.connection, h.name, h.inbound]

namespace Broker

variable {b b' b'' : Broker} {id other : PeerId} {p q : Peer} {sender : Option PeerId}
  {asked : List PeerId} {lines : List Line}

/-! ### Without a refusal -/

/-- The answers of the multiplexer that were used up between two brokers. -/
def answersUsed (b b' : Broker) : List (Option IoError) :=
  b.multiplexer.rearmVerdicts.take
    (b.multiplexer.rearmVerdicts.length - b'.multiplexer.rearmVerdicts.length)

/-- Between two brokers no change of interest was refused. -/
def Unrefused (b b' : Broker) : Prop := ∀ answer ∈ answersUsed b b', answer = none

/-- As many answers were used as there were questions, or all of them. -/
theorem answersUsed_of_drop {n : Nat}
    (h : b'.multiplexer.rearmVerdicts = b.multiplexer.rearmVerdicts.drop n) :
    answersUsed b b' = b.multiplexer.rearmVerdicts.take n := by
  rw [answersUsed, h, List.length_drop, List.take_eq_take_iff]
  omega

/-- If nobody was refused, nobody was refused on the way. -/
theorem Unrefused.split {n m : Nat} (h : Unrefused b b'')
    (hfirst : b'.multiplexer.rearmVerdicts = b.multiplexer.rearmVerdicts.drop n)
    (hsecond : b''.multiplexer.rearmVerdicts = b'.multiplexer.rearmVerdicts.drop m) :
    Unrefused b b' ∧ Unrefused b' b'' := by
  have hboth : b''.multiplexer.rearmVerdicts = b.multiplexer.rearmVerdicts.drop (n + m) := by
    rw [hsecond, hfirst, List.drop_drop]
  unfold Unrefused at h ⊢
  rw [answersUsed_of_drop hboth, List.take_add] at h
  rw [answersUsed_of_drop hfirst, answersUsed_of_drop hsecond, hfirst]
  exact ⟨fun answer hmem => h answer (List.mem_append_left _ hmem),
    fun answer hmem => h answer (List.mem_append_right _ hmem)⟩

/-- Of those that were asked about, none was refused. -/
theorem Asks.unrefused (h : Asks sender lines asked b b') (hunrefused : Unrefused b b') :
    refusedAmong asked b.multiplexer.rearmVerdicts = [] := by
  unfold Unrefused at hunrefused
  rw [answersUsed_of_drop h.verdicts] at hunrefused
  exact refusedAmong_eq_nil hunrefused

/-- Reading uses up the first of the answers, if any. -/
theorem drop_serveReadable (h : Watched [] [] b) (id : PeerId) (reads : List ReadEvent) :
    ∃ n, (b.serveReadable id reads).1.multiplexer.rearmVerdicts =
      b.multiplexer.rearmVerdicts.drop n := by
  cases hp : b.peers.get? id with
  | none =>
    rw [serveReadable_of_none hp]
    exact ⟨0, rfl⟩
  | some p => exact ⟨_, (asks_serveReadable h hp reads).verdicts⟩

/-- So everybody else stays, with the lines. -/
theorem Isolated.stays (h : Isolated id lines b b') (hgranted : b.Granted)
    (hnobody : b.refusedFor (some id) lines = []) (hne : other ≠ id) :
    (b'.peers.get? other).map Peer.input = (b.peers.get? other).map Peer.input ∧
      ∀ q, b.peers.get? other = some q → ∃ q', b'.peers.get? other = some q' ∧
        q.Gains (lines.flatMap Line.wire) q' := by
  cases hq : b.peers.get? other with
  | none =>
    have hgone : b'.peers.get? other = none := by
      refine Option.eq_none_iff_forall_ne_some.2 fun q' hq' => ?_
      obtain ⟨hlive, -⟩ := (h.live other hne).1 (PeerTable.contains_iff.2 ⟨q', hq'⟩)
      obtain ⟨q, hq₀⟩ := PeerTable.contains_iff.1 hlive
      cases hq.symm.trans hq₀
    rw [hgone]
    exact ⟨rfl, nofun⟩
  | some q =>
    have hlive := h.granted other hne q hq (hgranted.peers other q hq).outbound
    rw [hnobody] at hlive
    obtain ⟨q', hq'⟩ := PeerTable.contains_iff.1 (hlive.2 List.not_mem_nil)
    have hgains := h.others other hne q q' hq hq'
    rw [hq', Option.map_some, Option.map_some, hgains.reads.1]
    refine ⟨rfl, ?_⟩
    rintro q ⟨⟩
    exact ⟨q', rfl, hgains⟩

/-! ### Two senders -/

/-- Two peers have been read from, the one with the identity `first` before the other. Each was read as
if it were alone, and has got the lines of the other if it lives on. Everybody else has got the lines of
both, in that order. -/
structure BothRead (b : Broker) (first : PeerId) (p : Peer) (reads : List ReadEvent)
    (second : PeerId) (q : Peer) (reads' : List ReadEvent) (b' : Broker) : Prop where
  ofFirst : (b'.peers.get? first).map Peer.input = p.inputAfter reads ∧
    ∀ p', b'.peers.get? first = some p' →
      p'.outbound.unconsumed = p.outbound.unconsumed ++ (q.linesOf reads').flatMap Line.wire
  ofSecond : (b'.peers.get? second).map Peer.input = q.inputAfter reads' ∧
    ∀ q', b'.peers.get? second = some q' →
      q'.outbound.unconsumed = q.outbound.unconsumed ++ (p.linesOf reads).flatMap Line.wire
  ofOthers : ∀ other ≠ first, other ≠ second →
    (b'.peers.get? other).map Peer.input = (b.peers.get? other).map Peer.input ∧
      ∀ r, b.peers.get? other = some r → ∃ r', b'.peers.get? other = some r' ∧
        r'.outbound.unconsumed = r.outbound.unconsumed ++ (p.linesOf reads).flatMap Line.wire ++
          (q.linesOf reads').flatMap Line.wire
  messages : b'.messages.toList = b.messages.toList ++ (p.linesOf reads).filterMap Line.message? ++
    (q.linesOf reads').filterMap Line.message?

theorem bothRead (h : Watched [] [] b) (hgranted : b.Granted) {first second : PeerId}
    (hne : second ≠ first) (hp : b.peers.get? first = some p) (hq : b.peers.get? second = some q)
    (reads reads' : List ReadEvent)
    (hunrefused : Unrefused b ((b.serveReadable first reads).1.serveReadable second reads').1) :
    BothRead b first p reads second q reads'
      ((b.serveReadable first reads).1.serveReadable second reads').1 := by
  let b₁ := (b.serveReadable first reads).1
  let b₂ := (b₁.serveReadable second reads').1
  have h₁ : Watched [] [] b₁ := h.serveReadable first reads
  have hgranted₁ : b₁.Granted := (serves_serveReadable b first reads).granted hgranted
  have hasks := asks_serveReadable h hp reads
  obtain ⟨n, hdrop⟩ := drop_serveReadable h₁ second reads'
  obtain ⟨hunrefused₁, hunrefused₂⟩ := hunrefused.split hasks.verdicts hdrop
  -- nobody is refused by the lines of the first, so the second is there, and is read as it would be alone
  have hfirst : Isolated first (p.linesOf reads) b b₁ := isolated_serveReadable h hp reads
  have hstays {other : PeerId} (hother : other ≠ first) :=
    hfirst.stays hgranted (hasks.unrefused hunrefused₁) hother
  obtain ⟨q₁, hq₁, hgains⟩ := (hstays hne).2 q hq
  obtain ⟨hlines, hinput⟩ := hgains.reads.2 reads'
  have hsecond : Isolated second (q.linesOf reads') b₁ b₂ :=
    hlines ▸ isolated_serveReadable h₁ hq₁ reads'
  have hnobody : b₁.refusedFor (some second) (q.linesOf reads') = [] :=
    hlines ▸ (asks_serveReadable h₁ hq₁ reads').unrefused hunrefused₂
  have hstays₂ {other : PeerId} (hother : other ≠ second) :=
    hsecond.stays hgranted₁ hnobody hother
  have hown := own_serveReadable hp reads
  have hown₂ := own_serveReadable hq₁ reads'
  constructor
  case ofFirst =>
    obtain ⟨hsame, hlater⟩ := hstays₂ hne.symm
    refine ⟨hsame.trans hown.1, fun p' hp' => ?_⟩
    cases hp₁ : b₁.peers.get? first with
    | none =>
      rw [hp₁] at hsame
      cases (Option.map_eq_none_iff.1 hsame).symm.trans hp'
    | some p₁ =>
      obtain ⟨p₂, hp₂, hgains₂⟩ := hlater p₁ hp₁
      cases hp₂.symm.trans hp'
      rw [hgains₂.outbound, hown.2 p₁ hp₁]
  case ofSecond =>
    refine ⟨hown₂.1.trans hinput, fun q' hq' => ?_⟩
    rw [hown₂.2 q' hq', hgains.outbound]
  case ofOthers =>
    intro other hother hother₂
    refine ⟨(hstays₂ hother₂).1.trans (hstays hother).1, fun r hr => ?_⟩
    obtain ⟨r₁, hr₁, hgains₁⟩ := (hstays hother).2 r hr
    obtain ⟨r₂, hr₂, hgains₂⟩ := (hstays₂ hother₂).2 r₁ hr₁
    exact ⟨r₂, hr₂, by rw [hgains₂.outbound, hgains₁.outbound]⟩
  case messages =>
    rw [hsecond.messages.toList hgranted₁.messages, hfirst.messages.toList hgranted.messages]

namespace Session

/-- **Which of two senders comes first shows only in the order of their lines.** In any state that is
reached, two live peers are read from, one after the other, whatever comes of it; the multiplexer refuses
nobody, and memory is granted. In either order the same peers are live afterwards, with the same names and the same unfinished
frames. What waits for the two of them is the same. For all others, and for the hosting application, the
lines of the one come before or behind those of the other. -/
theorem either_sender_first (settings : BrokerSettings) (registers rearms : List (Option IoError))
    (supply : Supply) (events : List Event) {first second : PeerId} (hne : first ≠ second) {p q : Peer}
    (hp : ((start settings { registerVerdicts := registers, rearmVerdicts := rearms } supply).run
      events).broker.peers.get? first = some p)
    (hq : ((start settings { registerVerdicts := registers, rearmVerdicts := rearms } supply).run
      events).broker.peers.get? second = some q)
    (hgranted : ((start settings { registerVerdicts := registers, rearmVerdicts := rearms } supply).run
      events).broker.Granted) (reads reads' : List ReadEvent) :
    let b := ((start settings { registerVerdicts := registers, rearmVerdicts := rearms } supply).run
      events).broker
    let b₁₂ := ((b.serveReadable first reads).1.serveReadable second reads').1
    let b₂₁ := ((b.serveReadable second reads').1.serveReadable first reads).1
    let said := (p.linesOf reads).flatMap Line.wire
    let said' := (q.linesOf reads').flatMap Line.wire
    let queued := (p.linesOf reads).filterMap Line.message?
    let queued' := (q.linesOf reads').filterMap Line.message?
    Unrefused b b₁₂ → Unrefused b b₂₁ →
      (∀ other, (b₁₂.peers.get? other).map Peer.input = (b₂₁.peers.get? other).map Peer.input) ∧
      (∀ sender, sender = first ∨ sender = second → ∀ r r', b₁₂.peers.get? sender = some r →
        b₂₁.peers.get? sender = some r' → r.outbound.unconsumed = r'.outbound.unconsumed) ∧
      (∀ third ≠ first, third ≠ second → ∀ old, b.peers.get? third = some old →
        ∃ r r', b₁₂.peers.get? third = some r ∧ b₂₁.peers.get? third = some r' ∧
          r.outbound.unconsumed = old.outbound.unconsumed ++ said ++ said' ∧
          r'.outbound.unconsumed = old.outbound.unconsumed ++ said' ++ said) ∧
      b₁₂.messages.toList = b.messages.toList ++ queued ++ queued' ∧
      b₂₁.messages.toList = b.messages.toList ++ queued' ++ queued := by
  intro b b₁₂ b₂₁ said said' queued queued' hunrefused₁₂ hunrefused₂₁
  have h : Watched [] [] b := watched_run (Watched.begin settings registers rearms supply) events
  have h₁₂ : BothRead b first p reads second q reads' b₁₂ :=
    bothRead h hgranted hne.symm hp hq reads reads' hunrefused₁₂
  have h₂₁ : BothRead b second q reads' first p reads b₂₁ :=
    bothRead h hgranted hne hq hp reads' reads hunrefused₂₁
  refine ⟨fun other => ?_, ?_, fun third hfirst hsecond old hold => ?_, h₁₂.messages, h₂₁.messages⟩
  · by_cases hfirst : other = first
    · subst hfirst
      exact h₁₂.ofFirst.1.trans h₂₁.ofSecond.1.symm
    by_cases hsecond : other = second
    · subst hsecond
      exact h₁₂.ofSecond.1.trans h₂₁.ofFirst.1.symm
    exact (h₁₂.ofOthers other hfirst hsecond).1.trans (h₂₁.ofOthers other hsecond hfirst).1.symm
  · rintro sender (rfl | rfl) r r' hr hr'
    · exact (h₁₂.ofFirst.2 r hr).trans (h₂₁.ofSecond.2 r' hr').symm
    · exact (h₁₂.ofSecond.2 r hr).trans (h₂₁.ofFirst.2 r' hr').symm
  · obtain ⟨r, hr, heq⟩ := (h₁₂.ofOthers third hfirst hsecond).2 old hold
    obtain ⟨r', hr', heq'⟩ := (h₂₁.ofOthers third hsecond hfirst).2 old hold
    exact ⟨r, r', hr, hr', heq, heq'⟩

/-- Bob says a line, and the front of one more. -/
def lineAndFront : List ReadEvent := [.data (Text.utf8 "bye\x00uh")]

/-- Ann leaves with a line while Bob goes on. The third peer gets both lines, in either order, and Bob gets
Ann's; Bob and the third peer are left. -/
theorem either_sender_first_gathering :
    let b := ((start {} { rearmVerdicts := [none, none, none] }).run gathering).broker
    let b₁₂ := ((b.serveReadable firstPeer lastWords).1.serveReadable secondPeer lineAndFront).1
    let b₂₁ := ((b.serveReadable secondPeer lineAndFront).1.serveReadable firstPeer lastWords).1
    b.Granted ∧ Unrefused b b₁₂ ∧ Unrefused b b₂₁ ∧ b₁₂.peers.ids = [secondPeer, thirdPeer] ∧
      (∀ other, (b₁₂.peers.get? other).map Peer.input = (b₂₁.peers.get? other).map Peer.input) ∧
      (b₁₂.peers.get? secondPeer).map (·.outbound.unconsumed) = some (Text.utf8 "ann\nhi\x00") ∧
      (b₁₂.peers.get? thirdPeer).map (·.outbound.unconsumed) =
        some (Text.utf8 "bob\nhello\x00ann\nhi\x00bob\nbye\x00") ∧
      (b₂₁.peers.get? thirdPeer).map (·.outbound.unconsumed) =
        some (Text.utf8 "bob\nhello\x00bob\nbye\x00ann\nhi\x00") ∧
      b₁₂.messages.toList = [⟨"bob", "hello"⟩, ⟨"ann", "hi"⟩, ⟨"bob", "bye"⟩] ∧
      b₂₁.messages.toList = [⟨"bob", "hello"⟩, ⟨"bob", "bye"⟩, ⟨"ann", "hi"⟩] := by
  intro b b₁₂ b₂₁
  have hgranted : b.Granted := granted_run Supply.ample_default _ _ gathering
  have hlive : (b.peers.get? firstPeer).isSome ∧ (b.peers.get? secondPeer).isSome := by decide +kernel
  obtain ⟨p, hp⟩ := Option.isSome_iff_exists.1 hlive.1
  obtain ⟨q, hq⟩ := Option.isSome_iff_exists.1 hlive.2
  have hused : answersUsed b b₁₂ = [none] ∧ answersUsed b b₂₁ = [none] := by decide +kernel
  have hunrefused₁₂ : Unrefused b b₁₂ := by simp [Unrefused, hused.1]
  have hunrefused₂₁ : Unrefused b b₂₁ := by simp [Unrefused, hused.2]
  have hids : b₁₂.peers.ids = [secondPeer, thirdPeer] := by decide +kernel
  have hwaits : (b₁₂.peers.get? secondPeer).map (·.outbound.unconsumed) =
        some (Text.utf8 "ann\nhi\x00") ∧
      (b₁₂.peers.get? thirdPeer).map (·.outbound.unconsumed) =
        some (Text.utf8 "bob\nhello\x00ann\nhi\x00bob\nbye\x00") ∧
      (b₂₁.peers.get? thirdPeer).map (·.outbound.unconsumed) =
        some (Text.utf8 "bob\nhello\x00bob\nbye\x00ann\nhi\x00") := by decide +kernel
  have hmessages : b₁₂.messages.toList = [⟨"bob", "hello"⟩, ⟨"ann", "hi"⟩, ⟨"bob", "bye"⟩] ∧
      b₂₁.messages.toList = [⟨"bob", "hello"⟩, ⟨"bob", "bye"⟩, ⟨"ann", "hi"⟩] := by decide +kernel
  obtain ⟨hsame, -⟩ := either_sender_first {} [] [none, none, none] {} gathering (by decide) hp hq
    hgranted lastWords lineAndFront hunrefused₁₂ hunrefused₂₁
  exact ⟨hgranted, hunrefused₁₂, hunrefused₂₁, hids, hsame, hwaits.1, hwaits.2.1, hwaits.2.2, hmessages.1,
    hmessages.2⟩

end Session

end Broker

end ChatRelay
