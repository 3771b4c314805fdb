import ChatRelay.Proofs.Broker.Aside
import ChatRelay.Proofs.Broker.SenderOrder

/-!
# The lines of the hosting application

The hosting application feeds its text in pieces of any size. What goes out are the segments of the text
between newlines and terminators, wherever it was cut; the last segment waits for its end.

- `Frame.endsLine`, `Frame.split_ofLines`: the lines of a text are its segments.
- `asks_feed`, `gains_feed`: what a call does to the peers.
- `feed_append`: two calls in a row do what one does with both texts.
- `Session.feed_in_pieces`: all of it, for a session.
-/

namespace ChatRelay

namespace Frame

/-- Whether a byte ends a line of the hosting application. -/
def endsLine (b : UInt8) : Bool := b = separator || b = terminator

/-- **The lines of a text are its segments**, and its tail is the last of them. -/
theorem split_ofLines (text : List UInt8) :
    text.splitOnP endsLine = (split (ofLines text)).1 ++ [(split (ofLines text)).2] := by
  refine splitOnP_eq_split (fun b hb => ?_) (fun b hb => ?_) text
  · unfold endsLine at hb
    unfold endLine
    split <;> simp_all
  · unfold endsLine at hb
    unfold endLine
    simp_all

end Frame

namespace Broker

variable {b b' : Broker} {id : PeerId}

/-! ### One call -/

/-- The lines that a call completes. -/
def completed (b : Broker) (text : List UInt8) : List (List UInt8) :=
  (Frame.split (Frame.ofLines (b.localLines.unconsumed ++ text))).1

/-- Relay some lines of the hosting application. -/
def relayOwn (b : Broker) (bodies : List (List UInt8)) : Broker :=
  bodies.foldl (fun b body => b.relay none b.author body) b

/-- The lines under a broker's own author. -/
def ownLines (b : Broker) (bodies : List (List UInt8)) : List Line := bodies.map (⟨none, b.author, ·⟩)

/-- **The lines of the hosting application ask once**, however many they are. -/
theorem asks_relayOwn (h : Watched [] [] b) (bodies : List (List UInt8)) :
    Asks none (b.ownLines bodies) (b.askedFor none (b.ownLines bodies)) b (b.relayOwn bodies) := by
  induction bodies generalizing b with
  | nil => exact .quiet rfl fun _ _ => rfl
  | cons body rest ih =>
    have hrest := ih (h.relay none b.author body)
    rw [ownLines, (keeps_relay b none b.author body).author] at hrest
    exact (asks_relay h none none b.author body).lines (idle_relay ..) hrest

/-- Whoever lives on gains the lines. -/
theorem gains_relayOwn (b : Broker) (bodies : List (List UInt8)) {q' : Peer}
    (hq' : (b.relayOwn bodies).peers.get? id = some q') :
    ∃ q, b.peers.get? id = some q ∧
      q.Gains (bodies.flatMap (Frame.relayed (Text.utf8 b.author))) q' := by
  induction bodies generalizing b with
  | nil => exact ⟨q', hq', Peer.Gains.refl q'⟩
  | cons body rest ih =>
    obtain ⟨q₁, hq₁, hlater⟩ := ih (b.relay none b.author body) hq'
    obtain ⟨q, hq, -, hfirst⟩ := survivor_relay hq₁ (fun h => nomatch h)
    rw [(keeps_relay b none b.author body).author] at hlater
    exact ⟨q, hq, hfirst.trans hlater⟩

/-- What is relayed does not depend on the text that waits for its newline. -/
theorem relayOwn_localLines (b : Broker) (bodies : List (List UInt8)) (localLines : ByteQueue) :
    relayOwn { b with localLines } bodies = { b.relayOwn bodies with localLines } := by
  refine List.foldl_hom (fun b : Broker => { b with localLines }) fun b body => ?_
  have hbeside := relay_beside ⟨#[], b.acceptPending, localLines⟩ b none b.author body
  simp only [beside, Array.empty_append] at hbeside
  refine hbeside.trans ?_
  rw [← (keeps_relay b none b.author body).acceptPending]

/-- A call relays the lines that it completes, and the rest waits. -/
theorem feed_eq_relayOwn {text : List UInt8} (hok : (b.feed text).2 = .ok ()) :
    (b.feed text).1 =
      { b.relayOwn (b.completed text) with localLines := (b.feed text).1.localLines } := by
  obtain ⟨-, tail, -, heq⟩ | ⟨⟨_, hfailed⟩, -⟩ := feed_cases b text
  · have hrelayed : (b.feed text).1 =
        { b.relayOwn (b.completed text) with localLines := tail } :=
      heq.trans (relayOwn_localLines b (b.completed text) tail)
    rw [hrelayed]
  · cases hfailed.symm.trans hok

/-- A call queues the lines that it completes. -/
theorem asks_feed (h : Watched [] [] b) {text : List UInt8} (hok : (b.feed text).2 = .ok ()) :
    let lines := b.ownLines (b.completed text)
    Asks none lines (b.askedFor none lines) b (b.feed text).1 := by
  obtain ⟨hverdicts, hlive, houtput⟩ := asks_relayOwn h (b.completed text)
  rw [feed_eq_relayOwn hok]
  exact ⟨hverdicts, hlive, houtput⟩

/-- **Every peer gets the lines that a call completes** if the multiplexer refuses nobody and the peer is
granted memory. -/
theorem gains_feed (h : Watched [] [] b) {text : List UInt8} (hok : (b.feed text).2 = .ok ())
    (hunrefused : Unrefused b (b.feed text).1) :
    (∀ id, (b.feed text).1.peers.contains id → b.peers.contains id) ∧
      ∀ id q, b.peers.get? id = some q → q.outbound.memory.Ample →
        ∃ q', (b.feed text).1.peers.get? id = some q' ∧
          q.Gains ((b.completed text).flatMap (Frame.relayed (Text.utf8 b.author))) q' := by
  have hasks := asks_feed h hok
  have hlive (id : PeerId) := hasks.live id (fun h => nomatch h)
  refine ⟨fun id hid => ((hlive id).1 hid).1, fun id q hq hgranted => ?_⟩
  have hcontains : b.peers.contains id := PeerTable.contains_iff.2 ⟨q, hq⟩
  have hstays := (hlive id).2 ⟨hcontains, hasks.unrefused hunrefused ▸ List.not_mem_nil,
    takes_of_ample hq hgranted _⟩
  obtain ⟨q', hq'⟩ := PeerTable.contains_iff.1 hstays
  have hrelayed : (b.relayOwn (b.completed text)).peers.get? id = some q' := by
    rw [feed_eq_relayOwn hok] at hq'
    exact hq'
  obtain ⟨q₀, hq₀, hgains⟩ := gains_relayOwn b (b.completed text) hrelayed
  cases hq.symm.trans hq₀
  exact ⟨q', hq', hgains⟩

/-! ### Two calls -/

/-- Two calls complete the lines that one completes with both texts, and leave the same tail. -/
theorem completed_append {text more : List UInt8} (hok : (b.feed text).2 = .ok ())
    (hmore : ((b.feed text).1.feed more).2 = .ok ()) (hboth : (b.feed (text ++ more)).2 = .ok ()) :
    b.completed (text ++ more) = b.completed text ++ (b.feed text).1.completed more ∧
      ((b.feed text).1.feed more).1.localLines.unconsumed =
        (b.feed (text ++ more)).1.localLines.unconsumed := by
  have hbytes : Frame.ofLines ((b.feed text).1.localLines.unconsumed ++ more) =
      (Frame.split (Frame.ofLines (b.localLines.unconsumed ++ text))).2 ++ Frame.ofLines more := by
    rw [localLines_feed hok, Frame.ofLines_append, Frame.ofLines_tail]
  rw [localLines_feed hmore, localLines_feed hboth, completed, completed, completed, hbytes,
    ← List.append_assoc, Frame.ofLines_append (_ ++ text),
    Frame.split_append (Frame.ofLines (_ ++ text))]
  exact ⟨rfl, rfl⟩

/-- **Feeding two texts in a row does what feeding both at once does.** Only where the text that waits for
its newline is stored may differ. -/
theorem feed_append {text more : List UInt8} (hok : (b.feed text).2 = .ok ())
    (hmore : ((b.feed text).1.feed more).2 = .ok ()) (hboth : (b.feed (text ++ more)).2 = .ok ()) :
    ((b.feed text).1.feed more).1 =
      { (b.feed (text ++ more)).1 with localLines := ((b.feed text).1.feed more).1.localLines } := by
  have hsame : (b.feed text).1.relayOwn ((b.feed text).1.completed more) =
      { b.relayOwn (b.completed (text ++ more)) with
        localLines := (b.feed text).1.localLines } := by
    have hrelayed : b.relayOwn (b.completed (text ++ more)) =
        (b.relayOwn (b.completed text)).relayOwn ((b.feed text).1.completed more) := by
      rw [(completed_append hok hmore hboth).1]
      exact List.foldl_append
    rw [hrelayed, ← relayOwn_localLines, ← feed_eq_relayOwn hok]
  rw [feed_eq_relayOwn hmore, hsame, feed_eq_relayOwn hboth]

/-! ### In a session -/

namespace Session

/-- The segments of a text with more behind it: those of the text, without its tail, and those that the
tail makes with the rest. -/
theorem segments_append {host : String} {s : Session} (h : s.Sound host) {text : List UInt8}
    (hok : (s.broker.feed text).2 = .ok ()) :
    (s.fed ++ text).splitOnP Frame.endsLine =
      (Frame.split (Frame.ofLines s.fed)).1 ++ s.broker.completed text ++
        [(s.broker.feed text).1.localLines.unconsumed] := by
  rw [Frame.split_ofLines, localLines_feed hok, completed, h.waiting, Frame.ofLines_append,
    Frame.ofLines_append, Frame.ofLines_tail, Frame.split_append (Frame.ofLines s.fed)]

/-- **It does not matter in which pieces the hosting application feeds its text.** In any session the lines
that have gone out under the host's name are the segments of all that was fed, in order, and the last
segment waits. A further call queues no message. If there is memory for its text, it has been fed, and if
the multiplexer refuses nobody, every live peer that is granted memory stays and gets the frames of the
lines that the call completes, and nothing else. Two calls in a row do what one does with both texts. While
all memory is granted, every call is fed and every peer is granted it. -/
theorem feed_in_pieces (settings : BrokerSettings) (registers rearms : List (Option IoError))
    (supply : Supply) (events : List Event) :
    let s := (start settings { registerVerdicts := registers, rearmVerdicts := rearms } supply).run events
    let b := s.broker
    (∃ lines, s.fed.splitOnP Frame.endsLine = lines ++ [b.localLines.unconsumed] ∧
      b.log.filter (·.sender = none) = lines.map (⟨none, settings.serverAuthor, ·⟩) ∧
      ∀ text, (b.feed text).1.messages = b.messages ∧
        ((b.feed text).2 = .ok () →
          ∃ new, (s.fed ++ text).splitOnP Frame.endsLine =
              lines ++ new ++ [(b.feed text).1.localLines.unconsumed] ∧
            (Unrefused b (b.feed text).1 →
              (∀ id, (b.feed text).1.peers.contains id → b.peers.contains id) ∧
              ∀ id p, b.peers.get? id = some p → p.outbound.memory.Ample →
                ∃ p', (b.feed text).1.peers.get? id = some p' ∧
                  p.Gains (new.flatMap (Frame.relayed (Text.utf8 settings.serverAuthor))) p'))) ∧
    (∀ text more, (b.feed text).2 = .ok () → ((b.feed text).1.feed more).2 = .ok () →
      (b.feed (text ++ more)).2 = .ok () →
        ((b.feed text).1.feed more).1.localLines.unconsumed =
          (b.feed (text ++ more)).1.localLines.unconsumed ∧
        ∀ id, ((b.feed text).1.feed more).1.peers.get? id =
          (b.feed (text ++ more)).1.peers.get? id) ∧
    (supply.Ample → b.Granted ∧
      ∀ text, (b.feed text).2 = .ok () ∧ (b.feed text).1.Granted) := by
  intro s b
  have hsound : s.Sound settings.serverAuthor := sound_run settings _ supply events
  have hwatched : Watched [] [] b := watched_run (Watched.begin settings registers rearms supply) events
  refine ⟨⟨(Frame.split (Frame.ofLines s.fed)).1, ?_, hsound.hosted, fun text =>
      ⟨(author_feed b text).2.1, fun hok => ⟨b.completed text, segments_append hsound hok,
        fun hunrefused => ?_⟩⟩⟩,
    fun text more hok hmore hboth => ⟨(completed_append hok hmore hboth).2, fun id => ?_⟩,
    fun hample => ?_⟩
  · rw [Frame.split_ofLines]
    exact congrArg (_ ++ [·]) hsound.waiting.symm
  · have hgains := gains_feed hwatched hok hunrefused
    rwa [hsound.author] at hgains
  · rw [feed_append hok hmore hboth]
  · have hgranted : b.Granted := granted_run hample settings _ events
    exact ⟨hgranted, fun text => ⟨feed_of_ample hgranted.localLines text, hgranted.feed text⟩⟩

/-- After the meeting all that waits for Bob is written, so the multiplexer is asked about him next. -/
def afterMeeting : List Event := meeting ++ [.writable secondPeer [.accept 15]]

/-- The host has begun a line. It ends that, says an empty one and one that ends in a NUL, and begins
another. -/
theorem feed_in_pieces_meeting :
    let s := (start {} { rearmVerdicts := [none, none, none, none] }).run afterMeeting
    let text := Text.utf8 " all\n\nbye\x00so"
    (s.broker.feed text).2 = .ok () ∧ answersUsed s.broker (s.broker.feed text).1 = [none] ∧
      s.broker.localLines.unconsumed = Text.utf8 "to" ∧
      (∃ p p', s.broker.peers.get? secondPeer = some p ∧
        (s.broker.feed text).1.peers.get? secondPeer = some p' ∧
        p.Gains (Text.utf8 "server\nto all\x00server\n\x00server\nbye\x00") p') ∧
      (s.broker.feed text).1.localLines.unconsumed = Text.utf8 "so" := by
  intro s text
  obtain ⟨⟨lines, hlines, -, hfeed⟩, -, hample⟩ :=
    feed_in_pieces {} [] [none, none, none, none] {} afterMeeting
  obtain ⟨hgranted, hfed⟩ := hample Supply.ample_default
  have hok : (s.broker.feed text).2 = .ok () := (hfed text).1
  obtain ⟨new, hnew, hgains⟩ := (hfeed text).2 hok
  have hused : answersUsed s.broker (s.broker.feed text).1 = [none] := by decide +kernel
  have hunrefused : Unrefused s.broker (s.broker.feed text).1 := by simp [Unrefused, hused]
  -- the segments tell which lines have gone out before, and which go out now
  have hbefore : s.fed.splitOnP Frame.endsLine = [Text.utf8 "welcome"] ++ [Text.utf8 "to"] := by
    decide +kernel
  have hafter : (s.fed ++ text).splitOnP Frame.endsLine =
      [Text.utf8 "welcome"] ++ [Text.utf8 "to all", [], Text.utf8 "bye"] ++ [Text.utf8 "so"] := by
    decide +kernel
  obtain ⟨rfl, hwaits⟩ := List.append_inj' (hlines.symm.trans hbefore) rfl
  obtain ⟨hall, hrest⟩ := List.append_inj' (hnew.symm.trans hafter) rfl
  obtain rfl := List.append_cancel_left hall
  have hlive : (s.broker.peers.get? secondPeer).isSome := by decide +kernel
  obtain ⟨p, hp⟩ := Option.isSome_iff_exists.1 hlive
  obtain ⟨p', hp', hgained⟩ :=
    (hgains hunrefused).2 secondPeer p hp (hgranted.peers secondPeer p hp).outbound
  have hframes : [Text.utf8 "to all", [], Text.utf8 "bye"].flatMap
      (Frame.relayed (Text.utf8 "server")) =
        Text.utf8 "server\nto all\x00server\n\x00server\nbye\x00" := by decide +kernel
  rw [show ({} : BrokerSettings).serverAuthor = "server" from rfl, hframes] at hgained
  exact ⟨hok, hused, (List.cons.inj hwaits).1, ⟨p, p', hp, hp', hgained⟩, (List.cons.inj hrest).1⟩

end Session

end Broker

end ChatRelay
