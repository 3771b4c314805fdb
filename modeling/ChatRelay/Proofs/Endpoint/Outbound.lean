import ChatRelay.Proofs.Endpoint.Lifecycle

/-!
# What an endpoint sends

While an endpoint is connected, its socket has been given, and will be given, one handshake and behind
it the text that was fed. Neither the attempts to connect that failed, nor the writes that stopped half way,
nor the places where the text was cut into feeds show in it.

An attempt that failed for lack of memory may show. It can leave the name in front of the handshake, which
the broker then takes for one name.

- `Endpoint.Session.wire`: the bytes the socket has accepted and those that wait for it.
- `Endpoint.Session.split_wire`: the frames of a handshake behind some names, and of the lines behind it.
- `Endpoint.Session.SameOutput`: sessions whose sockets have been given the same and will be.
- `Endpoint.Session.sameOutput_feeds`: feeding text in pieces is feeding it at once.
- `Endpoint.Session.outbound_law`: all of it, for every run.
-/

namespace ChatRelay.Endpoint

variable {name : String} {left : Nat} {e : Endpoint}

/-- A feed writes nothing yet. -/
theorem written_feed (e : Endpoint) (text : List UInt8) : (e.feed text).1.written = e.written := by
  obtain ⟨outbound, multiplexer, armed, heq, -⟩ := feed_eq e text
  rw [heq]
  rfl

/-- With memory every text is queued. -/
theorem accepts_of_ample (hphase : e.phase = .connected) (h : e.outbound.memory.Ample)
    (text : List UInt8) : e.accepts text := by
  rw [accepts, (ByteQueue.tryPush_of_ample h text).1, hphase]
  rfl

namespace Session

variable {s : Session}

/-- The bytes that the socket has accepted, and those that wait for it. -/
def wire (s : Session) : List UInt8 := s.endpoint.written ++ s.endpoint.outbound.unconsumed

/-- The first frame of a wire is the name, behind those that were left, and the others are the lines. -/
theorem split_wire (hname : DisplayName.isFramable name) (left : Nat) (fed : List UInt8) :
    Frame.split (names name left ++ Frame.handshake name ++ Frame.ofLines fed) =
      ((names name left ++ Text.utf8 name) :: (Frame.split (Frame.ofLines fed)).1,
        (Frame.split (Frame.ofLines fed)).2) := by
  have hmem : Frame.terminator ∉ Text.utf8 name := ((DisplayName.isFramable_iff name).1 hname).1
  have hfront : Frame.terminator ∉ names name left ++ Text.utf8 name := fun hboth =>
    (List.mem_append.1 hboth).elim (fun hleft => hmem (mem_names hleft)) hmem
  rw [Frame.handshake, ← List.append_assoc, List.append_assoc _ [Frame.terminator]]
  exact Frame.split_append_terminator hfront (Frame.ofLines fed)

/-! ### Cutting the text into feeds -/

/-- Two connected sessions have been fed the same text, their sockets have accepted the same bytes, and
whatever the sockets answer next they will be given the same. -/
structure SameOutput (s t : Session) : Prop where
  connected : s.endpoint.phase = .connected ∧ t.endpoint.phase = .connected
  fed : s.fed = t.fed
  written : s.endpoint.written = t.endpoint.written
  waiting : s.endpoint.outbound.unconsumed = t.endpoint.outbound.unconsumed
  sends : ∀ sink, (s.endpoint.outbound.send sink).written = (t.endpoint.outbound.send sink).written

/-- Feeding keeps the streams in order and writes nothing. -/
theorem run_feeds (hphase : s.endpoint.phase = .connected)
    (h : Streams name left s.fed s.popped s.endpoint) (texts : List (List UInt8)) :
    let t := s.run (texts.map .feed)
    t.endpoint.phase = .connected ∧ Streams name left t.fed t.popped t.endpoint ∧
      t.endpoint.written = s.endpoint.written := by
  induction texts generalizing s with
  | nil => exact ⟨hphase, h, rfl⟩
  | cons text rest ih =>
    obtain ⟨hconnected, hstreams⟩ := h.feed hphase text
    obtain ⟨hlast, hall, hwritten⟩ := ih (s := s.step (.feed text)) hconnected hstreams
    exact ⟨hlast, hall, hwritten.trans (written_feed s.endpoint text)⟩

/-- With memory all of it is queued. -/
theorem fed_run_feeds (hphase : s.endpoint.phase = .connected) (h : s.endpoint.outbound.memory.Ample)
    (texts : List (List UInt8)) : (s.run (texts.map .feed)).fed = s.fed ++ texts.flatten := by
  induction texts generalizing s with
  | nil => exact (List.append_nil _).symm
  | cons text rest ih =>
    have hfed : (s.step (.feed text)).fed = s.fed ++ text := if_pos (accepts_of_ample hphase h text)
    have hconnected : (s.step (.feed text)).endpoint.phase = .connected := by
      obtain ⟨outbound, multiplexer, armed, heq, -⟩ := feed_eq s.endpoint text
      show (s.endpoint.feed text).1.phase = .connected
      rw [heq]
      exact hphase
    rw [List.flatten_cons, ← List.append_assoc, ← hfed]
    exact ih hconnected ((spares_step s (.feed text)).outbound h)

/-- Sessions that were fed the same have the same wire, so the same waits once the same is written. -/
theorem sameOutput_of_written {t : Session}
    (hs : Streams name left s.fed s.popped s.endpoint)
    (ht : Streams name left t.fed t.popped t.endpoint)
    (hconnected : s.endpoint.phase = .connected ∧ t.endpoint.phase = .connected)
    (hfed : s.fed = t.fed) (hwritten : s.endpoint.written = t.endpoint.written) :
    SameOutput s t := by
  have hwire : s.endpoint.written ++ s.endpoint.outbound.unconsumed =
      t.endpoint.written ++ t.endpoint.outbound.unconsumed := by
    rw [hs.outbound, ht.outbound, hfed]
  -- the wires agree and so do their fronts
  have hwaiting : s.endpoint.outbound.unconsumed = t.endpoint.outbound.unconsumed := by
    rw [hwritten] at hwire
    exact List.append_cancel_left hwire
  refine ⟨hconnected, hfed, hwritten, hwaiting, fun sink => ?_⟩
  rw [(ByteQueue.send_eq _ sink).1, (ByteQueue.send_eq _ sink).1, hwaiting]

/-- **Feeding text in pieces is feeding it at once**, if as much of it is queued. -/
theorem sameOutput_feeds (h : s.Sound name) (hphase : s.endpoint.phase = .connected)
    {texts : List (List UInt8)}
    (hfed : (s.run (texts.map .feed)).fed = (s.step (.feed texts.flatten)).fed) :
    SameOutput (s.run (texts.map .feed)) (s.step (.feed texts.flatten)) := by
  obtain ⟨left, -, hstreams⟩ := h.streams hphase
  obtain ⟨hpieces, hs, hwritten⟩ := run_feeds hphase hstreams texts
  obtain ⟨hwhole, ht, hwritten'⟩ := run_feeds hphase hstreams [texts.flatten]
  exact sameOutput_of_written hs ht ⟨hpieces, hwhole⟩ hfed (hwritten.trans hwritten'.symm)

/-! ### The law -/

/-- **What an endpoint sends.** Whatever happened to it before and since it connected, its socket is
given one handshake and then the text that was fed, with newlines made terminators, however that text was
cut; but an attempt to connect that failed for lack of memory may have left the name in front of it.

With memory none fails so, and all text is queued. -/
theorem outbound_law (settings : EndpointSettings) (multiplexer : Multiplexer) (supply : Supply)
    (events : List Event)
    (hphase : ((start settings multiplexer supply).run events).endpoint.phase = .connected) :
    let s := (start settings multiplexer supply).run events
    (∃ left ≤ s.shortages,
        s.wire = names settings.name left ++ Frame.handshake settings.name ++ Frame.ofLines s.fed ∧
        Frame.split s.wire =
          ((names settings.name left ++ Text.utf8 settings.name) ::
            (Frame.split (Frame.ofLines s.fed)).1, (Frame.split (Frame.ofLines s.fed)).2)) ∧
      (s.shortages = 0 →
        s.wire = Frame.handshake settings.name ++ Frame.ofLines s.fed ∧
        Frame.split s.wire =
          (Text.utf8 settings.name :: (Frame.split (Frame.ofLines s.fed)).1,
            (Frame.split (Frame.ofLines s.fed)).2)) ∧
      (∀ texts : List (List UInt8),
        (s.run (texts.map .feed)).fed = (s.step (.feed texts.flatten)).fed →
        SameOutput (s.run (texts.map .feed)) (s.step (.feed texts.flatten))) ∧
      (supply.outbound.Ample → s.shortages = 0 ∧ ∀ texts : List (List UInt8),
        (s.run (texts.map .feed)).fed = s.fed ++ texts.flatten ∧
        (s.step (.feed texts.flatten)).fed = s.fed ++ texts.flatten) := by
  intro s
  have h : s.Sound settings.name := sound_run (sound_start settings multiplexer supply) events
  obtain ⟨left, hle, hstreams⟩ := h.streams hphase
  have hwire : s.wire =
      names settings.name left ++ Frame.handshake settings.name ++ Frame.ofLines s.fed :=
    hstreams.outbound
  have hsplit := split_wire hstreams.framable left s.fed
  refine ⟨⟨left, hle, hwire, hwire ▸ hsplit⟩, fun hnone => ?_,
    fun texts hfed => sameOutput_feeds h hphase hfed, fun hample => ?_⟩
  · obtain rfl : left = 0 := Nat.le_zero.1 (hnone ▸ hle)
    exact ⟨hwire, hwire ▸ hsplit⟩
  · have hmemory : s.endpoint.outbound.memory.Ample := (spares_run _ events).outbound hample
    exact ⟨shortages_run hample events, fun texts => ⟨fed_run_feeds hphase hmemory texts,
      if_pos (accepts_of_ample hphase hmemory texts.flatten)⟩⟩

/-- An endpoint is refused at first, then connects. It is fed before its handshake is out, which goes in
pieces, and while a line is half written. -/
def halting : List Event :=
  let traffic : Traffic := ⟨[], [.accept 2, .fault (.os 4), .accept 4]⟩
  [.connect "relay:7777" { readily with attempt := fun _ => some (.os 111) },
    .connect "relay:7777" readily,
    .feed (Text.utf8 "hi\nth"),
    .update none fun _ =>
      .delivered [{ token := Token.endpoint, writable := true, traffic }] [],
    .feed (Text.utf8 "ere\n")]

/-- The socket has accepted the front of the handshake and of the lines, and the rest waits. -/
theorem outbound_law_halting :
    let s := (start { name := "ann" } {}).run halting
    s.endpoint.phase = .connected ∧ s.endpoint.written = Text.utf8 "ann\x00hi" ∧
      s.endpoint.outbound.unconsumed = Text.utf8 "\x00there\x00" ∧
      s.wire = Frame.handshake "ann" ++ Frame.ofLines (Text.utf8 "hi\nthere\n") ∧
      SameOutput (s.run ([Text.utf8 "bye", Text.utf8 "\n"].map .feed))
        (s.step (.feed (Text.utf8 "bye\n"))) := by
  intro s
  have hrun : s.endpoint.phase = .connected ∧ s.endpoint.written = Text.utf8 "ann\x00hi" ∧
      s.endpoint.outbound.unconsumed = Text.utf8 "\x00there\x00" ∧ s.fed = Text.utf8 "hi\nthere\n" := by
    decide +kernel
  obtain ⟨hphase, hwritten, hwaiting, hfed⟩ := hrun
  obtain ⟨-, hwire, hcut, hmemory⟩ := outbound_law { name := "ann" } {} {} halting hphase
  obtain ⟨hnone, hqueued⟩ := hmemory Memory.ample_default
  obtain ⟨hpieces, hwhole⟩ := hqueued [Text.utf8 "bye", Text.utf8 "\n"]
  refine ⟨hphase, hwritten, hwaiting, ?_, hcut _ (hpieces.trans hwhole.symm)⟩
  rw [(hwire hnone).1, hfed]

/-- A name that fills its region, so that there is no memory for its terminator when the endpoint first
connects, goes out twice. -/
theorem outbound_law_starved :
    let name := DisplayName.ofLength 1024
    let s := (start { name } {} { outbound := ⟨[true, false]⟩ }).run
      [.connect "relay:7777" readily, .connect "relay:7777" readily]
    DisplayName.check name = .ok () ∧ s.endpoint.phase = .connected ∧ s.fed = [] ∧
      s.wire = Text.utf8 name ++ Frame.handshake name ∧ s.wire ≠ Frame.handshake name := by
  intro name s
  have hlength : (Text.utf8 name).length = 1024 := DisplayName.length_utf8_ofLength 1024
  have hcheck : DisplayName.check name = .ok () := DisplayName.check_ofLength 1024
  clear_value name
  obtain ⟨-, -, -, hopen, -, hfed, hdoubled⟩ := starved_handshake { name } hcheck
    (Nat.le_of_eq hlength.symm) (opens_readily "relay:7777")
  refine ⟨hcheck, hopen, hfed, hdoubled, fun honce => ?_⟩
  have hnone : Text.utf8 name = [] := List.append_left_eq_self.1 (hdoubled.symm.trans honce)
  rw [hnone] at hlength
  exact absurd hlength (by decide)

end Session

end ChatRelay.Endpoint
