import ChatRelay.Endpoint.Basic
import ChatRelay.Proofs.ByteQueue.Framing
import ChatRelay.Proofs.MessageQueue.Intake

/-!
# What the operations of an endpoint come to

Every operation of an endpoint is a few changes of its fields, and can be left half way: by a failure of the
socket, by a refusal of the multiplexer, or for lack of memory. This module says once, for each, what the
ways through it are. All that is proved of an endpoint later goes by these cases.

- `Endpoint.takeFrame_cases`, `Endpoint.takeEach_cases`, `Endpoint.takeFrames_cases`: decoding, up to the
  first message for which there is no memory.
- `Endpoint.serveReadable_cases`, `Endpoint.serveWritable_cases`, `Endpoint.update_cases`: serving the
  socket; `Endpoint.refuses_of_ensureConnected`: unless it is connected.
- `Endpoint.feed_cases`, `Endpoint.feed_eq`: feeding.
- `Endpoint.hold_cases`, `Endpoint.connect_cases`, `Endpoint.dial_eq`, `Endpoint.teardown_eq`: the others.
- `Endpoint.Follows`: what must be shown of a relation so that it holds across every operation. It is shown
  of `Grows`, which speaks of the bytes moved, and of `TakesIn`, which speaks of the messages decoded.
- `Endpoint.Spares`: a queue to which all memory is granted keeps that.
-/

namespace ChatRelay

/-- The message of a frame, if it has an author. -/
def Message.ofFrame? (frame : List UInt8) : Option Message := (Message.ofFrame frame).toOption

/-- The messages of some frames. -/
def Message.ofFrames (frames : List (List UInt8)) : List Message :=
  frames.filterMap Message.ofFrame?

/-- How many of some frames have no author. -/
def Message.malformed (frames : List (List UInt8)) : Nat :=
  frames.countP (Message.ofFrame? · |>.isNone)

@[simp] theorem Message.ofFrames_append (frames more : List (List UInt8)) :
    ofFrames (frames ++ more) = ofFrames frames ++ ofFrames more :=
  List.filterMap_append

@[simp] theorem Message.malformed_append (frames more : List (List UInt8)) :
    malformed (frames ++ more) = malformed frames + malformed more :=
  List.countP_append

namespace Endpoint

variable {e : Endpoint}

/-! ### What was read and written -/

/-- The bytes that an entry tells were read. -/
def Entry.bytesRead : Entry → List UInt8
  | received bytes => bytes
  | _ => []

/-- The bytes that an entry tells were written. -/
def Entry.bytesWritten : Entry → List UInt8
  | wrote bytes => bytes
  | _ => []

/-- All bytes that the endpoint has read. -/
def read (e : Endpoint) : List UInt8 := e.journal.toList.flatMap Entry.bytesRead

/-- All bytes that the endpoint has written. -/
def written (e : Endpoint) : List UInt8 := e.journal.toList.flatMap Entry.bytesWritten

@[simp] theorem read_note (e : Endpoint) (entry : Entry) :
    (e.note entry).read = e.read ++ entry.bytesRead := by
  simp [read, note]

@[simp] theorem written_note (e : Endpoint) (entry : Entry) :
    (e.note entry).written = e.written ++ entry.bytesWritten := by
  simp [written, note]

/-! ### Decoding -/

/-- The second endpoint is the first when it has decoded some frames. -/
structure Decodes (frames : List (List UInt8)) (e e' : Endpoint) : Prop where
  name : e'.name = e.name
  phase : e'.phase = e.phase
  inbound : e'.inbound = e.inbound
  outbound : e'.outbound = e.outbound
  read : e'.read = e.read
  written : e'.written = e.written
  messages : e'.messages.toList = e.messages.toList ++ Message.ofFrames frames
  malformed : e'.malformedFrames = e.malformedFrames + Message.malformed frames

theorem Decodes.trans {frames more : List (List UInt8)} {e e' e'' : Endpoint}
    (h : Decodes frames e e')
    (h' : Decodes more e' e'') : Decodes (frames ++ more) e e'' where
  name := h'.name.trans h.name
  phase := h'.phase.trans h.phase
  inbound := h'.inbound.trans h.inbound
  outbound := h'.outbound.trans h.outbound
  read := h'.read.trans h.read
  written := h'.written.trans h.written
  messages := by rw [h'.messages, h.messages, Message.ofFrames_append, List.append_assoc]
  malformed := by rw [h'.malformed, h.malformed, Message.malformed_append, Nat.add_assoc]

/-- What comes of a frame changes messages, the count and the journal. -/
theorem decodes_note {messages : MessageQueue} {malformedFrames : Nat} {entry : Entry}
    {frames : List (List UInt8)} (hread : entry.bytesRead = []) (hwritten : entry.bytesWritten = [])
    (hmessages : messages.toList = e.messages.toList ++ Message.ofFrames frames)
    (hmalformed : malformedFrames = e.malformedFrames + Message.malformed frames) :
    Decodes frames e ({ e with messages, malformedFrames }.note entry) where
  name := rfl
  phase := rfl
  inbound := rfl
  outbound := rfl
  read := by
    rw [read_note, hread]
    exact List.append_nil _
  written := by
    rw [written_note, hwritten]
    exact List.append_nil _
  messages := hmessages
  malformed := hmalformed

/-- A frame gives a message or is counted, unless it gives a message for which there is no memory. -/
theorem takeFrame_cases (e : Endpoint) (frame : List UInt8) :
    ((e.takeFrame frame).2 = .ok () ∧ Decodes [frame] e (e.takeFrame frame).1) ∨
      ((Message.ofFrame? frame).isSome ∧ (∃ size, (e.takeFrame frame).2 = .error (.outOfMemory size)) ∧
        Decodes [] e (e.takeFrame frame).1) := by
  unfold takeFrame
  cases h : Message.ofFrame frame with
  | ok message =>
    have hframe : Message.ofFrame? frame = some message := by rw [Message.ofFrame?, h]; rfl
    have hpush := e.messages.tryPush_cases message
    rcases htry : e.messages.tryPush message with ⟨messages, outcome⟩
    rw [htry] at hpush
    simp only [htry]
    obtain ⟨rfl, hlist⟩ | ⟨⟨size, rfl⟩, hlist⟩ := hpush
    · refine Or.inl ⟨rfl, decodes_note rfl rfl ?_ ?_⟩
      · rw [Message.ofFrames, List.filterMap_cons_some hframe]
        exact hlist
      · simp [Message.malformed, hframe]
    · exact Or.inr ⟨by rw [hframe]; rfl, ⟨size, rfl⟩,
        decodes_note rfl rfl (hlist.trans (List.append_nil _).symm) rfl⟩
  | error cause =>
    have hframe : Message.ofFrame? frame = none := by rw [Message.ofFrame?, h]; rfl
    refine Or.inl ⟨rfl, decodes_note rfl rfl ?_ ?_⟩
    · rw [Message.ofFrames, List.filterMap_cons_none hframe]
      exact (List.append_nil _).symm
    · simp [Message.malformed, hframe]

theorem Decodes.refl (e : Endpoint) : Decodes [] e e :=
  ⟨rfl, rfl, rfl, rfl, rfl, rfl, (List.append_nil _).symm, rfl⟩

/-- **All frames are decoded, or those in front of the first message for which there is no memory.** -/
theorem takeEach_cases (e : Endpoint) (frames : List (List UInt8)) :
    ((e.takeEach frames).2 = .ok () ∧ Decodes frames e (e.takeEach frames).1) ∨
      ∃ front lost back, frames = front ++ lost :: back ∧ (Message.ofFrame? lost).isSome ∧
        (∃ size, (e.takeEach frames).2 = .error (.outOfMemory size)) ∧
        Decodes front e (e.takeEach frames).1 := by
  induction frames generalizing e with
  | nil => exact Or.inl ⟨rfl, .refl e⟩
  | cons frame rest ih =>
    have hfirst := e.takeFrame_cases frame
    unfold takeEach
    rcases htake : e.takeFrame frame with ⟨e', outcome⟩
    rw [htake] at hfirst
    obtain ⟨rfl, hdecodes⟩ | ⟨hlost, ⟨size, rfl⟩, hsame⟩ := hfirst
    · obtain ⟨hok, hrest⟩ | ⟨front, lost, back, rfl, hlost, hfailed, hfront⟩ := ih e'
      · exact Or.inl ⟨hok, hdecodes.trans hrest⟩
      · exact Or.inr ⟨frame :: front, lost, back, rfl, hlost, hfailed, hdecodes.trans hfront⟩
    · exact Or.inr ⟨[], frame, rest, rfl, hlost, ⟨size, rfl⟩, hsame⟩

/-- Decoding changes the messages, the count of frames without an author, and the journal. -/
theorem takeEach_eq (e : Endpoint) (frames : List (List UInt8)) :
    ∃ messages malformedFrames journal,
      (e.takeEach frames).1 = { e with messages, malformedFrames, journal } := by
  induction frames generalizing e with
  | nil => exact ⟨e.messages, e.malformedFrames, e.journal, rfl⟩
  | cons frame rest ih =>
    have hfirst : ∃ messages malformedFrames journal,
        (e.takeFrame frame).1 = { e with messages, malformedFrames, journal } := by
      unfold takeFrame
      split
      · split
        · exact ⟨_, e.malformedFrames, _, rfl⟩
        · exact ⟨_, e.malformedFrames, _, rfl⟩
      · exact ⟨e.messages, _, _, rfl⟩
    obtain ⟨messages, malformedFrames, journal, heq⟩ := hfirst
    unfold takeEach
    rcases htake : e.takeFrame frame with ⟨e', cause | ⟨⟩⟩ <;> rw [htake] at heq
    · exact ⟨messages, malformedFrames, journal, heq⟩
    · obtain ⟨messages', malformedFrames', journal', hrest⟩ := ih e'
      subst heq
      exact ⟨messages', malformedFrames', journal', hrest⟩

/-- The tail stays behind all complete frames, whether they are decoded or not. -/
theorem takeFrames_eq (e : Endpoint) :
    e.takeFrames = { e with inbound := e.inbound.takeFrames.2 }.takeEach
      (Frame.split e.inbound.unconsumed).1 := by
  rw [← e.inbound.takeFrames_eq.1]
  rfl

/-- All complete frames are decoded, or those in front of the first message for which there is no
memory. -/
theorem takeFrames_cases (e : Endpoint) :
    ∃ tail, tail.unconsumed = (Frame.split e.inbound.unconsumed).2 ∧
      ((e.takeFrames.2 = .ok () ∧
          Decodes (Frame.split e.inbound.unconsumed).1 { e with inbound := tail } e.takeFrames.1) ∨
        ∃ front lost back, (Frame.split e.inbound.unconsumed).1 = front ++ lost :: back ∧
          (Message.ofFrame? lost).isSome ∧ (∃ size, e.takeFrames.2 = .error (.outOfMemory size)) ∧
          Decodes front { e with inbound := tail } e.takeFrames.1) := by
  rw [takeFrames_eq]
  exact ⟨_, e.inbound.takeFrames_eq.2, takeEach_cases _ _⟩

/-! ### Serving the socket -/

/-- The endpoint with what a pass over its socket gave. -/
def filled (e : Endpoint) (reads : List ReadEvent) : Endpoint :=
  { e with inbound := (e.inbound.receive reads).queue }.note
    (.received (e.inbound.receive reads).received)

/-- What comes of it when it is decoded. -/
def took (e : Endpoint) (reads : List ReadEvent) : Endpoint × Except RelayError Unit :=
  (e.filled reads).takeFrames

/-- A pass of reading appends what it read to the input. Unless it failed the frames are decoded, which may
fail as well; at the end of the stream the endpoint closes. -/
theorem serveReadable_eq (hsocket : e.socket.isSome) (reads : List ReadEvent) :
    e.serveReadable reads =
      match (e.inbound.receive reads).outcome, e.took reads with
      | .error cause, _ => (e.filled reads, .error cause)
      | .ok _, (e', .error cause) => (e', .error cause)
      | .ok .inProgress, (e', .ok ()) => (e', .ok ())
      | .ok .closed, (e', .ok ()) => ((e'.note .brokerClosed).teardown, .ok ()) := by
  unfold serveReadable took filled
  rw [if_neg (by rw [Option.isNone_iff_eq_none]; exact Option.isSome_iff_ne_none.1 hsocket)]
  cases hend : (e.inbound.receive reads).outcome with
  | error cause => simp only [hend]
  | ok status =>
    simp only [hend]
    rcases takeFrames _ with ⟨e', cause | ⟨⟩⟩ <;> cases status <;> rfl

theorem serveReadable_cases (e : Endpoint) (reads : List ReadEvent) :
    e.serveReadable reads = (e, .ok ()) ∨
    (∃ cause, e.serveReadable reads = (e.filled reads, .error cause)) ∨
    (∃ cause, (e.took reads).2 = .error cause ∧
      e.serveReadable reads = ((e.took reads).1, .error cause)) ∨
    ((e.took reads).2 = .ok () ∧ (e.serveReadable reads = ((e.took reads).1, .ok ()) ∨
      e.serveReadable reads = (((e.took reads).1.note .brokerClosed).teardown, .ok ()))) := by
  by_cases hsocket : e.socket.isSome
  · rw [serveReadable_eq hsocket]
    rcases (e.inbound.receive reads).outcome with cause | status
    · exact Or.inr (Or.inl ⟨cause, rfl⟩)
    rcases e.took reads with ⟨e', cause | ⟨⟩⟩
    · exact Or.inr (Or.inr (Or.inl ⟨cause, rfl, rfl⟩))
    · cases status with
      | inProgress => exact Or.inr (Or.inr (Or.inr ⟨rfl, Or.inl rfl⟩))
      | closed => exact Or.inr (Or.inr (Or.inr ⟨rfl, Or.inr rfl⟩))
  · rw [Option.not_isSome_iff_eq_none] at hsocket
    exact Or.inl (if_pos (by rw [hsocket]; rfl))

/-- Syncing the interest changes what the multiplexer was told. -/
theorem syncInterest_eq (e : Endpoint) :
    ∃ multiplexer armed, e.syncInterest.1 = { e with multiplexer, armed } := by
  unfold syncInterest
  simp only
  split
  · exact ⟨e.multiplexer, e.armed, rfl⟩
  split
  · exact ⟨e.multiplexer, e.armed, rfl⟩
  split
  · exact ⟨_, e.armed, rfl⟩
  · exact ⟨_, _, rfl⟩

/-- A pass of writing takes from what waits, and changes what the multiplexer was told. -/
theorem serveWritable_cases (e : Endpoint) (writes : List WriteEvent) :
    (e.serveWritable writes).1 = e ∨ ∃ multiplexer armed,
      (e.serveWritable writes).1 =
        { e with outbound := (e.outbound.send writes).queue, multiplexer, armed }.note
          (.wrote (e.outbound.send writes).written) := by
  unfold serveWritable
  by_cases hsocket : e.socket.isNone
  · rw [if_pos hsocket]
    exact Or.inl rfl
  rw [if_neg hsocket]
  refine Or.inr ?_
  cases hend : (e.outbound.send writes).outcome with
  | error cause =>
    simp only [hend]
    exact ⟨e.multiplexer, e.armed, rfl⟩
  | ok status =>
    cases status with
    | partly =>
      simp only [hend]
      exact ⟨e.multiplexer, e.armed, rfl⟩
    | complete =>
      simp only [hend]
      obtain ⟨multiplexer, armed, heq⟩ := syncInterest_eq
        ({ e with outbound := (e.outbound.send writes).queue }.note
          (.wrote (e.outbound.send writes).written))
      exact ⟨multiplexer, armed, heq⟩

/-- Before and after it is connected an endpoint takes nothing in. -/
theorem ensureConnected_ne_ok (h : e.phase ≠ .connected) :
    ∃ cause, e.ensureConnected = .error cause ∧ ∀ size, cause ≠ .outOfMemory size := by
  unfold ensureConnected
  cases hphase : e.phase with
  | unconnected => exact ⟨_, rfl, nofun⟩
  | connected => exact absurd hphase h
  | closed => exact ⟨_, rfl, nofun⟩

/-- Feeding and updating begin with the same question. -/
theorem refuses_of_ensureConnected {cause : RelayError} (h : e.ensureConnected = .error cause) :
    (∀ text, e.feed text = (e, .error cause)) ∧
      ∀ timeout poll, e.update timeout poll = (e, .error cause) := by
  constructor
  · intro text
    simp only [Endpoint.feed, h]
  · intro timeout poll
    simp only [Endpoint.update, h]

/-- The reads that a wait gives the endpoint to make, if it reports the socket readable. -/
def reads? : PollOutcome → Option (List ReadEvent)
  | .failed _ => none
  | .delivered ready _ =>
    let own := ready.filter (·.token = Token.endpoint)
    if own.any (·.readable) then some (own.flatMap (·.traffic.reads)) else none

/-- What a cycle of a connected endpoint comes to: nothing, if its socket is not ready; otherwise what
serving the socket comes to. A failure closes the endpoint. -/
theorem update_cases (hphase : e.phase = .connected) (timeout : Option Nat)
    (poll : Option Nat → PollOutcome) :
    (reads? (poll timeout) = none ∧ ∃ outcome, e.update timeout poll = (e, outcome)) ∨
      ∃ readable writable traffic,
        reads? (poll timeout) = (if readable then some traffic.reads else none) ∧
        ((∃ e', e.serve readable writable traffic = (e', .ok ()) ∧
            e.update timeout poll = (e', .ok .processed)) ∨
          ∃ e' cause, e.serve readable writable traffic = (e', .error cause) ∧
            e.update timeout poll = ((e'.note (.connectionFailed cause)).teardown, .error cause)) := by
  have hready : e.ensureConnected = .ok () := by rw [ensureConnected, hphase]
  unfold Endpoint.update
  simp only [hready]
  cases poll timeout with
  | failed cause => exact Or.inl ⟨rfl, _, rfl⟩
  | delivered ready accepts =>
    have hreads : reads? (.delivered ready accepts) =
      if (ready.filter (·.token = Token.endpoint)).any (·.readable) then
        some ((ready.filter (·.token = Token.endpoint)).flatMap (·.traffic.reads)) else none := rfl
    rw [hreads]
    simp only
    generalize (ready.filter (·.token = Token.endpoint)).any (·.readable) = readable
    generalize (ready.filter (·.token = Token.endpoint)).any (·.writable) = writable
    by_cases hserved : readable || writable
    · rw [if_pos hserved]
      refine Or.inr ⟨readable, writable,
        ⟨(ready.filter (·.token = Token.endpoint)).flatMap (·.traffic.reads),
          (ready.filter (·.token = Token.endpoint)).flatMap (·.traffic.writes)⟩, rfl, ?_⟩
      split
      · next e' hserve => exact Or.inl ⟨e', hserve, rfl⟩
      · next e' cause hserve => exact Or.inr ⟨e', cause, hserve, rfl⟩
    · rw [if_neg hserved]
      rw [Bool.or_eq_true, not_or] at hserved
      exact Or.inl ⟨if_neg hserved.1, _, rfl⟩

/-- Tearing down gives up the socket and both queues, and keeps what was decoded. -/
theorem teardown_eq (e : Endpoint) :
    ∃ multiplexer journal, e.teardown = { e with
        socket := none
        multiplexer
        inbound := .empty
        outbound := .empty
        phase := .closed
        journal } ∧
      (∀ socket, e.socket = some socket →
        multiplexer = (e.multiplexer.deregister socket).1.forget socket) ∧
      (journal = e.journal ∨ ∃ cause, journal = e.journal.push (.deregistrationFailed cause)) := by
  unfold teardown
  cases hsocket : e.socket with
  | none =>
    refine ⟨e.multiplexer, e.journal, ?_, nofun, Or.inl rfl⟩
    simp only [hsocket]
  | some socket =>
    have hdrop : ∀ other, some socket = some other →
        (e.multiplexer.deregister socket).1.forget socket =
          (e.multiplexer.deregister other).1.forget other := by
      rintro other ⟨⟩
      rfl
    simp only
    cases (e.multiplexer.deregister socket).2 with
    | ok => exact ⟨_, _, rfl, hdrop, Or.inl rfl⟩
    | error cause => exact ⟨_, _, rfl, hdrop, Or.inr ⟨cause, rfl⟩⟩

/-- Whether a text that is fed would be queued: the endpoint is connected, and there is memory for it. -/
def accepts (e : Endpoint) (text : List UInt8) : Bool :=
  e.phase = .connected && (e.outbound.tryPush text).2.isOk

/-- **Feeding a connected endpoint** changes its output and what the multiplexer was told. A text for which
there is no memory is not queued. -/
theorem feed_cases (hphase : e.phase = .connected) (text : List UInt8) :
    (e.accepts text ∧ (e.outbound.push text).unconsumed = e.outbound.unconsumed ++ text ∧
      e.feed text = { e with outbound := (e.outbound.push text).terminateLines }.syncInterest) ∨
    (¬e.accepts text ∧ (e.outbound.push text).unconsumed = e.outbound.unconsumed ∧
      ∃ size, e.feed text = ({ e with outbound := e.outbound.push text }, .error (.outOfMemory size))) := by
  have hready : e.ensureConnected = .ok () := by rw [ensureConnected, hphase]
  have hpush := e.outbound.tryPush_cases text
  unfold Endpoint.feed accepts ByteQueue.push
  simp only [hready, hphase]
  unfold ByteQueue.push at hpush
  rcases htry : e.outbound.tryPush text with ⟨outbound, outcome⟩
  rw [htry] at hpush
  obtain ⟨rfl, hlive⟩ | ⟨-, ⟨size, rfl⟩, hlive⟩ := hpush
  · exact Or.inl ⟨rfl, hlive, rfl⟩
  · exact Or.inr ⟨nofun, hlive, size, rfl⟩

/-- Feeding changes the output and what the multiplexer was told, if anything. -/
theorem feed_eq (e : Endpoint) (text : List UInt8) :
    ∃ outbound multiplexer armed, (e.feed text).1 = { e with outbound, multiplexer, armed } ∧
      (e.outbound.memory.Ample → outbound.memory.Ample) := by
  by_cases hphase : e.phase = .connected
  · have hpush (h : e.outbound.memory.Ample) : (e.outbound.push text).memory.Ample :=
      (ByteQueue.tryPush_of_ample h text).2
    obtain ⟨-, -, heq⟩ | ⟨-, -, size, heq⟩ := feed_cases hphase text <;> rw [heq]
    · obtain ⟨multiplexer, armed, hsync⟩ := syncInterest_eq
        { e with outbound := (e.outbound.push text).terminateLines }
      exact ⟨_, multiplexer, armed, hsync, hpush⟩
    · exact ⟨_, e.multiplexer, e.armed, rfl, hpush⟩
  · obtain ⟨cause, hcause, -⟩ := ensureConnected_ne_ok hphase
    rw [(refuses_of_ensureConnected hcause).1]
    exact ⟨e.outbound, e.multiplexer, e.armed, rfl, id⟩

/-- Holding a socket fails if the handshake cannot be queued, for its name or for lack of memory, or if the
multiplexer refuses; then the handshake is taken back. Otherwise the endpoint is connected. -/
theorem hold_cases (e : Endpoint) :
    (∃ outbound cause, e.outbound.tryPushHandshake e.name = (outbound, .error cause) ∧
      e.hold = ({ e with outbound }, .error cause)) ∨
    ∃ outbound multiplexer, e.outbound.tryPushHandshake e.name = (outbound, .ok ()) ∧
      ((∃ cause, e.multiplexer.register (.connection 0) Token.endpoint (.forOutbound outbound) =
            (multiplexer, .error cause) ∧
          e.hold = ({ e with
            multiplexer
            armed := .forOutbound outbound
            outbound := outbound.clear }, .error (.system cause))) ∨
        e.multiplexer.register (.connection 0) Token.endpoint (.forOutbound outbound) =
            (multiplexer, .ok ()) ∧
          e.hold = ({ e with
            multiplexer
            armed := .forOutbound outbound
            outbound
            socket := some (.connection 0)
            phase := .connected }.note (.connected e.name), .ok ())) := by
  unfold Endpoint.hold
  rcases e.outbound.tryPushHandshake e.name with ⟨outbound, cause | ⟨⟩⟩
  · exact Or.inl ⟨outbound, cause, rfl, rfl⟩
  · simp only
    rcases hregister : e.multiplexer.register (.connection 0) Token.endpoint (.forOutbound outbound)
      with ⟨multiplexer, cause | ⟨⟩⟩
    · exact Or.inr ⟨outbound, multiplexer, rfl, Or.inl ⟨cause, hregister, rfl⟩⟩
    · exact Or.inr ⟨outbound, multiplexer, rfl, Or.inr ⟨hregister, rfl⟩⟩

/-- Connecting gets as far as nothing, dialling, or holding a socket. Only the last may fail for lack of
memory. -/
theorem connect_cases (e : Endpoint) (address : String) (dialer : Dialer) :
    (∃ cause, e.connect address dialer = (e, .error cause) ∧ ∀ size, cause ≠ .outOfMemory size) ∨
    ∃ candidates,
      (∃ cause, e.connect address dialer = ((e.dial dialer.attempt candidates).1, .error cause) ∧
        ∀ size, cause ≠ .outOfMemory size) ∨
      e.connect address dialer = (e.dial dialer.attempt candidates).1.hold := by
  unfold Endpoint.connect
  split
  · split
    · exact Or.inl ⟨_, rfl, nofun⟩
    · next candidates _ =>
      refine Or.inr ⟨candidates, ?_⟩
      split
      · next heq =>
        rw [heq]
        exact Or.inl ⟨_, rfl, nofun⟩
      · next heq =>
        rw [heq]
        split
        · exact Or.inl ⟨_, rfl, nofun⟩
        · exact Or.inr rfl
  · exact Or.inl ⟨_, rfl, nofun⟩

/-- An endpoint to which connecting succeeds is connected. -/
theorem phase_of_connect {e' : Endpoint} {address : String} {dialer : Dialer}
    (h : e.connect address dialer = (e', .ok ())) : e'.phase = .connected := by
  rcases connect_cases e address dialer with
    ⟨cause, heq, -⟩ | ⟨candidates, ⟨cause, heq, -⟩ | heq⟩
  · cases h.symm.trans heq
  · cases h.symm.trans heq
  rcases hold_cases (e.dial dialer.attempt candidates).1 with
    ⟨outbound, cause, -, hhold⟩ | ⟨outbound, multiplexer, -, ⟨cause, -, hhold⟩ | ⟨-, hhold⟩⟩ <;>
      cases (h.symm.trans heq).trans hhold
  rfl

/-- Dialling finds the first address that accepts, and writes down the attempts that failed before. -/
theorem dial_eq (e : Endpoint) (attempt : SocketAddress → Option IoError)
    (candidates : List SocketAddress) :
    ∃ journal, e.dial attempt candidates =
      ({ e with journal }, candidates.find? (attempt · |>.isNone)) := by
  induction candidates generalizing e with
  | nil => exact ⟨e.journal, rfl⟩
  | cons candidate rest ih =>
    unfold dial
    cases hattempt : attempt candidate with
    | none => exact ⟨e.journal, by rw [List.find?_cons_of_pos (by rw [hattempt]; rfl)]⟩
    | some cause =>
      obtain ⟨journal, heq⟩ := ih (e.note (.attemptFailed cause))
      refine ⟨journal, ?_⟩
      rw [List.find?_cons_of_neg (by rw [hattempt]; exact Bool.false_ne_true)]
      exact heq

/-- It moves no bytes. -/
theorem read_written_dial (e : Endpoint) (attempt : SocketAddress → Option IoError)
    (candidates : List SocketAddress) :
    (e.dial attempt candidates).1.read = e.read ∧ (e.dial attempt candidates).1.written = e.written := by
  induction candidates generalizing e with
  | nil => exact ⟨rfl, rfl⟩
  | cons candidate rest ih =>
    unfold dial
    split
    · exact ⟨rfl, rfl⟩
    · next cause _ =>
      obtain ⟨hread, hwritten⟩ := ih (e.note (.attemptFailed cause))
      exact ⟨hread.trans ((read_note ..).trans (List.append_nil _)),
        hwritten.trans ((written_note ..).trans (List.append_nil _))⟩

/-! ### What every operation does -/

/-- The message that an entry tells of, and whether it has been queued. -/
def Entry.intake? : Entry → Option (Message × Bool)
  | decoded message => some (message, true)
  | messageLost message => some (message, false)
  | _ => none

/-- A relation between an endpoint and what it becomes that is kept by whatever an operation is made of:
changes that concern neither journal nor messages, entries of the journal, and the decoding of frames. -/
structure Follows (R : Endpoint → Endpoint → Prop) : Prop where
  quiet : ∀ {e e'}, e'.journal = e.journal → e'.messages = e.messages → R e e'
  note : ∀ e (entry : Entry), entry.intake? = none → R e (e.note entry)
  takeFrame : ∀ e frame, R e (takeFrame e frame).1
  trans : ∀ {e e' e''}, R e e' → R e' e'' → R e e''

namespace Follows

variable {R : Endpoint → Endpoint → Prop} (h : Follows R) (e : Endpoint)

include h

/-- A change that concerns neither journal nor messages, and then an entry. -/
theorem quiet_note {e e' : Endpoint} (hjournal : e'.journal = e.journal)
    (hmessages : e'.messages = e.messages) {entry : Entry} (hentry : entry.intake? = none) :
    R e (e'.note entry) :=
  h.trans (h.quiet hjournal hmessages) (h.note e' entry hentry)

theorem takeEach (frames : List (List UInt8)) : R e (e.takeEach frames).1 := by
  induction frames generalizing e with
  | nil => exact h.quiet rfl rfl
  | cons frame rest ih =>
    have hfirst := h.takeFrame e frame
    unfold Endpoint.takeEach
    rcases htake : e.takeFrame frame with ⟨e', cause | ⟨⟩⟩ <;> rw [htake] at hfirst
    · exact hfirst
    · exact h.trans hfirst (ih e')

theorem filled (reads : List ReadEvent) : R e (e.filled reads) :=
  h.quiet_note (by rfl) (by rfl) (by rfl)

theorem took (reads : List ReadEvent) : R e (e.took reads).1 := by
  refine h.trans (h.filled e reads) ?_
  rw [Endpoint.took, takeFrames_eq]
  exact h.trans (h.quiet (by rfl) (by rfl)) (h.takeEach _ _)

theorem teardown : R e e.teardown := by
  obtain ⟨multiplexer, journal, heq, -, hjournal⟩ := teardown_eq e
  rw [heq]
  rcases hjournal with rfl | ⟨cause, rfl⟩
  · exact h.quiet rfl rfl
  · exact h.trans (h.note e (.deregistrationFailed cause) rfl) (h.quiet rfl rfl)

theorem serveReadable (reads : List ReadEvent) : R e (e.serveReadable reads).1 := by
  rcases serveReadable_cases e reads with
    heq | ⟨cause, heq⟩ | ⟨cause, -, heq⟩ | ⟨-, heq | heq⟩ <;> rw [heq]
  · exact h.quiet rfl rfl
  · exact h.filled e reads
  · exact h.took e reads
  · exact h.took e reads
  · exact h.trans (h.took e reads) (h.trans (h.note _ _ rfl) (h.teardown _))

theorem serveWritable (writes : List WriteEvent) : R e (e.serveWritable writes).1 := by
  rcases serveWritable_cases e writes with heq | ⟨multiplexer, armed, heq⟩ <;> rw [heq]
  · exact h.quiet rfl rfl
  · exact h.quiet_note (by rfl) (by rfl) (by rfl)

theorem serve (readable writable : Bool) (traffic : ChatRelay.Traffic) :
    R e (e.serve readable writable traffic).1 := by
  unfold Endpoint.serve
  have hread : R e (if readable then e.serveReadable traffic.reads else (e, .ok ())).1 := by
    split
    · exact h.serveReadable e _
    · exact h.quiet rfl rfl
  rcases hserved : (if readable then e.serveReadable traffic.reads else (e, .ok ())) with
    ⟨e₁, cause | ⟨⟩⟩ <;> rw [hserved] at hread
  · exact hread
  · simp only
    split
    · exact h.trans hread (h.serveWritable e₁ _)
    · exact hread

theorem update (timeout : Option Nat) (poll : Option Nat → PollOutcome) :
    R e (e.update timeout poll).1 := by
  by_cases hphase : e.phase = .connected
  · rcases update_cases hphase timeout poll with
      ⟨-, outcome, heq⟩ |
        ⟨readable, writable, traffic, -, ⟨e', hserve, heq⟩ | ⟨e', cause, hserve, heq⟩⟩ <;> rw [heq]
    · exact h.quiet rfl rfl
    all_goals
      have hserved := h.serve e readable writable traffic
      rw [hserve] at hserved
    · exact hserved
    · exact h.trans hserved (h.trans (h.note _ _ rfl) (h.teardown _))
  · obtain ⟨cause, hcause, -⟩ := ensureConnected_ne_ok hphase
    rw [(refuses_of_ensureConnected hcause).2]
    exact h.quiet rfl rfl

theorem feed (text : List UInt8) : R e (e.feed text).1 := by
  obtain ⟨outbound, multiplexer, armed, heq, -⟩ := feed_eq e text
  rw [heq]
  exact h.quiet rfl rfl

theorem hold : R e e.hold.1 := by
  rcases hold_cases e with
    ⟨outbound, cause, -, heq⟩ | ⟨outbound, multiplexer, -, ⟨cause, -, heq⟩ | ⟨-, heq⟩⟩ <;> rw [heq]
  · exact h.quiet rfl rfl
  · exact h.quiet rfl rfl
  · exact h.quiet_note (by rfl) (by rfl) (by rfl)

theorem dial (attempt : SocketAddress → Option IoError) (candidates : List SocketAddress) :
    R e (e.dial attempt candidates).1 := by
  induction candidates generalizing e with
  | nil => exact h.quiet rfl rfl
  | cons address rest ih =>
    unfold Endpoint.dial
    split
    · exact h.quiet rfl rfl
    · exact h.trans (h.note e _ rfl) (ih _)

theorem connect (address : String) (dialer : Dialer) : R e (e.connect address dialer).1 := by
  rcases connect_cases e address dialer with
    ⟨cause, heq, -⟩ | ⟨candidates, ⟨cause, heq, -⟩ | heq⟩ <;> rw [heq]
  · exact h.quiet rfl rfl
  · exact h.dial e dialer.attempt candidates
  · exact h.trans (h.dial e dialer.attempt candidates) (h.hold _)

end Follows

/-! ### What was moved stays moved -/

/-- The second endpoint has read and written what the first had, and maybe more. -/
structure Grows (e e' : Endpoint) : Prop where
  read : e.read <+: e'.read
  written : e.written <+: e'.written

theorem Grows.of_eq {e e' : Endpoint} (hread : e'.read = e.read)
    (hwritten : e'.written = e.written) :
    Grows e e' where
  read := hread ▸ List.prefix_refl _
  written := hwritten ▸ List.prefix_refl _

theorem follows_grows : Follows Grows where
  quiet hjournal _ := .of_eq (by rw [read, read, hjournal]) (by rw [written, written, hjournal])
  note e entry _ := ⟨by rw [read_note]; exact List.prefix_append .., by
    rw [written_note]
    exact List.prefix_append ..⟩
  takeFrame e frame := by
    obtain ⟨-, hdecodes⟩ | ⟨-, -, hdecodes⟩ := takeFrame_cases e frame <;>
      exact .of_eq hdecodes.read hdecodes.written
  trans h h' := ⟨h.read.trans h'.read, h.written.trans h'.written⟩

/-! ### What was decoded waits -/

/-- The messages that the endpoint has decoded, in order, and whether each has been queued. -/
def intake (e : Endpoint) : List (Message × Bool) := e.journal.toList.filterMap Entry.intake?

@[simp] theorem intake_note (e : Endpoint) (entry : Entry) :
    (e.note entry).intake = e.intake ++ entry.intake?.toList := by
  simp only [intake, note, Array.toList_push, List.filterMap_append, List.filterMap_cons,
    List.filterMap_nil]
  cases entry.intake? <;> rfl

/-- Whatever an endpoint does, messages come to it or none does. -/
theorem follows_takesIn : Follows fun e e' => ∃ came, TakesIn messages intake came e e' where
  quiet hjournal hmessages :=
    ⟨[], .of_eq (by rw [Endpoint.intake, Endpoint.intake, hjournal]) hmessages⟩
  note e entry hentry := by
    refine ⟨[], .of_eq ?_ rfl⟩
    rw [intake_note, hentry]
    exact List.append_nil _
  takeFrame e frame := by
    unfold takeFrame
    cases Message.ofFrame frame with
    | ok message =>
      rcases htry : e.messages.tryPush message with ⟨messages, cause | ⟨⟩⟩ <;> simp only [htry]
      · exact ⟨[(message, false)], .of_tryPush htry rfl (intake_note ..)⟩
      · exact ⟨[(message, true)], .of_tryPush htry rfl (intake_note ..)⟩
    | error cause =>
      refine ⟨[], .of_eq ?_ rfl⟩
      rw [intake_note]
      exact List.append_nil _
  trans := by
    rintro e e' e'' ⟨came, h⟩ ⟨more, h'⟩
    exact ⟨came ++ more, h.trans h'⟩

/-! ### What was granted stays granted -/

/-- If no queue of the first endpoint will be refused memory, neither will that queue of the second. -/
structure Spares (e e' : Endpoint) : Prop where
  inbound : e.inbound.memory.Ample → e'.inbound.memory.Ample
  outbound : e.outbound.memory.Ample → e'.outbound.memory.Ample

theorem Spares.trans {e e' e'' : Endpoint} (h : Spares e e') (h' : Spares e' e'') : Spares e e'' :=
  ⟨h'.inbound ∘ h.inbound, h'.outbound ∘ h.outbound⟩

theorem Spares.refl (e : Endpoint) : Spares e e := ⟨id, id⟩

theorem spares_took (e : Endpoint) (reads : List ReadEvent) : Spares e (e.took reads).1 := by
  obtain ⟨messages, malformedFrames, journal, heq⟩ := takeEach_eq
    { e.filled reads with inbound := (e.filled reads).inbound.takeFrames.2 }
    (Frame.split (e.filled reads).inbound.unconsumed).1
  rw [took, takeFrames_eq, heq]
  refine ⟨fun h => ?_, id⟩
  show (e.filled reads).inbound.takeFrames.2.memory.Ample
  rw [ByteQueue.memory_takeFrames]
  exact ByteQueue.ample_receive h reads

theorem spares_teardown (e e' : Endpoint) : Spares e e'.teardown := by
  obtain ⟨multiplexer, journal, heq, -⟩ := teardown_eq e'
  rw [heq]
  exact ⟨fun _ => ByteQueue.ample_empty, fun _ => ByteQueue.ample_empty⟩

theorem spares_serveReadable (e : Endpoint) (reads : List ReadEvent) :
    Spares e (e.serveReadable reads).1 := by
  rcases serveReadable_cases e reads with
    heq | ⟨cause, heq⟩ | ⟨cause, -, heq⟩ | ⟨-, heq | heq⟩ <;> rw [heq]
  · exact .refl e
  · exact ⟨fun h => ByteQueue.ample_receive h reads, id⟩
  · exact spares_took e reads
  · exact spares_took e reads
  · exact spares_teardown e _

theorem spares_serve (e : Endpoint) (readable writable : Bool) (traffic : ChatRelay.Traffic) :
    Spares e (e.serve readable writable traffic).1 := by
  have hread : Spares e (if readable then e.serveReadable traffic.reads else (e, .ok ())).1 := by
    split
    · exact spares_serveReadable e _
    · exact .refl e
  unfold Endpoint.serve
  rcases hserved : (if readable then e.serveReadable traffic.reads else (e, .ok ())) with
    ⟨e₁, cause | ⟨⟩⟩ <;> rw [hserved] at hread
  · exact hread
  simp only
  split
  · refine hread.trans ?_
    rcases serveWritable_cases e₁ traffic.writes with heq | ⟨multiplexer, armed, heq⟩ <;> rw [heq]
    · exact .refl e₁
    · exact ⟨id, fun h => (ByteQueue.memory_send e₁.outbound traffic.writes).symm ▸ h⟩
  · exact hread

theorem spares_update (e : Endpoint) (timeout : Option Nat) (poll : Option Nat → PollOutcome) :
    Spares e (e.update timeout poll).1 := by
  by_cases hphase : e.phase = .connected
  · rcases update_cases hphase timeout poll with
      ⟨-, outcome, heq⟩ |
        ⟨readable, writable, traffic, -, ⟨e', hserve, heq⟩ | ⟨e', cause, hserve, heq⟩⟩ <;> rw [heq]
    · exact .refl e
    · have hserved := spares_serve e readable writable traffic
      rw [hserve] at hserved
      exact hserved
    · exact spares_teardown e _
  · obtain ⟨cause, hcause, -⟩ := ensureConnected_ne_ok hphase
    rw [(refuses_of_ensureConnected hcause).2]
    exact .refl e

theorem spares_feed (e : Endpoint) (text : List UInt8) : Spares e (e.feed text).1 := by
  obtain ⟨outbound, multiplexer, armed, heq, hample⟩ := feed_eq e text
  rw [heq]
  exact ⟨id, hample⟩

theorem spares_connect (e : Endpoint) (address : String) (dialer : Dialer) :
    Spares e (e.connect address dialer).1 := by
  rcases connect_cases e address dialer with
    ⟨cause, heq, -⟩ | ⟨candidates, hdialled⟩
  · rw [heq]
    exact .refl e
  obtain ⟨journal, hdial⟩ := dial_eq e dialer.attempt candidates
  rw [hdial] at hdialled
  rcases hdialled with ⟨cause, heq, -⟩ | heq <;> rw [heq]
  · exact ⟨id, id⟩
  have hample {outbound : ByteQueue} {outcome : Except RelayError Unit}
      (hqueue : e.outbound.tryPushHandshake e.name = (outbound, outcome))
      (h : e.outbound.memory.Ample) : outbound.memory.Ample := by
    have hpush := ByteQueue.ample_tryPushHandshake e.name h
    rw [hqueue] at hpush
    exact hpush
  rcases hold_cases { e with journal } with
    ⟨outbound, cause, hqueue, hhold⟩ | ⟨outbound, multiplexer, hqueue, ⟨cause, -, hhold⟩ | ⟨-, hhold⟩⟩ <;>
      rw [hhold] <;> exact ⟨id, fun h => show outbound.memory.Ample from hample hqueue h⟩

end Endpoint

end ChatRelay
