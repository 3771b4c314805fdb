import ChatRelay.Proofs.Endpoint.Operations

/-!
# Sessions of an endpoint

An endpoint with what its hosting application has fed it and taken from it. While it is connected, what
it has written and is still to write are its handshake and the text it was fed, with newlines made
terminators; and what it has decoded are the frames of all that it has read.

In front of the handshake there may be more. An attempt to connect that finds no memory for the terminator of
the handshake leaves the name queued, and the next attempt queues the handshake behind it.

- `Endpoint.names`: what such attempts leave.
- `Endpoint.Blank`: the invariant of an endpoint that has not connected, kept by `Blank.connect`.
- `Endpoint.Streams`: the invariant of a connected endpoint, kept by `Streams.update` and `Streams.feed`.
- `Endpoint.Session.step`, `Endpoint.Session.run`: the events of a session.
- `Endpoint.Session.Sound`: the invariant of a session (`sound_step`, `sound_run`).
- `Endpoint.Session.grows_step`, `Endpoint.Session.spares_step`: what no event takes back.
-/

namespace ChatRelay

namespace Endpoint

/-! ### Connected endpoints -/

/-- What is left of handshakes whose terminator was refused: the name, once for each. -/
def names (name : String) (count : Nat) : List UInt8 :=
  (List.replicate count (Text.utf8 name)).flatten

theorem names_succ (name : String) (count : Nat) :
    names name (count + 1) = names name count ++ Text.utf8 name := by
  rw [names, List.replicate_succ', List.flatten_append, List.flatten_singleton]
  rfl

theorem mem_names {name : String} {count : Nat} {b : UInt8} (h : b ∈ names name count) :
    b ∈ Text.utf8 name := by
  obtain ⟨copy, hcopy, hb⟩ := List.mem_flatten.1 h
  exact List.eq_of_mem_replicate hcopy ▸ hb

/-- The streams of a connected endpoint, given how many names were left in front of its handshake, the text
it was fed and the messages that were taken. -/
structure Streams (name : String) (left : Nat) (fed : List UInt8) (popped : List Message)
    (e : Endpoint) : Prop where
  named : e.name = name
  framable : DisplayName.isFramable name
  outbound : e.written ++ e.outbound.unconsumed =
    names name left ++ Frame.handshake name ++ Frame.ofLines fed
  inbound : e.inbound.unconsumed = (Frame.split e.read).2
  messages : popped ++ e.messages.toList = Message.ofFrames (Frame.split e.read).1
  malformed : e.malformedFrames = Message.malformed (Frame.split e.read).1

variable {name : String} {left : Nat} {fed : List UInt8} {popped : List Message} {e : Endpoint}

/-- An endpoint that has closed, or is connected with its streams in order. -/
def Faithful (name : String) (left : Nat) (fed : List UInt8) (popped : List Message)
    (e : Endpoint) : Prop :=
  e.phase = .closed ∨ e.phase = .connected ∧ Streams name left fed popped e

theorem Streams.syncInterest (h : Streams name left fed popped e) :
    Streams name left fed popped e.syncInterest.1 := by
  obtain ⟨multiplexer, armed, heq⟩ := syncInterest_eq e
  rw [heq]
  exact ⟨h.named, h.framable, h.outbound, h.inbound, h.messages, h.malformed⟩

/-- The frames and the tail of what a connected endpoint has read, by those of what it has read since. -/
theorem Streams.split_read (h : Streams name left fed popped e) (reads : List ReadEvent) :
    Frame.split (e.filled reads).read =
      ((Frame.split e.read).1 ++ (Frame.split (e.filled reads).inbound.unconsumed).1,
        (Frame.split (e.filled reads).inbound.unconsumed).2) := by
  have hread : (e.filled reads).read = e.read ++ (e.inbound.receive reads).received := read_note _ _
  have hqueue : (e.filled reads).inbound.unconsumed =
    e.inbound.unconsumed ++ (e.inbound.receive reads).received := e.inbound.unconsumed_receive reads
  rw [hread, hqueue, Frame.split_append, h.inbound]

/-- What was read is decoded as far as it goes, if there is memory for it. -/
theorem Streams.took (h : Streams name left fed popped e) {reads : List ReadEvent}
    (hok : (e.took reads).2 = .ok ()) : Streams name left fed popped (e.took reads).1 := by
  have hsplit := h.split_read reads
  obtain ⟨tail, htail, ⟨-, hdecodes⟩ | ⟨_, _, _, -, -, ⟨size, hfailed⟩, -⟩⟩ :=
    takeFrames_cases (e.filled reads)
  · change Decodes _ _ (e.took reads).1 at hdecodes
    constructor
    · exact hdecodes.name.trans h.named
    · exact h.framable
    · rw [hdecodes.written, hdecodes.outbound]
      show (e.filled reads).written ++ e.outbound.unconsumed = _
      rw [filled, written_note]
      exact (congrArg (· ++ _) (List.append_nil _)).trans h.outbound
    · rw [hdecodes.inbound, hdecodes.read]
      show tail.unconsumed = (Frame.split (e.filled reads).read).2
      rw [hsplit, htail]
    · rw [hdecodes.messages, hdecodes.read, ← List.append_assoc]
      show popped ++ e.messages.toList ++ Message.ofFrames _ =
        Message.ofFrames (Frame.split (e.filled reads).read).1
      rw [hsplit, h.messages, Message.ofFrames_append]
    · rw [hdecodes.malformed, hdecodes.read]
      show e.malformedFrames + Message.malformed _ =
        Message.malformed (Frame.split (e.filled reads).read).1
      rw [hsplit, h.malformed, Message.malformed_append]
  · cases hfailed.symm.trans hok

/-- All complete frames are decoded in the same phase. -/
theorem phase_took (e : Endpoint) (reads : List ReadEvent) : (e.took reads).1.phase = e.phase := by
  obtain ⟨tail, -, ⟨-, hdecodes⟩ | ⟨_, _, _, -, -, -, hdecodes⟩⟩ := takeFrames_cases (e.filled reads) <;>
    exact hdecodes.phase

/-- A pass that does not fail keeps the streams in order, or closes the endpoint. -/
theorem Streams.serveReadable (h : Streams name left fed popped e) (hphase : e.phase = .connected)
    {reads : List ReadEvent} {e' : Endpoint} (hok : e.serveReadable reads = (e', .ok ())) :
    Faithful name left fed popped e' := by
  rcases serveReadable_cases e reads with
    heq | ⟨cause, heq⟩ | ⟨cause, -, heq⟩ | ⟨htook, heq | heq⟩ <;> rw [hok] at heq <;> cases heq
  · exact Or.inr ⟨hphase, h⟩
  · exact Or.inr ⟨(phase_took e reads).trans hphase, h.took htook⟩
  · exact Or.inl rfl

/-- A pass of writing keeps the streams in order. -/
theorem Faithful.serveWritable (h : Faithful name left fed popped e) (writes : List WriteEvent) :
    Faithful name left fed popped (e.serveWritable writes).1 := by
  rcases serveWritable_cases e writes with heq | ⟨multiplexer, armed, heq⟩
  · rw [heq]
    exact h
  rw [heq]
  rcases h with hclosed | ⟨hconnected, h⟩
  · exact Or.inl hclosed
  refine Or.inr ⟨hconnected, h.named, h.framable, ?_, ?_, ?_, ?_⟩
  · rw [written_note, List.append_assoc]
    exact (congrArg _ (e.outbound.written_append_unconsumed_send writes)).trans h.outbound
  · rw [read_note]
    exact h.inbound.trans (congrArg (fun bytes => (Frame.split bytes).2) (List.append_nil _).symm)
  · rw [read_note]
    exact h.messages.trans
      (congrArg (fun bytes => Message.ofFrames (Frame.split bytes).1) (List.append_nil _).symm)
  · rw [read_note]
    exact h.malformed.trans
      (congrArg (fun bytes => Message.malformed (Frame.split bytes).1) (List.append_nil _).symm)

/-- Serving the socket without a failure keeps the streams in order, or closes the endpoint. -/
theorem Streams.serve (h : Streams name left fed popped e) (hphase : e.phase = .connected)
    {readable writable : Bool} {traffic : ChatRelay.Traffic} {e' : Endpoint}
    (hok : e.serve readable writable traffic = (e', .ok ())) : Faithful name left fed popped e' := by
  unfold Endpoint.serve at hok
  have hwrite : ∀ e₁, Faithful name left fed popped e₁ →
      (if writable then e₁.serveWritable traffic.writes else (e₁, .ok ())) = (e', .ok ()) →
      Faithful name left fed popped e' := by
    intro e₁ h₁ heq
    split at heq
    · obtain rfl : _ = e' := congrArg Prod.fst heq
      exact h₁.serveWritable traffic.writes
    · cases heq
      exact h₁
  cases readable with
  | false => exact hwrite e (Or.inr ⟨hphase, h⟩) hok
  | true =>
    simp only [if_true] at hok
    obtain ⟨e₁, outcome, hread⟩ : ∃ e₁ outcome, e.serveReadable traffic.reads = (e₁, outcome) :=
      ⟨_, _, rfl⟩
    rw [hread] at hok
    cases outcome with
    | error cause => cases hok
    | ok => exact hwrite e₁ (h.serveReadable hphase hread) hok

/-- A cycle keeps the streams in order, or closes the endpoint. -/
theorem Streams.update (h : Streams name left fed popped e) (hphase : e.phase = .connected)
    (timeout : Option Nat) (poll : Option Nat → PollOutcome) :
    Faithful name left fed popped (e.update timeout poll).1 := by
  rcases update_cases hphase timeout poll with
    ⟨-, outcome, heq⟩ | ⟨_, _, _, -, ⟨e', hserve, heq⟩ | ⟨e', cause, -, heq⟩⟩ <;> rw [heq]
  · exact Or.inr ⟨hphase, h⟩
  · exact h.serve hphase hserve
  · exact Or.inl rfl

/-- The bytes that an endpoint sends hold no newline, since its name holds none. -/
theorem Streams.separator_not_mem (h : Streams name left fed popped e) :
    Frame.separator ∉ e.outbound.unconsumed := by
  have hname : Frame.separator ∉ Text.utf8 name := ((DisplayName.isFramable_iff name).1 h.framable).2
  intro hmem
  have hall : Frame.separator ∈ names name left ++ Frame.handshake name ++ Frame.ofLines fed := by
    rw [← h.outbound]
    exact List.mem_append_right _ hmem
  rcases List.mem_append.1 hall with hfront | hfed
  · rcases List.mem_append.1 hfront with hleft | hhandshake
    · exact hname (mem_names hleft)
    · rcases List.mem_append.1 hhandshake with hmem | hmem
      · exact hname hmem
      · exact absurd (List.mem_singleton.1 hmem) (by decide)
  · exact Frame.separator_not_mem_ofLines fed hfed

/-- Text that is fed waits behind what waited, with its newlines made terminators. Without memory for it
nothing changes. -/
theorem Streams.feed (h : Streams name left fed popped e) (hphase : e.phase = .connected)
    (text : List UInt8) :
    (e.feed text).1.phase = .connected ∧
      Streams name left (if e.accepts text then fed ++ text else fed) popped (e.feed text).1 := by
  obtain ⟨haccepts, hlive, heq⟩ | ⟨haccepts, hlive, size, heq⟩ := feed_cases hphase text <;> rw [heq]
  · rw [if_pos haccepts]
    obtain ⟨multiplexer, armed, hsync⟩ := syncInterest_eq
      { e with outbound := (e.outbound.push text).terminateLines }
    refine ⟨by rw [hsync]; exact hphase, Streams.syncInterest ?_⟩
    refine ⟨h.named, h.framable, ?_, h.inbound, h.messages, h.malformed⟩
    -- newlines are replaced in all that waits, which changes only the new text
    show e.written ++ (e.outbound.push text).terminateLines.unconsumed = _
    rw [ByteQueue.unconsumed_terminateLines, hlive, Frame.ofLines_append,
      Frame.ofLines_of_not_mem h.separator_not_mem, ← List.append_assoc, h.outbound,
      Frame.ofLines_append, List.append_assoc _ (Frame.ofLines fed)]
  · rw [if_neg haccepts]
    refine ⟨hphase, h.named, h.framable, ?_, h.inbound, h.messages, h.malformed⟩
    exact (congrArg (e.written ++ ·) hlive).trans h.outbound

/-! ### Endpoints that have not connected -/

/-- An endpoint that has not connected has done nothing, but for the names that it has left. -/
structure Blank (name : String) (left : Nat) (e : Endpoint) : Prop where
  phase : e.phase = .unconnected
  named : e.name = name
  read : e.read = []
  written : e.written = []
  inbound : e.inbound.unconsumed = []
  outbound : e.outbound.unconsumed = names name left
  messages : e.messages.toList = []
  malformed : e.malformedFrames = 0

/-- Dialling writes down the attempts that failed. -/
theorem Blank.dial (h : Blank name left e) (attempt : SocketAddress → Option IoError)
    (candidates : List SocketAddress) : Blank name left (e.dial attempt candidates).1 := by
  obtain ⟨hread, hwritten⟩ := read_written_dial e attempt candidates
  obtain ⟨journal, heq⟩ := dial_eq e attempt candidates
  rw [heq] at hread hwritten ⊢
  exact ⟨h.phase, h.named, hread.trans h.read, hwritten.trans h.written, h.inbound, h.outbound,
    h.messages, h.malformed⟩

/-- What is queued of a handshake does not concern the other fields. -/
theorem Blank.requeue (h : Blank name left e) {outbound : ByteQueue} {left' : Nat}
    (houtbound : outbound.unconsumed = names name left') : Blank name left' { e with outbound } :=
  ⟨h.phase, h.named, h.read, h.written, h.inbound, houtbound, h.messages, h.malformed⟩

/-- **What connecting makes of an endpoint that has not connected.** It has its handshake to send, behind
the names that were left, or it is as it was; only for lack of memory is one name more left. -/
inductive Attempt (name : String) (left : Nat) : Endpoint × Except RelayError Unit → Prop where
  | connected {e : Endpoint} (phase : e.phase = .connected) (streams : Streams name left [] [] e) :
    Attempt name left (e, .ok ())
  | failed {e : Endpoint} {cause : RelayError} {left' : Nat} (hle : left' ≤ left)
    (blank : Blank name left' e) : Attempt name left (e, .error cause)
  | shortage {e : Endpoint} (size : Nat) (blank : Blank name (left + 1) e) :
    Attempt name left (e, .error (.outOfMemory size))

/-- An endpoint that holds a socket has its handshake to send. -/
theorem Blank.hold (h : Blank name left e) : Attempt name left e.hold := by
  have hpush := ByteQueue.tryPushHandshake_cases e.name e.outbound
  rcases hold_cases e with ⟨outbound, cause, hqueue, heq⟩ | ⟨outbound, multiplexer, hqueue, hcases⟩ <;>
    rw [hqueue] at hpush
  · rw [heq]
    obtain ⟨-, hok, -⟩ | ⟨-, hsame⟩ | ⟨-, ⟨size, hsize⟩, hlive | hlive⟩ := hpush
    · cases hok
    · cases hsame
      exact .failed (Nat.le_refl _) h
    · exact .failed (Nat.le_refl _) (h.requeue (hlive.trans h.outbound))
    · cases hsize
      refine .shortage size (h.requeue ?_)
      rw [names_succ, ← h.outbound, ← h.named]
      exact hlive
  · obtain ⟨hcheck, -, hbytes⟩ | ⟨-, hsame⟩ | ⟨-, ⟨size, hsize⟩, -⟩ := hpush
    · rcases hcases with ⟨cause, -, heq⟩ | ⟨-, heq⟩ <;> rw [heq]
      · refine .failed (Nat.zero_le _) ?_
        exact ⟨h.phase, h.named, h.read, h.written, h.inbound, ByteQueue.unconsumed_clear outbound,
          h.messages, h.malformed⟩
      · rw [h.named] at hcheck hbytes
        refine .connected rfl ⟨h.named, (DisplayName.check_eq_ok_iff name).1 hcheck, ?_, ?_, ?_, ?_⟩
        · rw [written_note]
          show e.written ++ [] ++ outbound.unconsumed = names name left ++ Frame.handshake name ++ []
          rw [h.written, List.append_nil, List.append_nil, ← h.outbound]
          exact hbytes.trans (List.append_assoc ..)
        · rw [read_note]
          show e.inbound.unconsumed = (Frame.split (e.read ++ [])).2
          rw [h.inbound, h.read]
          rfl
        · rw [read_note]
          show [] ++ e.messages.toList = Message.ofFrames (Frame.split (e.read ++ [])).1
          rw [h.messages, h.read]
          rfl
        · rw [read_note]
          show e.malformedFrames = Message.malformed (Frame.split (e.read ++ [])).1
          rw [h.malformed, h.read]
          rfl
    · cases hsame
    · cases hsize

/-- With memory for it the handshake is queued, or its name is refused. -/
theorem hold_ne_outOfMemory (h : e.outbound.memory.Ample) {size : Nat} :
    e.hold.2 ≠ .error (.outOfMemory size) := by
  rcases hold_cases e with
    ⟨outbound, cause, hqueue, heq⟩ | ⟨outbound, multiplexer, -, ⟨cause, -, heq⟩ | ⟨-, heq⟩⟩ <;> rw [heq]
  · obtain hcheck | hcheck := ByteQueue.check_cases e.name
    · cases (congrArg Prod.snd hqueue).symm.trans (ByteQueue.tryPushHandshake_of_ample h hcheck).1
    · rw [ByteQueue.tryPushHandshake, hcheck] at hqueue
      cases hqueue
      intro hsize
      cases hsize
  · intro hsize
    cases hsize
  · intro hsize
    cases hsize

theorem connect_ne_outOfMemory (h : e.outbound.memory.Ample) (address : String) (dialer : Dialer)
    {size : Nat} : (e.connect address dialer).2 ≠ .error (.outOfMemory size) := by
  rcases connect_cases e address dialer with
    ⟨cause, heq, hcause⟩ | ⟨candidates, ⟨cause, heq, hcause⟩ | heq⟩ <;> rw [heq]
  · exact fun hsize => hcause size (Except.error.inj hsize)
  · exact fun hsize => hcause size (Except.error.inj hsize)
  · obtain ⟨journal, hdial⟩ := dial_eq e dialer.attempt candidates
    rw [hdial]
    exact hold_ne_outOfMemory (e := { e with journal }) h

theorem Blank.connect (h : Blank name left e) (address : String) (dialer : Dialer) :
    Attempt name left (e.connect address dialer) := by
  rcases connect_cases e address dialer with
    ⟨cause, heq, -⟩ | ⟨candidates, ⟨cause, heq, -⟩ | heq⟩ <;> rw [heq]
  · exact .failed (Nat.le_refl _) h
  · exact .failed (Nat.le_refl _) (h.dial dialer.attempt candidates)
  · exact (h.dial dialer.attempt candidates).hold

/-! ### Sessions -/

/-- Something that happens to an endpoint. -/
inductive Event where
  /-- The endpoint is told to connect. -/
  | connect (address : String) (dialer : Dialer)
  /-- The hosting application feeds text. -/
  | feed (text : List UInt8)
  /-- A cycle of waiting and serving. -/
  | update (timeout : Option Nat) (poll : Option Nat → PollOutcome)
  /-- The hosting application takes a message. -/
  | pop

/-- An endpoint and its hosting application. -/
structure Session where
  endpoint : Endpoint
  /-- The messages that were taken, in order. -/
  popped : List Message := []
  /-- All text that was fed while the endpoint was connected. A text for which there was no memory was
  not. -/
  fed : List UInt8 := []
  /-- How many attempts to connect have failed for lack of memory. -/
  shortages : Nat := 0

namespace Session

/-- A new endpoint, with a multiplexer and an allocator that will answer in any way. -/
def start (settings : EndpointSettings) (multiplexer : Multiplexer) (supply : Supply := {}) : Session where
  endpoint := {
    name := settings.name
    eventCapacity := settings.eventCapacity
    multiplexer
    inbound := .ofMemory supply.inbound
    outbound := .ofMemory supply.outbound
    messages := .ofMemory supply.messages }

/-- How many shortages of memory an outcome tells of. -/
def shortagesIn : Except RelayError Unit → Nat
  | .error (.outOfMemory _) => 1
  | _ => 0

/-- What an event does. -/
def step (s : Session) : Event → Session
  | .connect address dialer =>
    let (endpoint, outcome) := s.endpoint.connect address dialer
    { s with endpoint, shortages := s.shortages + shortagesIn outcome }
  | .feed text =>
    { s with
      endpoint := (s.endpoint.feed text).1
      fed := if s.endpoint.accepts text then s.fed ++ text else s.fed }
  | .update timeout poll => { s with endpoint := (s.endpoint.update timeout poll).1 }
  | .pop =>
    match s.endpoint.pop? with
    | none => s
    | some (message, endpoint) => { s with endpoint, popped := s.popped ++ [message] }

/-- What a run of events does. -/
def run (s : Session) (events : List Event) : Session := events.foldl step s

/-- All messages that the endpoint has decoded: those that were taken and those that wait. -/
def decoded (s : Session) : List Message := s.popped ++ s.endpoint.messages.toList

/-- An endpoint that has not connected has done nothing, and a connected one has its streams in order. No
more names are left than there were shortages. -/
inductive Sound (name : String) (s : Session) : Prop where
  | unconnected {left : Nat} (hle : left ≤ s.shortages) (blank : Blank name left s.endpoint)
    (popped : s.popped = []) (fed : s.fed = [])
  | connected {left : Nat} (hle : left ≤ s.shortages) (phase : s.endpoint.phase = .connected)
    (streams : Streams name left s.fed s.popped s.endpoint)
  | closed (phase : s.endpoint.phase = .closed)

theorem sound_start (settings : EndpointSettings) (multiplexer : Multiplexer) (supply : Supply) :
    (start settings multiplexer supply).Sound settings.name :=
  .unconnected (Nat.zero_le _) ⟨rfl, rfl, rfl, rfl, rfl, rfl, rfl, rfl⟩ rfl rfl

variable {s : Session}

/-- The streams of a session that is connected. -/
theorem Sound.streams (h : s.Sound name) (hphase : s.endpoint.phase = .connected) :
    ∃ left ≤ s.shortages, Streams name left s.fed s.popped s.endpoint := by
  cases h with
  | unconnected _ blank => exact absurd (blank.phase.symm.trans hphase) (by decide)
  | connected hle _ streams => exact ⟨_, hle, streams⟩
  | closed phase => exact absurd (phase.symm.trans hphase) (by decide)

/-- Before it has connected, its endpoint has done nothing. -/
theorem Sound.blank (h : s.Sound name) (hphase : s.endpoint.phase = .unconnected) :
    ∃ left ≤ s.shortages, Blank name left s.endpoint := by
  cases h with
  | unconnected hle blank => exact ⟨_, hle, blank⟩
  | connected _ phase => exact absurd (phase.symm.trans hphase) (by decide)
  | closed phase => exact absurd (phase.symm.trans hphase) (by decide)

/-- Connecting changes the endpoint, and counts if it fails for lack of memory. -/
theorem step_connect (s : Session) (address : String) (dialer : Dialer) :
    s.step (.connect address dialer) = { s with
      endpoint := (s.endpoint.connect address dialer).1
      shortages := s.shortages + shortagesIn (s.endpoint.connect address dialer).2 } := rfl

/-- Taking a message moves it from the queue to those that were taken. -/
theorem step_pop (s : Session) :
    (s.step .pop).decoded = s.decoded ∧ (s.step .pop).fed = s.fed ∧
      ∃ messages, (s.step .pop).endpoint = { s.endpoint with messages } ∧
        (s.step .pop).shortages = s.shortages := by
  unfold step pop?
  cases hpop : s.endpoint.messages.pop? with
  | none => exact ⟨rfl, rfl, s.endpoint.messages, rfl, rfl⟩
  | some taken =>
    obtain ⟨message, rest⟩ := taken
    refine ⟨?_, rfl, rest, rfl, rfl⟩
    show s.popped ++ [message] ++ rest.toList = s.popped ++ s.endpoint.messages.toList
    rw [List.append_assoc, List.singleton_append, ← MessageQueue.toList_of_pop? hpop]

/-- Unless it is connected, only connecting changes an endpoint. -/
theorem step_of_ne_connected (h : s.endpoint.phase ≠ .connected) :
    (∀ text, s.step (.feed text) = s) ∧ ∀ timeout poll, s.step (.update timeout poll) = s := by
  obtain ⟨cause, hcause, -⟩ := ensureConnected_ne_ok h
  obtain ⟨hfeed, hupdate⟩ := refuses_of_ensureConnected hcause
  constructor
  · intro text
    simp only [step, hfeed, accepts, decide_eq_false h, Bool.false_and, Bool.false_eq_true, if_false]
  · intro timeout poll
    simp only [step, hupdate]

/-- Connecting is possible once. -/
theorem step_connect_of_ne (h : s.endpoint.phase ≠ .unconnected) (address : String)
    (dialer : Dialer) :
    s.step (.connect address dialer) = s := by
  simp only [step, Endpoint.connect, if_neg h]
  rfl

/-- Connecting either connects it or leaves it as it was, but for the names in front. -/
theorem Sound.connect (h : s.Sound name) (address : String) (dialer : Dialer) :
    (s.step (.connect address dialer)).Sound name := by
  by_cases hphase : s.endpoint.phase = .unconnected
  · cases h with
    | connected _ phase => exact absurd (phase.symm.trans hphase) (by decide)
    | closed phase => exact absurd (phase.symm.trans hphase) (by decide)
    | unconnected hle blank popped fed =>
      have hattempt := blank.connect address dialer
      rw [step_connect]
      revert hattempt
      generalize s.endpoint.connect address dialer = attempted
      intro hattempt
      cases hattempt with
      | connected phase streams =>
        refine .connected (Nat.le_add_right_of_le hle) phase ?_
        rw [popped, fed]
        exact streams
      | failed hless blank =>
        exact .unconnected (Nat.le_add_right_of_le (Nat.le_trans hless hle)) blank popped fed
      | shortage size blank => exact .unconnected (Nat.succ_le_succ hle) blank popped fed
  · rw [step_connect_of_ne hphase]
    exact h

/-- Taking a message changes what waits and what was taken. -/
theorem Sound.pop (h : s.Sound name) : (s.step .pop).Sound name := by
  obtain ⟨hdecoded, hfed, messages, heq, hshortages⟩ := step_pop s
  cases h with
  | unconnected hle blank popped fed =>
    -- there is nothing to take before anything was read
    have hnone : s.endpoint.pop? = none := by
      rw [pop?, (s.endpoint.messages.pop?_eq_none_iff).2 blank.messages]
      rfl
    simp only [step, hnone]
    exact .unconnected hle blank popped fed
  | connected hle phase streams =>
    unfold decoded at hdecoded
    rw [heq] at hdecoded
    refine .connected (Nat.le_trans hle (Nat.le_of_eq hshortages.symm)) (by rw [heq]; exact phase) ?_
    rw [heq, hfed]
    exact ⟨streams.named, streams.framable, streams.outbound, streams.inbound,
      hdecoded.trans streams.messages, streams.malformed⟩
  | closed phase => exact .closed (by rw [heq]; exact phase)

/-- **Every event keeps the invariant.** -/
theorem sound_step (h : s.Sound name) (event : Event) : (s.step event).Sound name := by
  cases event with
  | connect address dialer => exact h.connect address dialer
  | feed text =>
    by_cases hphase : s.endpoint.phase = .connected
    · obtain ⟨left, hle, hstreams⟩ := h.streams hphase
      obtain ⟨hconnected, hfed⟩ := hstreams.feed hphase text
      exact .connected hle hconnected hfed
    · rw [(step_of_ne_connected hphase).1]
      exact h
  | update timeout poll =>
    by_cases hphase : s.endpoint.phase = .connected
    · obtain ⟨left, hle, hstreams⟩ := h.streams hphase
      rcases hstreams.update hphase timeout poll with hclosed | ⟨hconnected, hlater⟩
      · exact .closed hclosed
      · exact .connected hle hconnected hlater
    · rw [(step_of_ne_connected hphase).2]
      exact h
  | pop => exact h.pop

/-- **Every session has it.** -/
theorem sound_run (h : s.Sound name) (events : List Event) : (s.run events).Sound name := by
  induction events generalizing s with
  | nil => exact h
  | cons event rest ih => exact ih (sound_step h event)

/-! ### What no event takes back -/

/-- An event takes back nothing that was read or written. -/
theorem grows_step (s : Session) (event : Event) : Grows s.endpoint (s.step event).endpoint := by
  cases event with
  | connect address dialer => exact follows_grows.connect s.endpoint address dialer
  | feed text => exact follows_grows.feed s.endpoint text
  | update timeout poll => exact follows_grows.update s.endpoint timeout poll
  | pop =>
    obtain ⟨-, -, messages, heq, -⟩ := step_pop s
    rw [heq]
    exact .of_eq rfl rfl

/-- Nor memory that is granted. -/
theorem spares_step (s : Session) (event : Event) : Spares s.endpoint (s.step event).endpoint := by
  cases event with
  | connect address dialer => exact spares_connect s.endpoint address dialer
  | feed text => exact spares_feed s.endpoint text
  | update timeout poll => exact spares_update s.endpoint timeout poll
  | pop =>
    obtain ⟨-, -, messages, heq, -⟩ := step_pop s
    rw [heq]
    exact ⟨id, id⟩

/-- A queue to which all memory is granted from the start is granted it at any time. -/
theorem spares_run (s : Session) (events : List Event) : Spares s.endpoint (s.run events).endpoint := by
  induction events generalizing s with
  | nil => exact .refl _
  | cons event rest ih => exact (spares_step s event).trans (ih (s.step event))

/-- An attempt to connect does not fail for lack of memory if all is granted to the output. -/
theorem shortages_step (h : s.endpoint.outbound.memory.Ample) (event : Event) :
    (s.step event).shortages = s.shortages := by
  cases event with
  | connect address dialer =>
    show s.shortages + shortagesIn (s.endpoint.connect address dialer).2 = s.shortages
    unfold shortagesIn
    split
    · next size heq => exact absurd heq (connect_ne_outOfMemory h address dialer)
    · rfl
  | feed text => rfl
  | update timeout poll => rfl
  | pop => exact (step_pop s).2.2.choose_spec.2

theorem shortages_run (h : s.endpoint.outbound.memory.Ample) (events : List Event) :
    (s.run events).shortages = s.shortages := by
  induction events generalizing s with
  | nil => rfl
  | cons event rest ih =>
    exact (ih ((spares_step s event).outbound h)).trans (shortages_step h event)

end Session

end Endpoint

end ChatRelay
