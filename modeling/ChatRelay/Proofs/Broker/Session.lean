import ChatRelay.Proofs.Broker.Invariant

/-!
# Sessions of a broker

A session is a broker with what its hosting application has fed it and taken from it. The events of a
session come in any order, with any outcome of every read, write, accept and wait; the multiplexer and
the allocator may refuse whatever they want to.

- `Session.step`, `Session.run`: the events of a session.
- `Session.Sound`: the invariant, which every event keeps (`sound_step`) and every session has
  (`sound_run`).
- `Session.Keeping`: no message is ever lost, if there is memory for all (`keeping_run`).
- `granted_run`: a broker that is granted all memory from the start is granted it at any time.
-/

namespace ChatRelay.Broker

open ChatRelay.Broker.Traffic

/-- Something that happens to a broker. -/
inductive Event where
  /-- Listening begins. -/
  | listen (port : Nat) (setup : Except ListenFault Unit)
  /-- The listening socket is ready. -/
  | accept (attempts : List AcceptEvent)
  /-- A peer can be read from. -/
  | readable (id : PeerId) (reads : List ReadEvent)
  /-- A peer can be written to. -/
  | writable (id : PeerId) (writes : List WriteEvent)
  /-- A peer is dropped. -/
  | close (id : PeerId)
  /-- A cycle of waiting and serving. -/
  | update (timeout : Option Nat) (poll : Option Nat → PollOutcome)
  /-- The hosting application feeds text. -/
  | feed (text : List UInt8)
  /-- The hosting application takes a message. -/
  | pop

/-- A broker and its hosting application. -/
structure Session where
  broker : Broker
  /-- The messages that were taken, in order. -/
  popped : List Message := []
  /-- All text that was fed. A text for which there was no memory was not. -/
  fed : List UInt8 := []

namespace Session

/-- A new broker, with a multiplexer and an allocator that will answer in any way. -/
def start (settings : BrokerSettings) (multiplexer : Multiplexer) (supply : Supply := {}) : Session where
  broker := { Broker.ofSettings settings supply with multiplexer }

/-- What an event does. -/
def step (s : Session) : Event → Session
  | .listen port setup => { s with broker := (s.broker.listen port setup).1 }
  | .accept attempts => { s with broker := (s.broker.acceptAll attempts).1 }
  | .readable id reads => { s with broker := (s.broker.serveReadable id reads).1 }
  | .writable id writes => { s with broker := s.broker.serveWritable id writes }
  | .close id => { s with broker := s.broker.close id }
  | .update timeout poll => { s with broker := (s.broker.update timeout poll).1 }
  | .feed text =>
    match s.broker.feed text with
    | (broker, .ok ()) => { s with broker, fed := s.fed ++ text }
    | (broker, .error _) => { s with broker }
  | .pop =>
    match s.broker.pop? with
    | none => s
    | some (message, broker) => { s with broker, popped := s.popped ++ [message] }

/-- What a run of events does. -/
def run (s : Session) (events : List Event) : Session := events.foldl step s

/-! ### The invariant -/

/-- The traffic accounts for the peers, for the messages, of which those that were queued were taken or
wait, and for the text that was fed. -/
structure Sound (host : String) (s : Session) : Prop where
  author : s.broker.author = host
  consistent : s.broker.Consistent
  messages : s.broker.intake.map Prod.fst = Traffic.messages s.broker.traffic
  queued : s.popped ++ s.broker.messages.toList = keptOf s.broker.intake
  /-- The lines without a sender are those that the fed text completes. -/
  hosted : linesFrom s.broker.traffic none =
    (Frame.split (Frame.ofLines s.fed)).1.map fun body => ⟨none, host, body⟩
  waiting : s.broker.localLines.unconsumed = (Frame.split (Frame.ofLines s.fed)).2

variable {host : String} {s : Session}

theorem sound_start (settings : BrokerSettings) (multiplexer : Multiplexer) (supply : Supply) :
    (start settings multiplexer supply).Sound settings.serverAuthor where
  author := rfl
  consistent :=
    { fresh := fun _ _ => silent_nil
      named := fun _ => rfl
      distinct := by
        intro id id' p p' hp
        rw [show (start settings multiplexer supply).broker.peers.get? id = none from
          PeerTable.get?_ofLimit ..] at hp
        cases hp
      accords := by
        intro id p hp
        rw [show (start settings multiplexer supply).broker.peers.get? id = none from
          PeerTable.get?_ofLimit ..] at hp
        cases hp }
  messages := rfl
  queued := rfl
  hosted := rfl
  waiting := rfl

/-- What only serves peers keeps the invariant. -/
theorem Sound.serves (h : s.Sound host) {b : Broker} (hb : Serves s.broker b) :
    Sound host { s with broker := b } := by
  obtain ⟨entries, htraffic, ⟨came, hnew, hcame⟩, hlines⟩ := hb.grows
  constructor
  · exact hb.author.trans h.author
  · exact hb.consistent h.consistent
  · show b.intake.map Prod.fst = Traffic.messages b.traffic
    rw [htraffic, messages_append, hcame.intake, List.map_append, h.messages, hnew]
  · show s.popped ++ b.messages.toList = keptOf b.intake
    rw [hcame.intake, hcame.queued, keptOf_append, ← List.append_assoc, h.queued]
  · show linesFrom b.traffic none = _
    rw [htraffic, linesFrom_append, hlines, List.append_nil]
    exact h.hosted
  · show b.localLines.unconsumed = _
    rw [hb.localLines]
    exact h.waiting

/-- The lines of the hosting application are no messages for it. -/
theorem messages_relayed_none (author : String) (bodies : List (List UInt8)) :
    Traffic.messages (bodies.map fun body => .relayed none author body) = [] := by
  induction bodies with
  | nil => rfl
  | cons body rest ih => exact ih

theorem linesFrom_relayed_none (author : String) (bodies : List (List UInt8)) :
    linesFrom (bodies.map fun body => .relayed none author body) none =
      bodies.map fun body => ⟨none, author, body⟩ := by
  induction bodies with
  | nil => rfl
  | cons body rest ih => exact congrArg (_ :: ·) ih

theorem Sound.feed (h : s.Sound host) {text : List UInt8} (hok : (s.broker.feed text).2 = .ok ()) :
    Sound host { s with broker := (s.broker.feed text).1, fed := s.fed ++ text } := by
  obtain ⟨hauthor, hmessages, hintake⟩ := author_feed s.broker text
  -- the text that waits has no newline left, so it may be made lines again
  have hbytes : Frame.ofLines (s.broker.localLines.unconsumed ++ text) =
      (Frame.split (Frame.ofLines s.fed)).2 ++ Frame.ofLines text := by
    rw [h.waiting, Frame.ofLines_append, Frame.ofLines_tail]
  constructor
  · exact hauthor.trans h.author
  · exact consistent_feed h.consistent text
  · show (s.broker.feed text).1.intake.map Prod.fst = Traffic.messages (s.broker.feed text).1.traffic
    rw [hintake, traffic_feed hok, messages_append, messages_relayed_none, List.append_nil]
    exact h.messages
  · show s.popped ++ (s.broker.feed text).1.messages.toList = keptOf (s.broker.feed text).1.intake
    rw [hmessages, hintake]
    exact h.queued
  · show linesFrom (s.broker.feed text).1.traffic none = _
    rw [traffic_feed hok, linesFrom_append, linesFrom_relayed_none, h.hosted, hbytes,
      Frame.ofLines_append, Frame.split_append (Frame.ofLines s.fed), List.map_append, h.author]
  · show (s.broker.feed text).1.localLines.unconsumed = _
    rw [localLines_feed hok, hbytes, Frame.ofLines_append, Frame.split_append (Frame.ofLines s.fed)]

theorem step_feed (s : Session) (text : List UInt8) : s.step (.feed text) =
    match (s.broker.feed text).2 with
    | .ok () => { s with broker := (s.broker.feed text).1, fed := s.fed ++ text }
    | .error _ => { s with broker := (s.broker.feed text).1 } := by
  rw [step]
  rcases s.broker.feed text with ⟨broker, cause | ⟨⟩⟩
  · rfl
  · rfl

/-- **Every event keeps the invariant.** -/
theorem sound_step (h : s.Sound host) (event : Event) : (s.step event).Sound host := by
  cases event with
  | listen port setup => exact h.serves (serves_listen s.broker port setup)
  | accept attempts => exact h.serves (serves_acceptAll s.broker attempts)
  | readable id reads => exact h.serves (serves_serveReadable s.broker id reads)
  | writable id writes => exact h.serves (serves_serveWritable s.broker id writes)
  | close id => exact h.serves (serves_close s.broker id)
  | update timeout poll => exact h.serves (serves_update s.broker timeout poll)
  | feed text =>
    rw [step_feed]
    split
    · next hok => exact h.feed hok
    · next cause hfailed =>
      obtain ⟨localLines, hlive, heq⟩ := feed_of_error hfailed
      rw [heq]
      exact ⟨h.author, h.consistent.congr (Nat.le_refl _) rfl fun _ => rfl, h.messages, h.queued,
        h.hosted, hlive.trans h.waiting⟩
  | pop =>
    unfold step pop?
    cases hpop : s.broker.messages.pop? with
    | none => exact h
    | some taken =>
      obtain ⟨message, rest⟩ := taken
      refine ⟨h.author, h.consistent.congr (Nat.le_refl _) rfl fun _ => rfl, h.messages, ?_,
        h.hosted, h.waiting⟩
      show s.popped ++ [message] ++ rest.toList = keptOf s.broker.intake
      rw [List.append_assoc, List.singleton_append, ← MessageQueue.toList_of_pop? hpop]
      exact h.queued

/-- **Every session has it.** -/
theorem sound_run (settings : BrokerSettings) (multiplexer : Multiplexer) (supply : Supply)
    (events : List Event) :
    ((start settings multiplexer supply).run events).Sound settings.serverAuthor := by
  have hrun : ∀ s : Session, s.Sound settings.serverAuthor →
    (s.run events).Sound settings.serverAuthor := by
    induction events with
    | nil => exact fun s h => h
    | cons event rest ih => exact fun s h => ih (s.step event) (sound_step h event)
  exact hrun _ (sound_start settings multiplexer supply)

/-! ### Messages for which there is memory -/

/-- No message has been lost for lack of memory, and none will be. -/
structure Keeping (s : Session) : Prop where
  granted : s.broker.messages.memory.Ample
  kept : ∀ entry ∈ s.broker.intake, entry.2 = true

theorem Keeping.serves (h : s.Keeping) {b : Broker} (hb : Serves s.broker b) :
    Keeping { s with broker := b } := by
  obtain ⟨entries, -, ⟨came, -, hcame⟩, -⟩ := hb.grows
  refine ⟨hcame.granted h.granted, fun entry hentry => ?_⟩
  change entry ∈ b.intake at hentry
  rw [hcame.intake] at hentry
  obtain hentry | hentry := List.mem_append.1 hentry
  · exact h.kept entry hentry
  · exact hcame.whole h.granted entry hentry

theorem keeping_step (h : s.Keeping) (event : Event) : (s.step event).Keeping := by
  cases event with
  | listen port setup => exact h.serves (serves_listen s.broker port setup)
  | accept attempts => exact h.serves (serves_acceptAll s.broker attempts)
  | readable id reads => exact h.serves (serves_serveReadable s.broker id reads)
  | writable id writes => exact h.serves (serves_serveWritable s.broker id writes)
  | close id => exact h.serves (serves_close s.broker id)
  | update timeout poll => exact h.serves (serves_update s.broker timeout poll)
  | feed text =>
    obtain ⟨-, hmessages, hintake⟩ := author_feed s.broker text
    have hgranted : (s.broker.feed text).1.messages.memory.Ample := hmessages ▸ h.granted
    have hkept : ∀ entry ∈ (s.broker.feed text).1.intake, entry.2 = true := hintake ▸ h.kept
    rw [step_feed]
    split <;> exact ⟨hgranted, hkept⟩
  | pop =>
    unfold step pop?
    cases hpop : s.broker.messages.pop? with
    | none => exact h
    | some taken => exact ⟨MessageQueue.memory_of_pop? hpop ▸ h.granted, h.kept⟩

theorem keeping_run {supply : Supply} (hgranted : supply.messages.Ample) (settings : BrokerSettings)
    (multiplexer : Multiplexer) (events : List Event) :
    ((start settings multiplexer supply).run events).Keeping := by
  have hrun : ∀ s : Session, s.Keeping → (s.run events).Keeping := by
    induction events with
    | nil => exact fun s h => h
    | cons event rest ih => exact fun s h => ih (s.step event) (keeping_step h event)
  exact hrun _ ⟨hgranted, fun _ h => nomatch h⟩

/-- Then those that were taken and those that wait are the messages of all lines that some peer sent. -/
theorem Sound.all_queued (h : s.Sound host) (hkeeping : s.Keeping) :
    s.popped ++ s.broker.messages.toList = Traffic.messages s.broker.traffic := by
  rw [h.queued, keptOf_eq hkeeping.kept, h.messages]

/-- If all memory is granted from the start, it is granted at any time. -/
theorem granted_run {supply : Supply} (hgranted : supply.Ample) (settings : BrokerSettings)
    (multiplexer : Multiplexer) (events : List Event) :
    ((start settings multiplexer supply).run events).broker.Granted := by
  have hstep (s : Session) (h : s.broker.Granted) (event : Event) : (s.step event).broker.Granted := by
    cases event with
    | listen port setup => exact (serves_listen s.broker port setup).granted h
    | accept attempts => exact (serves_acceptAll s.broker attempts).granted h
    | readable id reads => exact (serves_serveReadable s.broker id reads).granted h
    | writable id writes => exact (serves_serveWritable s.broker id writes).granted h
    | close id => exact (serves_close s.broker id).granted h
    | update timeout poll => exact (serves_update s.broker timeout poll).granted h
    | feed text =>
      rw [step_feed]
      split <;> exact h.feed text
    | pop =>
      unfold step pop?
      cases hpop : s.broker.messages.pop? with
      | none => exact h
      | some taken =>
        exact ⟨MessageQueue.memory_of_pop? hpop ▸ h.messages, h.localLines, h.supply, h.peers⟩
  have hrun : ∀ s : Session, s.broker.Granted → (s.run events).broker.Granted := by
    induction events with
    | nil => exact fun s h => h
    | cons event rest ih => exact fun s h => ih (s.step event) (hstep s h event)
  refine hrun _ ⟨hgranted.messages, hgranted.localLines, hgranted.peers, fun id p hp => ?_⟩
  rw [show (start settings multiplexer supply).broker.peers.get? id = none from
    PeerTable.get?_ofLimit ..] at hp
  cases hp

/-! ### The traffic of a session -/

/-- An event takes nothing back. -/
theorem prefix_traffic_step (s : Session) (event : Event) :
    s.broker.traffic <+: (s.step event).broker.traffic := by
  have hserves {b : Broker} (h : Serves s.broker b) : s.broker.traffic <+: b.traffic := by
    obtain ⟨entries, htraffic, -⟩ := h.grows
    exact ⟨entries, htraffic.symm⟩
  cases event with
  | listen port setup => exact hserves (serves_listen s.broker port setup)
  | accept attempts => exact hserves (serves_acceptAll s.broker attempts)
  | readable id reads => exact hserves (serves_serveReadable s.broker id reads)
  | writable id writes => exact hserves (serves_serveWritable s.broker id writes)
  | close id => exact hserves (serves_close s.broker id)
  | update timeout poll => exact hserves (serves_update s.broker timeout poll)
  | feed text =>
    rw [step_feed]
    split
    · next hok => exact ⟨_, (traffic_feed hok).symm⟩
    · next cause hfailed =>
      obtain ⟨localLines, -, heq⟩ := feed_of_error hfailed
      rw [heq]
      exact List.prefix_refl _
  | pop =>
    unfold step pop?
    cases s.broker.messages.pop? with
    | none => exact List.prefix_refl _
    | some taken => exact List.prefix_refl _

/-- A run takes nothing back. -/
theorem prefix_traffic_run (s : Session) (events : List Event) :
    s.broker.traffic <+: (s.run events).broker.traffic := by
  induction events generalizing s with
  | nil => exact List.prefix_refl _
  | cons event rest ih => exact (prefix_traffic_step s event).trans (ih (s.step event))

theorem run_append (s : Session) (events more : List Event) :
    s.run (events ++ more) = (s.run events).run more :=
  List.foldl_append

/-! ### A session -/

/-- The identity of the first peer of a broker. -/
def firstPeer : PeerId := ⟨0, 0⟩

/-- The identity of the second, if the first has not left. -/
def secondPeer : PeerId := ⟨1, 1⟩

/-- Ann and Bob meet. Bob's name shares a read with the front of his line, and Ann's socket takes four
bytes of what waits for her; the hosting application has begun a second line. -/
def meeting : List Event :=
  [.accept [.connection, .connection],
    .readable firstPeer [.data (Text.utf8 "ann\x00")],
    .readable secondPeer [.data (Text.utf8 "bob\x00he")],
    .readable secondPeer [.data (Text.utf8 "llo\x00")],
    .feed (Text.utf8 "welcome\nto"),
    .writable firstPeer [.accept 4, .fault .wouldBlock],
    .pop]

end Session

end ChatRelay.Broker
