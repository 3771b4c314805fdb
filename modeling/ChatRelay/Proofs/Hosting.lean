import ChatRelay.Hosting.Basic
import ChatRelay.Proofs.Broker.Session
import ChatRelay.Proofs.Endpoint.Inbound

/-!
# The hosting loops show every message once

A turn of a hosting loop can be left in front of the relay's work, between feeding it and letting it work,
and behind it. Wherever that happens, nothing that was queued is left behind: what waits is shown at the
end of every turn in which the relay worked, also of one whose update failed or closed the connection, and
the ways out of a turn in front of that decode nothing.

A message for which there was no memory has not been queued and is not shown. The others are, and with
memory these are all that were decoded.

- `Shows`: nothing waits, and what was shown is what was queued.
- `Serving.shows_step`: a turn of the loop of a broker.
- `Connecting.step?`: the loop of an endpoint with a check in front of every call.
- `Connecting.Settled`, `Connecting.settled_step`: a turn of the loop of an endpoint.
- `every_message_shown`: both loops, from their first turn on.
-/

namespace ChatRelay.Hosting

/-! ### What is shown -/

section

variable {α : Type} (messages : α → MessageQueue) (intake : α → List (Message × Bool)) {granted : Prop}

/-- Nothing waits, and what was shown is what was queued, once and in order. If all memory is granted every
message has been queued. -/
structure Shows (granted : Prop) (p : Progress α) : Prop where
  nothing_waits : (messages p.party).toList = []
  shown : p.shown.toList = keptOf (intake p.party)
  whole : granted → ∀ entry ∈ intake p.party, entry.2 = true
  memory : granted → (messages p.party).memory.Ample

variable {messages intake} {p : Progress α}

/-- What takes nothing in leaves that as it is. -/
theorem Shows.replace (h : Shows messages intake granted p) {party : α}
    (hintake : intake party = intake p.party) (hmessages : messages party = messages p.party) :
    Shows messages intake granted { p with party } where
  nothing_waits := hmessages.symm ▸ h.nothing_waits
  shown := hintake.symm ▸ h.shown
  whole := hintake.symm ▸ h.whole
  memory := hmessages.symm ▸ h.memory

/-- With memory everything that was decoded was shown. -/
theorem Shows.all (h : Shows messages intake granted p) (hgranted : granted) :
    p.shown.toList = (intake p.party).map Prod.fst := by
  rw [h.shown, keptOf_eq (h.whole hgranted)]

/-- Showing what waits once the party has worked. -/
theorem Shows.render (h : Shows messages intake granted p) {party drained : α}
    {came : List (Message × Bool)} (hparty : TakesIn messages intake came p.party party)
    (hmessages : messages drained = (messages party).drain.2) (hintake : intake drained = intake party) :
    Shows messages intake granted
      { p with shown := p.shown ++ (messages party).drain.1.toArray, party := drained } := by
  constructor
  case nothing_waits =>
    show (messages drained).toList = []
    rw [hmessages]
    exact (messages party).drain_eq.2
  case shown =>
    show (p.shown ++ (messages party).drain.1.toArray).toList = keptOf (intake drained)
    rw [Array.toList_append, (messages party).drain_eq.1, hparty.queued, h.nothing_waits, hintake,
      hparty.intake, keptOf_append, h.shown]
    rfl
  case whole =>
    intro hgranted entry hentry
    change entry ∈ intake drained at hentry
    rw [hintake, hparty.intake] at hentry
    exact (List.mem_append.1 hentry).elim (h.whole hgranted entry)
      (hparty.whole (h.memory hgranted) entry)
  case memory =>
    intro hgranted
    show (messages drained).memory.Ample
    rw [hmessages, MessageQueue.memory_drain]
    exact hparty.granted (h.memory hgranted)

/-- A loop begins with nothing shown, so that nothing may have been decoded. -/
theorem shows_first {first party : α} {came : List (Message × Bool)} (hintake : intake first = [])
    (hparty : TakesIn messages intake came first party) (hnone : (messages party).toList = [])
    (hmemory : granted → (messages first).memory.Ample) : Shows messages intake granted { party } := by
  have hqueued := hparty.queued
  have hcame := hparty.intake
  rw [hnone] at hqueued
  rw [hintake, List.nil_append] at hcame
  refine ⟨hnone, ?_, fun hgranted => ?_, fun hgranted => hparty.granted (hmemory hgranted)⟩
  · show [] = keptOf (intake party)
    rw [hcame, (List.append_eq_nil_iff.1 hqueued.symm).2]
  · show ∀ entry ∈ intake party, entry.2 = true
    rw [hcame]
    exact hparty.whole (hmemory hgranted)

/-- **What every turn keeps, the loop keeps.** -/
theorem run_induction {step : Progress α → Except IoError Wakeup → Progress α} {P : Progress α → Prop}
    (hstep : ∀ p, P p → p.ending = none → ∀ wait, P (step p wait)) (h : P p)
    (waits : List (Except IoError Wakeup)) : P (run step p waits) := by
  induction waits generalizing p with
  | nil => exact h
  | cons wait rest ih =>
    rw [run]
    split
    · exact h
    · next hgoing => exact ih (hstep p h (Option.not_isSome_iff_eq_none.1 hgoing) wait)

end

end ChatRelay.Hosting

namespace ChatRelay.Broker

/-- The messages that the broker has decoded, in order: the lines that its peers sent. -/
def decoded (b : Broker) : List Message := Traffic.messages b.traffic

variable {b b' : Broker}

/-- What is served is taken in. -/
theorem Serves.takesIn (h : Serves b b') : ∃ came, TakesIn messages intake came b b' := by
  obtain ⟨entries, -, ⟨came, -, hcame⟩, -⟩ := h.grows
  exact ⟨came, hcame⟩

/-- The messages taken in are those of the lines. -/
theorem Serves.decoded (h : Serves b b') (hb : b.intake.map Prod.fst = b.decoded) :
    b'.intake.map Prod.fst = b'.decoded := by
  obtain ⟨entries, htraffic, ⟨came, hentries, hcame⟩, -⟩ := h.grows
  rw [Broker.decoded, htraffic, Traffic.messages_append, hcame.intake, List.map_append, hb, hentries]
  rfl

/-- The lines of the hosting application are not decoded. -/
theorem decoded_feed (b : Broker) (text : List UInt8) : (b.feed text).1.decoded = b.decoded := by
  cases hfed : (b.feed text).2 with
  | ok =>
    rw [decoded, traffic_feed hfed, Traffic.messages_append, Session.messages_relayed_none,
      List.append_nil]
    rfl
  | error cause =>
    obtain ⟨localLines, -, heq⟩ := feed_of_error hfed
    rw [heq]
    rfl

theorem messages_listen (b : Broker) (port : Nat) (setup : Except ListenFault Unit) :
    (b.listen port setup).1.messages = b.messages := by
  unfold listen
  split
  · rfl
  split
  · rfl
  split <;> rfl

end ChatRelay.Broker

namespace ChatRelay.Hosting

variable {granted : Prop}

namespace Serving

variable {p : Progress Broker}

/-- A broker loop between two turns, or at its end. -/
structure ShowsAll (granted : Prop) (p : Progress Broker) : Prop
    extends Shows Broker.messages Broker.intake granted p where
  /-- What was taken in are the messages that were decoded. -/
  decoded : p.party.intake.map Prod.fst = p.party.decoded

/-- Working takes in what it decodes, whether the update fails or not. -/
theorem takesIn_work {b : Broker} (w : Wakeup) (hb : b.intake.map Prod.fst = b.decoded) :
    (∃ came, TakesIn Broker.messages Broker.intake came b (work b w)) ∧
      (work b w).intake.map Prod.fst = (work b w).decoded := by
  unfold work
  split
  · have hserves := Broker.serves_update b (some 0) fun _ => w.poll
    exact ⟨hserves.takesIn, hserves.decoded hb⟩
  · exact ⟨⟨[], .of_eq rfl rfl⟩, hb⟩

/-- **A turn shows what its update queued**, whether the update failed or not. A turn that is left early
decodes nothing. -/
theorem shows_step (h : ShowsAll granted p) (wait : Except IoError Wakeup) :
    ShowsAll granted (step p wait) := by
  have hstop (ending : Except Failure Unit) : ShowsAll granted { p with ending := some ending } :=
    ⟨⟨h.nothing_waits, h.shown, h.whole, h.memory⟩, h.decoded⟩
  have hrender {b : Broker} (hintake : b.intake = p.party.intake)
      (hmessages : b.messages = p.party.messages) (hdecoded : b.decoded = p.party.decoded)
      (w : Wakeup) : ShowsAll granted (render { p with party := work b w }) := by
    obtain ⟨⟨came, hwork⟩, hlines⟩ := takesIn_work (b := b) w (by rw [hintake, hdecoded]; exact h.decoded)
    exact ⟨(h.toShows.replace hintake hmessages).render hwork rfl rfl, hlines⟩
  unfold step
  cases wait with
  | error cause => exact hstop _
  | ok w =>
    simp only
    cases w.reaction with
    | stop ending => exact hstop ending
    | feed text =>
      obtain ⟨-, hmessages, hintake⟩ := Broker.author_feed p.party text
      exact hrender hintake hmessages (p.party.decoded_feed text) w
    | nothing => exact hrender rfl rfl rfl w

/-- A broker that has begun to listen has decoded nothing. -/
theorem shows_start {settings : BrokerSettings} {multiplexer : Multiplexer} {supply : Broker.Supply}
    {port : Nat} {setup : Except ListenFault Unit} {b : Broker}
    (h : ({ Broker.ofSettings settings supply with multiplexer } : Broker).listen port setup =
      (b, .ok ())) : ShowsAll supply.messages.Ample { party := b } := by
  have hserves := Broker.serves_listen
    ({ Broker.ofSettings settings supply with multiplexer } : Broker) port setup
  have hmessages := Broker.messages_listen
    ({ Broker.ofSettings settings supply with multiplexer } : Broker) port setup
  rw [h] at hserves hmessages
  obtain ⟨came, hcame⟩ := hserves.takesIn
  exact ⟨shows_first rfl hcame (congrArg MessageQueue.toList hmessages) id, hserves.decoded rfl⟩

/-- What is known of the loop of a broker after some waits. -/
structure Hosted (granted : Prop) (first : Progress Broker) (waits : List (Except IoError Wakeup)) :
    Prop where
  shows : ShowsAll granted (run step first waits)
  /-- With memory what was shown is what was decoded. -/
  all : granted → (run step first waits).shown.toList = (run step first waits).party.decoded

end Serving

/-! ### The loop of an endpoint -/

namespace Connecting

/-- A call that is made while the endpoint is connected. Nothing comes of any other. -/
def whileConnected {β : Type} (e : Endpoint) (outcome : β) : Option β :=
  if e.phase = .connected then some outcome else none

def feed? (e : Endpoint) (text : List UInt8) : Option (Endpoint × Except RelayError Unit) :=
  whileConnected e (e.feed text)

def work? (e : Endpoint) (w : Wakeup) : Option Endpoint :=
  if w.relay then whileConnected e (e.update (some 0) fun _ => w.poll).1 else some e

/-- One turn of the loop, with a check in front of every call. -/
def step? (p : Progress Endpoint) (wait : Except IoError Wakeup) : Option (Progress Endpoint) :=
  match wait with
  | .error cause => some { p with ending := some (.error (.io cause)) }
  | .ok w =>
    match w.reaction with
    | .stop ending => some { p with ending := some ending }
    | .feed text => do
      match ← feed? p.party text with
      | (e, .error cause) => return { p with party := e, ending := some (.error (.relay cause)) }
      | (e, .ok ()) =>
        let e ← work? e w
        return finish { p with party := e }
    | .nothing => do
      let e ← work? p.party w
      return finish { p with party := e }

/-- Take turns, as long as no check fails. -/
def run? (p : Progress Endpoint) : List (Except IoError Wakeup) → Option (Progress Endpoint)
  | [] => some p
  | wait :: rest => if p.ending.isSome then some p else do
    let p ← step? p wait
    run? p rest

/-- A loop of an endpoint between two turns, or at its end. -/
structure Settled (granted : Prop) (name : String) (p : Progress Endpoint) : Prop where
  shows : Shows Endpoint.messages Endpoint.intake granted p
  /-- While the loop goes on, the endpoint is connected, and what was shown are the messages of all frames
  that came. -/
  connected : p.ending = none → p.party.phase = .connected ∧
    ∃ left fed, Endpoint.Streams name left fed p.shown.toList p.party
  /-- An endpoint that has closed has ended the loop. -/
  closed : p.party.phase = .closed → p.ending = some (.ok ())
  /-- The endpoint has not been used out of phase. -/
  failed : ∀ cause, p.ending = some (.error (.relay cause)) → cause ≠ .closed ∧ cause ≠ .notStarted

variable {name : String} {p : Progress Endpoint} {e : Endpoint} {w : Wakeup}

/-- The input stops a loop for no failure of the relay. -/
theorem ending_of_reaction {ending : Except Failure Unit} (h : w.reaction = .stop ending)
    (cause : RelayError) : ending ≠ .error (.relay cause) := by
  unfold Wakeup.reaction at h
  split at h <;> cases h <;> exact fun heq => nomatch heq

/-- Only the system refuses a change of interest. -/
theorem error_of_syncInterest {cause : RelayError} (h : e.syncInterest.2 = .error cause) :
    ∃ fault, cause = .system fault := by
  unfold Endpoint.syncInterest at h
  simp only at h
  split at h
  · cases h
  split at h
  · cases h
  split at h
  · exact ⟨_, (Except.error.inj h).symm⟩
  · cases h

/-- Feeding a connected endpoint fails for lack of memory or because the system refuses, but not for its
phase. -/
theorem error_of_feed (hphase : e.phase = .connected) {text : List UInt8} {cause : RelayError}
    (h : (e.feed text).2 = .error cause) : cause ≠ .closed ∧ cause ≠ .notStarted := by
  obtain ⟨-, -, heq⟩ | ⟨-, -, size, heq⟩ := Endpoint.feed_cases hphase text <;> rw [heq] at h
  · obtain ⟨fault, rfl⟩ := error_of_syncInterest h
    exact ⟨nofun, nofun⟩
  · cases h
    exact ⟨nofun, nofun⟩

/-- A loop in the middle of a turn, in front of the work of its endpoint. -/
structure Going (granted : Prop) (name : String) (p : Progress Endpoint) : Prop where
  shows : Shows Endpoint.messages Endpoint.intake granted p
  phase : p.party.phase = .connected
  streams : ∃ left fed, p.party.Streams name left fed p.shown.toList
  going : p.ending = none

theorem Settled.going (h : Settled granted name p) (hgoing : p.ending = none) : Going granted name p :=
  ⟨h.shows, (h.connected hgoing).1, (h.connected hgoing).2, hgoing⟩

/-- Feeding takes nothing in. -/
theorem intake_feed (e : Endpoint) (text : List UInt8) :
    (e.feed text).1.intake = e.intake ∧ (e.feed text).1.messages = e.messages := by
  obtain ⟨outbound, multiplexer, armed, heq, -⟩ := Endpoint.feed_eq e text
  rw [heq]
  exact ⟨rfl, rfl⟩

/-- Feeding keeps the endpoint connected, also if it fails. -/
theorem Going.feed (h : Going granted name p) (text : List UInt8) :
    Going granted name { p with party := (p.party.feed text).1 } := by
  obtain ⟨left, fed, hstreams⟩ := h.streams
  obtain ⟨hphase, hstreams'⟩ := hstreams.feed h.phase text
  obtain ⟨hintake, hmessages⟩ := intake_feed p.party text
  exact ⟨h.shows.replace hintake hmessages, hphase, ⟨left, _, hstreams'⟩, h.going⟩

/-- A way out of a turn in front of the work. -/
theorem Going.stop (h : Going granted name p) {ending : Except Failure Unit}
    (hfailed : ∀ cause, ending = .error (.relay cause) → cause ≠ .closed ∧ cause ≠ .notStarted) :
    Settled granted name { p with ending := some ending } where
  shows := ⟨h.shows.nothing_waits, h.shows.shown, h.shows.whole, h.shows.memory⟩
  connected := nofun
  closed hclosed := absurd (h.phase.symm.trans hclosed) (by decide)
  failed cause hending := hfailed cause (Option.some.inj hending)

/-- Showing moves messages from the queue to those that were taken. -/
theorem streams_render {left : Nat} {fed : List UInt8} (h : p.party.Streams name left fed p.shown.toList) :
    (render p).party.Streams name left fed (render p).shown.toList where
  named := h.named
  framable := h.framable
  outbound := h.outbound
  inbound := h.inbound
  messages := by
    obtain ⟨hall, hnone⟩ := p.party.messages.drain_eq
    show (p.shown ++ p.party.messages.drain.1.toArray).toList ++ p.party.messages.drain.2.toList = _
    rw [hnone, List.append_nil, Array.toList_append, hall]
    exact h.messages
  malformed := h.malformed

/-- **The end of a turn shows what the work queued**, and leaves the loop if the endpoint has closed. -/
theorem Going.finish (h : Going granted name p) (w : Wakeup) :
    Settled granted name (finish { p with party := work p.party w }) := by
  obtain ⟨left, fed, hstreams⟩ := h.streams
  have hworked : Endpoint.Faithful name left fed p.shown.toList (work p.party w) ∧
      ∃ came, TakesIn Endpoint.messages Endpoint.intake came p.party (work p.party w) := by
    unfold work
    split
    · exact ⟨hstreams.update h.phase _ _, Endpoint.follows_takesIn.update p.party _ _⟩
    · exact ⟨Or.inr ⟨h.phase, hstreams⟩, Endpoint.follows_takesIn.quiet rfl rfl⟩
  obtain ⟨hfaithful, came, hcame⟩ := hworked
  have hshows : Shows Endpoint.messages Endpoint.intake granted
      (render { p with party := work p.party w }) :=
    h.shows.render hcame rfl rfl
  unfold Connecting.finish
  simp only
  split
  · next hclosed =>
    exact ⟨⟨hshows.nothing_waits, hshows.shown, hshows.whole, hshows.memory⟩, nofun, fun _ => rfl,
      fun cause hending => nomatch hending⟩
  · next hopen =>
    rcases hfaithful with hclosed | ⟨hphase, hstreams'⟩
    · exact absurd hclosed hopen
    refine ⟨hshows, fun _ => ⟨hphase, left, fed, ?_⟩, fun hclosed => absurd hclosed hopen, ?_⟩
    · exact streams_render (p := { p with party := work p.party w }) hstreams'
    · intro cause hending
      exact nomatch h.going.symm.trans hending

theorem Going.work? (h : Going granted name p) (w : Wakeup) :
    work? p.party w = some (work p.party w) := by
  unfold Connecting.work? work
  split
  · exact if_pos h.phase
  · rfl

/-- **One turn keeps all of it**, and every call in it is made while the endpoint is connected. -/
theorem settled_step (h : Settled granted name p) (hgoing : p.ending = none)
    (wait : Except IoError Wakeup) :
    Settled granted name (step p wait) ∧ step? p wait = some (step p wait) := by
  have h := h.going hgoing
  unfold step step?
  cases wait with
  | error cause => exact ⟨h.stop (fun _ heq => nomatch heq), rfl⟩
  | ok w =>
    simp only
    cases hreaction : w.reaction with
    | stop ending =>
      exact ⟨h.stop fun cause heq => absurd heq (ending_of_reaction hreaction cause), rfl⟩
    | nothing =>
      refine ⟨h.finish w, ?_⟩
      simp only [h.work? w]
      rfl
    | feed text =>
      have h' := h.feed text
      have hfailed : ∀ cause, (p.party.feed text).2 = .error cause →
          cause ≠ .closed ∧ cause ≠ .notStarted := fun _ => error_of_feed h.phase
      have hfeed? : feed? p.party text = some (p.party.feed text) := if_pos h.phase
      rcases hfed : p.party.feed text with ⟨e', cause | ⟨⟩⟩ <;> rw [hfed] at h' hfailed hfeed?
      · simp only [hfeed?, hfed]
        refine ⟨h'.stop ?_, rfl⟩
        intro other heq
        cases heq
        exact hfailed cause rfl
      · simp only [hfeed?, hfed]
        refine ⟨h'.finish w, ?_⟩
        have hwork := h'.work? w
        simp only [Option.bind_eq_bind, Option.bind_some, hwork]
        rfl

theorem settled_run (h : Settled granted name p) (waits : List (Except IoError Wakeup)) :
    Settled granted name (run step p waits) :=
  run_induction (fun _ h hgoing wait => (settled_step h hgoing wait).1) h waits

/-- No check fails in any loop. -/
theorem run?_eq (h : Settled granted name p) (waits : List (Except IoError Wakeup)) :
    run? p waits = some (run step p waits) := by
  induction waits generalizing p with
  | nil => rfl
  | cons wait rest ih =>
    rw [run, run?]
    split
    · rfl
    · next hgoing =>
      obtain ⟨hsettled, hstep⟩ := settled_step h (Option.not_isSome_iff_eq_none.1 hgoing) wait
      rw [hstep]
      exact ih hsettled

/-- An endpoint that has just connected has decoded nothing. -/
theorem settled_start {settings : EndpointSettings} {multiplexer : Multiplexer}
    {supply : Endpoint.Supply} {address : String} {dialer : Dialer} {e : Endpoint}
    (h : (Endpoint.Session.start settings multiplexer supply).endpoint.connect address dialer =
      (e, .ok ())) : Settled supply.messages.Ample settings.name { party := e } := by
  have hphase : e.phase = .connected := Endpoint.phase_of_connect h
  have htakes := Endpoint.follows_takesIn.connect
    (Endpoint.Session.start settings multiplexer supply).endpoint address dialer
  have hinbox := Endpoint.inbox_connect
    (Endpoint.Session.start settings multiplexer supply).endpoint address dialer
  have hblank : (Endpoint.Session.start settings multiplexer supply).endpoint.Blank settings.name 0 :=
    ⟨rfl, rfl, rfl, rfl, rfl, rfl, rfl, rfl⟩
  have hattempt := hblank.connect address dialer
  rw [h] at htakes hinbox hattempt
  obtain ⟨came, hcame⟩ := htakes
  have hnone : e.messages.toList = [] := congrArg (·.1.toList) hinbox
  refine ⟨shows_first rfl hcame hnone id, fun _ => ⟨hphase, 0, [], ?_⟩,
    fun hclosed => ?_, nofun⟩
  · cases hattempt with
    | connected _ streams => exact streams
  · exact absurd (hphase.symm.trans hclosed) (by decide)

/-- What is known of the loop of an endpoint after some waits. -/
structure Hosted (granted : Prop) (name : String) (first : Progress Endpoint)
    (waits : List (Except IoError Wakeup)) : Prop where
  settled : Settled granted name (run step first waits)
  /-- Feeding and updating were called only while the endpoint was connected. -/
  in_phase : run? first waits = some (run step first waits)
  /-- The turn in which the endpoint closes is the last. -/
  leaves : (run step first waits).ending = none → ∀ wait,
    (step (run step first waits) wait).party.phase = .closed →
      (step (run step first waits) wait).ending = some (.ok ())
  /-- With memory what was shown is what was decoded. -/
  all : granted → (run step first waits).shown.toList = (run step first waits).party.intake.map Prod.fst

end Connecting

/-- **The hosting loops show every message that is queued, once and in order.** Whatever the waits bring
and whatever fails, nothing waits between two turns or at the end, also if the last update closed the
connection or failed. With memory for the messages every message that is decoded is shown. An endpoint is
used while it is connected only, and its loop ends in the turn in which it closes. -/
theorem every_message_shown :
    (∀ (settings : BrokerSettings) (multiplexer : Multiplexer) (supply : Broker.Supply) (port : Nat)
        (setup : Except ListenFault Unit) (b : Broker),
      ({ Broker.ofSettings settings supply with multiplexer } : Broker).listen port setup =
          (b, .ok ()) →
        ∀ waits, Serving.Hosted supply.messages.Ample { party := b } waits) ∧
    ∀ (settings : EndpointSettings) (multiplexer : Multiplexer) (supply : Endpoint.Supply)
        (address : String) (dialer : Dialer) (e : Endpoint),
      (Endpoint.Session.start settings multiplexer supply).endpoint.connect address dialer =
          (e, .ok ()) →
        ∀ waits, Connecting.Hosted supply.messages.Ample settings.name { party := e } waits := by
  refine ⟨fun settings multiplexer supply port setup b hlisten waits => ?_,
    fun settings multiplexer supply address dialer e hconnect waits => ?_⟩
  · have hshows : Serving.ShowsAll supply.messages.Ample (run Serving.step { party := b } waits) :=
      run_induction (fun p h _ => Serving.shows_step h) (Serving.shows_start hlisten) waits
    exact ⟨hshows, fun hample => (hshows.all hample).trans hshows.decoded⟩
  · have hstart := Connecting.settled_start hconnect
    have hsettled := Connecting.settled_run hstart waits
    exact ⟨hsettled, Connecting.run?_eq hstart waits, fun hgoing wait =>
      (Connecting.settled_step hsettled hgoing wait).1.closed, hsettled.shows.all⟩

/-- A broker takes in a peer. The peer says its name and a line in the update in which an attempt to accept
fails; then something is typed, and the peer says another line; at last the input ends. -/
def servingWaits : List (Except IoError Wakeup) :=
  let listener : Readiness := { token := Token.listener, readable := true }
  let peer (text : String) : Readiness :=
    { token := Broker.Session.firstPeer.token
      readable := true
      traffic := { reads := [.data (Text.utf8 text)] } }
  [.ok { relay := true, poll := .delivered [listener] [.connection] },
    .ok { relay := true, poll := .delivered [peer "ann\x00hi\x00", listener] [.fault (.os 24)] },
    .ok {
      input := some (.ok (Text.utf8 "yes\n"))
      relay := true
      poll := .delivered [peer "bye\x00"] [] },
    .ok { input := some (.ok []) }]

/-- An endpoint gets a line and a half, and then the rest together with the end of the stream. -/
def connectingWaits : List (Except IoError Wakeup) :=
  let ready (reads : List ReadEvent) : Readiness :=
    { token := Token.endpoint, readable := true, traffic := { reads } }
  [.ok {
      input := some (.ok (Text.utf8 "hello\n"))
      relay := true
      poll := .delivered [ready [.data (Text.utf8 "ann\nhi\x00bob")]] [] },
    .ok { relay := true, poll := .delivered [ready [.data (Text.utf8 "\nyes\x00"), .endOfStream]] [] }]

/-- The line that came with the failure is shown, and so is the one that came with the end of the stream. If
there is no memory for the first message of a broker, or for what is typed, the second is shown. -/
theorem every_message_shown_each :
    let listen := ({ Broker.ofSettings {} with multiplexer := {} } : Broker).listen 7777 (.ok ())
    let supply : Broker.Supply := { messages := ⟨[false]⟩, localLines := ⟨[false]⟩ }
    let short := ({ Broker.ofSettings {} supply with multiplexer := {} } : Broker).listen 7777 (.ok ())
    let connect := (Endpoint.Session.start {} {}).endpoint.connect "relay:7777" Endpoint.Session.readily
    let p := run Serving.step { party := listen.1 } servingWaits
    let p' := run Serving.step { party := short.1 } servingWaits
    let p'' := run Connecting.step { party := connect.1 } connectingWaits
    listen = (listen.1, .ok ()) ∧ Serving.Hosted (Memory.Ample {}) { party := listen.1 } servingWaits ∧
      p.shown = #[⟨"ann", "hi"⟩, ⟨"ann", "bye"⟩] ∧ p.ending = some (.ok ()) ∧
    short = (short.1, .ok ()) ∧
      Serving.Hosted supply.messages.Ample { party := short.1 } servingWaits ∧
      p'.shown = #[⟨"ann", "bye"⟩] ∧
      p'.party.intake = [(⟨"ann", "hi"⟩, false), (⟨"ann", "bye"⟩, true)] ∧
    connect = (connect.1, .ok ()) ∧
      Connecting.Hosted (Memory.Ample {}) "anonymous" { party := connect.1 } connectingWaits ∧
      p''.shown = #[⟨"ann", "hi"⟩, ⟨"bob", "yes"⟩] ∧ p''.ending = some (.ok ()) := by
  intro listen supply short connect p p' p''
  have hlisten : listen = (listen.1, .ok ()) := Prod.ext rfl (by decide +kernel)
  have hshort : short = (short.1, .ok ()) := Prod.ext rfl (by decide +kernel)
  have hconnect : connect = (connect.1, .ok ()) := Prod.ext rfl (by decide +kernel)
  obtain ⟨hserving, hconnecting⟩ := every_message_shown
  have hrun : p.shown = #[⟨"ann", "hi"⟩, ⟨"ann", "bye"⟩] ∧ p.ending = some (.ok ()) := by
    decide +kernel
  have hrun' : p'.shown = #[⟨"ann", "bye"⟩] ∧
      p'.party.intake = [(⟨"ann", "hi"⟩, false), (⟨"ann", "bye"⟩, true)] := by
    decide +kernel
  have hrun'' : p''.shown = #[⟨"ann", "hi"⟩, ⟨"bob", "yes"⟩] ∧ p''.ending = some (.ok ()) := by
    decide +kernel
  exact ⟨hlisten, hserving {} {} {} 7777 (.ok ()) listen.1 hlisten servingWaits, hrun.1, hrun.2,
    hshort, hserving {} {} supply 7777 (.ok ()) short.1 hshort servingWaits, hrun'.1, hrun'.2, hconnect,
    hconnecting {} {} {} "relay:7777" _ connect.1 hconnect connectingWaits, hrun''.1, hrun''.2⟩

/-- A message for which there is no memory is decoded and never shown. -/
theorem every_message_shown_scarce :
    let supply : Broker.Supply := { messages := ⟨[false]⟩ }
    let listen := ({ Broker.ofSettings {} supply with multiplexer := {} } : Broker).listen 7777 (.ok ())
    let p := run Serving.step { party := listen.1 } servingWaits
    listen.2 = .ok () ∧ p.ending = some (.ok ()) ∧
      p.party.decoded = [⟨"ann", "hi"⟩, ⟨"ann", "bye"⟩] ∧ p.shown = #[⟨"ann", "bye"⟩] := by
  decide +kernel

end ChatRelay.Hosting
