import ChatRelay.Proofs.Endpoint.Session
import ChatRelay.Proofs.Multiplexer

/-!
# The life of an endpoint

The phase, the socket, its registration, the interest it is watched with and the two queues are separate
fields, changed on different paths. After every event they agree, also after an event that failed half
way.

- `Phase.Next`: an endpoint stays as it is, connects or closes.
- `Endpoint.Idle`, `Endpoint.Live`: the fields of an endpoint without a socket, and of a connected one.
- `Endpoint.Standing`: the invariant of a life, kept by every event (`Endpoint.Session.standing_step`).
- `Endpoint.Connects`: what telling an endpoint to connect comes to, if it has not connected.
- `Endpoint.Refuses`: what an endpoint does when it is used out of its phase.
- `Endpoint.InOrder`: what an observer sees of it.
- `Endpoint.Session.lifecycle`: all of it, for every run.
- `Endpoint.Session.starved_handshake`: what a shortage of memory in the handshake leaves.

The interest is the one that the output asks for as long as the multiplexer refuses no change of it. The
rest does not depend on that: `granted` stands for it throughout.
-/

namespace ChatRelay

/-- Where the life of an endpoint can go in one event. -/
inductive Phase.Next : Phase → Phase → Prop where
  | stay (phase : Phase) : Next phase phase
  | connect : Next .unconnected .connected
  | close : Next .connected .closed

/-- Whether a dialer gets to an open connection. -/
def Dialer.Opens (dialer : Dialer) (address : String) : Prop :=
  ∃ candidates, dialer.resolve address = .ok candidates ∧
    (∃ candidate ∈ candidates, dialer.attempt candidate = none) ∧ dialer.prepare = none

namespace Endpoint

variable {granted : Prop} {e : Endpoint}

/-- A connected endpoint holds one socket, which is watched with the interest that it remembers. -/
structure Wired (granted : Prop) (e : Endpoint) : Prop where
  phase : e.phase = .connected
  socket : e.socket = some (.connection 0)
  registrations : e.multiplexer.registrations = [⟨.connection 0, Token.endpoint, e.armed⟩]
  grants : granted → e.multiplexer.GrantsRearms

/-- Between events that is the interest its output asks for. -/
structure Live (granted : Prop) (e : Endpoint) : Prop extends Wired granted e where
  armed : granted → e.armed = .forOutbound e.outbound

/-- An endpoint without a socket has nothing watched and nothing unread. -/
structure Idle (granted : Prop) (e : Endpoint) : Prop where
  socket : e.socket = none
  registrations : e.multiplexer.registrations = []
  grants : granted → e.multiplexer.GrantsRearms
  inbound : e.inbound.unconsumed = []

/-- One that has closed has nothing unsent either. -/
structure Ended (granted : Prop) (e : Endpoint) : Prop extends Idle granted e where
  phase : e.phase = .closed
  outbound : e.outbound.unconsumed = []

/-- How an endpoint stands between events. -/
inductive Standing (granted : Prop) (e : Endpoint) : Prop where
  | unconnected (phase : e.phase = .unconnected) (idle : Idle granted e)
  | connected (live : Live granted e)
  | closed (ended : Ended granted e)

theorem Standing.live (h : Standing granted e) (hphase : e.phase = .connected) :
    Live granted e := by
  cases h with
  | unconnected phase => exact absurd (phase.symm.trans hphase) (by decide)
  | connected live => exact live
  | closed ended => exact absurd (ended.phase.symm.trans hphase) (by decide)

theorem Standing.idle (h : Standing granted e) (hphase : e.phase ≠ .connected) :
    Idle granted e := by
  cases h with
  | unconnected _ idle => exact idle
  | connected live => exact absurd live.phase hphase
  | closed ended => exact ended.toIdle

/-! ### Keeping the interest, and giving up the socket -/

theorem Wired.isRegistered (h : Wired granted e) : e.multiplexer.isRegistered (.connection 0) := by
  rw [Multiplexer.isRegistered_iff, h.registrations]
  exact ⟨_, List.mem_singleton_self _, rfl⟩

/-- Syncing the interest ends with the one the output asks for, or with the one it had if the multiplexer
refused. -/
theorem Wired.syncInterest (h : Wired granted e) : Live granted e.syncInterest.1 := by
  unfold Endpoint.syncInterest
  by_cases heq : Interest.forOutbound e.outbound = e.armed
  · rw [if_pos heq]
    exact ⟨h, fun _ => heq.symm⟩
  rw [if_neg heq, h.socket]
  rcases hrearm : e.multiplexer.rearm (.connection 0) Token.endpoint (.forOutbound e.outbound) with
    ⟨multiplexer, cause | ⟨⟩⟩
  -- a refusal shows that the changes of interest are not all granted, so nothing is claimed of them
  · have hrefused : ¬granted := by
      intro hgranted
      obtain ⟨_, hgrant, -⟩ := Multiplexer.rearm_of_grants (h.grants hgranted) h.isRegistered
        Token.endpoint (.forOutbound e.outbound)
      rw [hrearm] at hgrant
      cases hgrant
    simp only [hrearm]
    exact ⟨⟨h.phase, rfl, (Multiplexer.registrations_of_rearm_error hrearm).trans h.registrations,
      fun hgranted => absurd hgranted hrefused⟩, fun hgranted => absurd hgranted hrefused⟩
  · have hgrants : granted → multiplexer.GrantsRearms := by
      intro hgranted
      obtain ⟨_, hgrant, hlater⟩ := Multiplexer.rearm_of_grants (h.grants hgranted) h.isRegistered
        Token.endpoint (.forOutbound e.outbound)
      rw [hrearm] at hgrant
      cases hgrant
      exact hlater
    have hregistrations := Multiplexer.registrations_of_rearm hrearm
    rw [h.registrations] at hregistrations
    simp only [hrearm]
    exact ⟨⟨h.phase, rfl, hregistrations, hgrants⟩, fun _ => rfl⟩

/-- Nothing is left of a connected endpoint that is torn down. -/
theorem Wired.teardown (h : Wired granted e) : Ended granted e.teardown := by
  obtain ⟨multiplexer, journal, heq, hmultiplexer, -⟩ := teardown_eq e
  rw [heq]
  obtain rfl := hmultiplexer _ h.socket
  refine ⟨⟨rfl, ?_, ?_, rfl⟩, rfl, rfl⟩
  · refine List.eq_nil_iff_forall_not_mem.2 fun r hr => ?_
    obtain ⟨hmem, hne⟩ := Multiplexer.mem_drop_iff.1 hr
    rw [h.registrations, List.mem_singleton] at hmem
    exact hne (hmem ▸ rfl)
  · intro hgranted
    unfold Multiplexer.GrantsRearms
    rw [Multiplexer.rearmVerdicts_drop]
    exact h.grants hgranted

/-! ### Serving the socket -/

/-- What serving the socket of a connected endpoint comes to. After a failure the interest is not settled,
and the socket is still held. -/
inductive Served (granted : Prop) : Endpoint × Except RelayError Unit → Prop where
  | live {e : Endpoint} (h : Live granted e) : Served granted (e, .ok ())
  | closed {e : Endpoint} (h : Ended granted e) : Served granted (e, .ok ())
  | failed {e : Endpoint} (cause : RelayError) (h : Wired granted e) :
    Served granted (e, .error cause)

theorem Live.took (h : Live granted e) (reads : List ReadEvent) : Live granted (e.took reads).1 := by
  obtain ⟨messages, malformedFrames, journal, heq⟩ := takeEach_eq
    { e.filled reads with inbound := (e.filled reads).inbound.takeFrames.2 }
    (Frame.split (e.filled reads).inbound.unconsumed).1
  rw [Endpoint.took, takeFrames_eq, heq]
  exact ⟨⟨h.phase, h.socket, h.registrations, h.grants⟩, h.armed⟩

theorem Live.serveReadable (h : Live granted e) (reads : List ReadEvent) :
    Served granted (e.serveReadable reads) := by
  have htook := h.took reads
  rcases serveReadable_cases e reads with
    heq | ⟨cause, heq⟩ | ⟨cause, -, heq⟩ | ⟨-, heq | heq⟩ <;> rw [heq]
  · exact .live h
  · exact .failed cause ⟨h.phase, h.socket, h.registrations, h.grants⟩
  · exact .failed cause htook.toWired
  · exact .live htook
  · have hnoted : Wired granted ((e.took reads).1.note .brokerClosed) :=
      ⟨htook.phase, htook.socket, htook.registrations, htook.grants⟩
    exact .closed hnoted.teardown

/-- Once the socket is given up nothing is written. -/
theorem serveWritable_of_none (hsocket : e.socket = none) (writes : List WriteEvent) :
    e.serveWritable writes = (e, .ok ()) :=
  if_pos (by rw [hsocket]; rfl)

theorem Live.serveWritable (h : Live granted e) (writes : List WriteEvent) :
    Served granted (e.serveWritable writes) := by
  unfold Endpoint.serveWritable
  rw [if_neg (by rw [h.socket]; exact Bool.false_ne_true)]
  have hwired : Wired granted
      ({ e with outbound := (e.outbound.send writes).queue }.note
        (.wrote (e.outbound.send writes).written)) :=
    ⟨h.phase, h.socket, h.registrations, h.grants⟩
  cases hend : (e.outbound.send writes).outcome with
  | error cause =>
    simp only [hend]
    exact .failed cause hwired
  | ok status =>
    cases status with
    | partly =>
      -- something waited before and something waits still, so the same interest is asked for
      obtain ⟨hbefore, hafter⟩ := ByteQueue.hasPending_of_partly hend
      simp only [hend]
      refine .live ⟨hwired, fun hgranted => (h.armed hgranted).trans ?_⟩
      show Interest.forOutbound e.outbound = Interest.forOutbound (e.outbound.send writes).queue
      rw [Interest.forOutbound, Interest.forOutbound, if_pos hbefore, if_pos hafter]
    | complete =>
      simp only [hend]
      have hsync := hwired.syncInterest
      revert hsync
      generalize syncInterest _ = synced
      rcases synced with ⟨e', cause | ⟨⟩⟩
      · exact fun hsync => .failed cause hsync.toWired
      · exact .live

theorem Live.serve (h : Live granted e) (readable writable : Bool) (traffic : ChatRelay.Traffic) :
    Served granted (e.serve readable writable traffic) := by
  unfold Endpoint.serve
  have hread : Served granted
      (if readable then e.serveReadable traffic.reads else (e, .ok ())) := by
    split
    · exact h.serveReadable traffic.reads
    · exact .live h
  revert hread
  generalize (if readable then e.serveReadable traffic.reads else (e, .ok ())) = served
  intro hread
  cases hread with
  | live h =>
    simp only
    split
    · exact h.serveWritable traffic.writes
    · exact .live h
  | closed h =>
    simp only [serveWritable_of_none h.socket, ite_self]
    exact .closed h
  | failed cause h => exact .failed cause h

/-! ### The events -/

/-- An endpoint goes on from where it stood. -/
structure Goes (granted : Prop) (e e' : Endpoint) : Prop where
  standing : Standing granted e'
  next : Phase.Next e.phase e'.phase

theorem Standing.stays (h : Standing granted e) : Goes granted e e := ⟨h, .stay e.phase⟩

theorem Live.stays {e' : Endpoint} (h : Live granted e) (h' : Live granted e') :
    Goes granted e e' := by
  refine ⟨.connected h', ?_⟩
  rw [h.phase, h'.phase]
  exact .stay _

theorem Live.closes {e' : Endpoint} (h : Live granted e) (h' : Ended granted e') :
    Goes granted e e' := by
  refine ⟨.closed h', ?_⟩
  rw [h.phase, h'.phase]
  exact .close

theorem Live.update (h : Live granted e) (timeout : Option Nat) (poll : Option Nat → PollOutcome) :
    Goes granted e (e.update timeout poll).1 := by
  rcases update_cases h.phase timeout poll with
    ⟨-, outcome, heq⟩ | ⟨readable, writable, traffic, -, hcases⟩
  · rw [heq]
    exact h.stays h
  -- whatever serving comes to, what is left is in order; after a failure it is torn down as well
  have hserved := h.serve readable writable traffic
  rcases hcases with ⟨e', hserve, heq⟩ | ⟨e', cause, hserve, heq⟩ <;>
    rw [hserve] at hserved <;> rw [heq]
  · cases hserved with
    | live h' => exact h.stays h'
    | closed h' => exact h.closes h'
  · cases hserved with
    | failed _ hwired =>
      have hnoted : Wired granted (e'.note (.connectionFailed cause)) :=
        ⟨hwired.phase, hwired.socket, hwired.registrations, hwired.grants⟩
      exact h.closes hnoted.teardown

/-- The same interest is asked for while the same waits. -/
theorem forOutbound_congr {q q' : ByteQueue} (h : q.unconsumed = q'.unconsumed) :
    Interest.forOutbound q = Interest.forOutbound q' := by
  have hpending : q.hasPending = q'.hasPending := by
    rw [Bool.eq_iff_iff, ByteQueue.hasPending_iff, ByteQueue.hasPending_iff, h]
  rw [Interest.forOutbound, Interest.forOutbound, hpending]

theorem Live.feed (h : Live granted e) (text : List UInt8) : Goes granted e (e.feed text).1 := by
  obtain ⟨-, -, heq⟩ | ⟨-, hlive, size, heq⟩ := feed_cases h.phase text <;> rw [heq]
  -- with the text queued the interest may be the wrong one, until it is synced
  · have hwired : Wired granted { e with outbound := (e.outbound.push text).terminateLines } :=
      ⟨h.phase, h.socket, h.registrations, h.grants⟩
    exact h.stays hwired.syncInterest
  · refine h.stays ⟨⟨h.phase, h.socket, h.registrations, h.grants⟩, fun hgranted => ?_⟩
    exact (h.armed hgranted).trans (forOutbound_congr hlive).symm

/-- An attempt that gets to an open connection goes on to hold it. -/
theorem connect_of_opens (hphase : e.phase = .unconnected) {address : String} {dialer : Dialer}
    (hopens : dialer.Opens address) :
    ∃ journal, e.connect address dialer = ({ e with journal } : Endpoint).hold := by
  obtain ⟨candidates, hresolve, ⟨candidate, hmem, hopen⟩, hprepare⟩ := hopens
  obtain ⟨journal, heq⟩ := dial_eq e dialer.attempt candidates
  refine ⟨journal, ?_⟩
  unfold Endpoint.connect
  rw [if_pos hphase]
  simp only [hresolve, heq]
  cases hfind : candidates.find? (dialer.attempt · |>.isNone) with
  | none => exact absurd (List.find?_eq_none.1 hfind candidate hmem) (by simp [hopen])
  | some found => simp only [hprepare]

/-- What telling an unconnected endpoint to connect comes to. -/
inductive Attempted (granted : Prop) : Endpoint × Except RelayError Unit → Prop where
  | connected {e : Endpoint} (h : Live granted e) : Attempted granted (e, .ok ())
  | refused {e : Endpoint} (cause : RelayError) (phase : e.phase = .unconnected)
    (idle : Idle granted e) : Attempted granted (e, .error cause)

theorem Idle.hold (h : Idle granted e) (hphase : e.phase = .unconnected) :
    Attempted granted e.hold := by
  rcases hold_cases e with ⟨outbound, cause, -, heq⟩ | ⟨outbound, multiplexer, -, hcases⟩
  · rw [heq]
    exact .refused cause hphase ⟨h.socket, h.registrations, h.grants, h.inbound⟩
  -- the answers to the changes of interest are still to come, whatever this one was
  have hverdicts := e.multiplexer.rearmVerdicts_register (.connection 0) Token.endpoint
    (.forOutbound outbound)
  have hgrants (hsame : multiplexer.rearmVerdicts = e.multiplexer.rearmVerdicts) :
      granted → multiplexer.GrantsRearms := by
    intro hgranted
    unfold Multiplexer.GrantsRearms
    rw [hsame]
    exact h.grants hgranted
  rcases hcases with ⟨cause, hregister, heq⟩ | ⟨hregister, heq⟩ <;>
    rw [hregister] at hverdicts <;> rw [heq]
  · exact .refused _ hphase ⟨h.socket,
      (Multiplexer.registrations_of_register_error hregister).trans h.registrations,
      hgrants hverdicts, h.inbound⟩
  · have hregistrations := (Multiplexer.registrations_of_register hregister).2
    rw [h.registrations] at hregistrations
    exact .connected ⟨⟨rfl, rfl, hregistrations, hgrants hverdicts⟩, fun _ => rfl⟩

theorem Idle.connect (h : Idle granted e) (hphase : e.phase = .unconnected) (address : String)
    (dialer : Dialer) : Attempted granted (e.connect address dialer) := by
  unfold Endpoint.connect
  rw [if_pos hphase]
  cases dialer.resolve address with
  | error cause => exact .refused _ hphase h
  | ok candidates =>
    obtain ⟨journal, heq⟩ := dial_eq e dialer.attempt candidates
    have hidle : Idle granted { e with journal } :=
      ⟨h.socket, h.registrations, h.grants, h.inbound⟩
    simp only [heq]
    cases candidates.find? (dialer.attempt · |>.isNone) with
    | none => exact .refused _ hphase hidle
    | some candidate =>
      cases dialer.prepare with
      | some cause => exact .refused _ hphase hidle
      | none => exact hidle.hold hphase

/-- A socket is held if the handshake is queued and the multiplexer takes it. -/
theorem Idle.hold_eq_ok_iff (h : Idle granted e) :
    e.hold.2 = .ok () ↔ (e.outbound.tryPushHandshake e.name).2 = .ok () ∧
      (nextVerdict e.multiplexer.registerVerdicts).1 = .ok () := by
  unfold Endpoint.hold Multiplexer.register
  have hunwatched : ¬e.multiplexer.isRegistered (.connection 0) := by
    rw [Multiplexer.isRegistered_iff, h.registrations]
    rintro ⟨r, hr, -⟩
    exact List.not_mem_nil hr
  rcases e.outbound.tryPushHandshake e.name with ⟨outbound, cause | ⟨⟩⟩
  · exact iff_of_false nofun fun hok => nomatch hok.1
  simp only [if_neg hunwatched]
  rcases nextVerdict e.multiplexer.registerVerdicts with ⟨cause | ⟨⟩, rest⟩
  · exact iff_of_false nofun fun hok => nomatch hok.2
  · exact iff_of_true rfl ⟨trivial, rfl⟩

/-- What telling an unconnected endpoint to connect depends on, and what a failure leaves. -/
structure Connects (e : Endpoint) (address : String) (dialer : Dialer) : Prop where
  ok_iff : (e.connect address dialer).2 = .ok () ↔
    dialer.Opens address ∧ (e.outbound.tryPushHandshake e.name).2 = .ok () ∧
      (nextVerdict e.multiplexer.registerVerdicts).1 = .ok ()
  success : (e.connect address dialer).2 = .ok () →
    (e.connect address dialer).1.phase = .connected
  failure : ∀ cause, (e.connect address dialer).2 = .error cause →
    (e.connect address dialer).1.phase = .unconnected ∧
      (e.connect address dialer).1.inbound.unconsumed = []

theorem Idle.connect_eq_ok_iff (h : Idle granted e) (hphase : e.phase = .unconnected)
    (address : String) (dialer : Dialer) :
    (e.connect address dialer).2 = .ok () ↔
      dialer.Opens address ∧ (e.outbound.tryPushHandshake e.name).2 = .ok () ∧
        (nextVerdict e.multiplexer.registerVerdicts).1 = .ok () := by
  unfold Endpoint.connect Dialer.Opens
  rw [if_pos hphase]
  cases dialer.resolve address with
  | error cause =>
    refine iff_of_false nofun ?_
    rintro ⟨⟨candidates, hresolve, -⟩, -⟩
    cases hresolve
  | ok candidates =>
    obtain ⟨journal, heq⟩ := dial_eq e dialer.attempt candidates
    simp only [heq, Except.ok.injEq, exists_eq_left']
    cases hfind : candidates.find? (dialer.attempt · |>.isNone) with
    | none =>
      refine iff_of_false nofun ?_
      rintro ⟨⟨⟨candidate, hmem, hopen⟩, -⟩, -⟩
      exact List.find?_eq_none.1 hfind candidate hmem (by rw [hopen]; rfl)
    | some candidate =>
      have hopen : ∃ candidate ∈ candidates, dialer.attempt candidate = none :=
        ⟨candidate, List.mem_of_find?_eq_some hfind,
          by simpa using List.find?_some hfind⟩
      cases dialer.prepare with
      | some cause =>
        refine iff_of_false nofun ?_
        rintro ⟨⟨-, hprepare⟩, -⟩
        cases hprepare
      | none =>
        have hidle : Idle granted { e with journal } :=
          ⟨h.socket, h.registrations, h.grants, h.inbound⟩
        exact hidle.hold_eq_ok_iff.trans (iff_and_self.2 fun _ => ⟨hopen, rfl⟩)

theorem Idle.connects (h : Idle granted e) (hphase : e.phase = .unconnected)
    (address : String) (dialer : Dialer) : Connects e address dialer := by
  have hattempted := h.connect hphase address dialer
  have hiff := h.connect_eq_ok_iff hphase address dialer
  refine ⟨hiff, ?_, ?_⟩ <;> clear hiff <;> revert hattempted <;>
    generalize e.connect address dialer = attempted <;> intro hattempted
  · intro hok
    cases hattempted with
    | connected h => exact h.phase
    | refused cause => cases hok
  · intro cause herror
    cases hattempted with
    | connected h => cases herror
    | refused _ phase idle => exact ⟨phase, idle.inbound⟩

theorem Standing.connect (h : Standing granted e) (address : String) (dialer : Dialer) :
    Goes granted e (e.connect address dialer).1 := by
  by_cases hphase : e.phase = .unconnected
  · have hattempted := (h.idle (by rw [hphase]; decide)).connect hphase address dialer
    revert hattempted
    generalize e.connect address dialer = attempted
    intro hattempted
    cases hattempted with
    | connected live =>
      refine ⟨.connected live, ?_⟩
      rw [hphase, live.phase]
      exact .connect
    | refused cause phase idle =>
      refine ⟨.unconnected phase idle, ?_⟩
      rw [hphase, phase]
      exact .stay _
  · rw [Endpoint.connect, if_neg hphase]
    exact h.stays

/-- Taking a message changes the queue of messages only. -/
theorem Standing.take (h : Standing granted e) (messages : MessageQueue) :
    Goes granted e { e with messages } := by
  refine ⟨?_, .stay _⟩
  cases h with
  | unconnected phase idle =>
    exact .unconnected phase ⟨idle.socket, idle.registrations, idle.grants, idle.inbound⟩
  | connected live =>
    exact .connected ⟨⟨live.phase, live.socket, live.registrations, live.grants⟩, live.armed⟩
  | closed ended =>
    exact .closed ⟨⟨ended.socket, ended.registrations, ended.grants, ended.inbound⟩, ended.phase,
      ended.outbound⟩

/-! ### Use out of phase -/

/-- Used out of its phase, an endpoint says so and stays as it is. -/
structure Refuses (e : Endpoint) : Prop where
  notStarted : e.phase = .unconnected →
    (∀ text, e.feed text = (e, .error .notStarted)) ∧
      ∀ timeout poll, e.update timeout poll = (e, .error .notStarted)
  closed : e.phase = .closed →
    (∀ text, e.feed text = (e, .error .closed)) ∧
      ∀ timeout poll, e.update timeout poll = (e, .error .closed)
  alreadyStarted : e.phase ≠ .unconnected →
    ∀ address dialer, e.connect address dialer = (e, .error .alreadyStarted)

theorem refuses (e : Endpoint) : Refuses e where
  notStarted hphase := refuses_of_ensureConnected (by rw [ensureConnected, hphase])
  closed hphase := refuses_of_ensureConnected (by rw [ensureConnected, hphase])
  alreadyStarted hphase _ _ := if_neg hphase

/-! ### What an observer sees -/

namespace Session

/-- The fields of the endpoint of a session agree with its phase. -/
structure InOrder (s : Session) : Prop where
  held : s.endpoint.socket.isSome ↔ s.endpoint.phase = .connected
  registered : ∀ socket, s.endpoint.multiplexer.isRegistered socket ↔ s.endpoint.socket = some socket
  interest : s.endpoint.interest?.isSome ↔ s.endpoint.phase = .connected
  armed : s.endpoint.phase = .connected → s.endpoint.armed = .forOutbound s.endpoint.outbound ∧
    ∀ r ∈ s.endpoint.multiplexer.registrations, r.interest = s.endpoint.armed
  unread : s.endpoint.phase ≠ .connected → s.endpoint.inbound.pending = 0
  unsent : s.endpoint.phase = .closed → s.endpoint.outbound.pending = 0
  /-- Before it connects nothing is queued but the name, once for every handshake whose terminator was
  refused since the multiplexer last refused one. -/
  left : s.endpoint.phase = .unconnected →
    ∃ left ≤ s.shortages, s.endpoint.outbound.unconsumed = names s.endpoint.name left
  /-- If no attempt has failed for lack of memory, that is nothing at all. -/
  idle : s.shortages = 0 → s.endpoint.phase ≠ .connected →
    s.endpoint.inbound.pending = 0 ∧ s.endpoint.outbound.pending = 0

end Session

theorem isSome_interest?_iff (e : Endpoint) : e.interest?.isSome ↔ e.phase = .connected := by
  unfold interest?
  cases e.phase <;> simp

theorem Standing.inOrder {name : String} {s : Session} (h : Standing True s.endpoint)
    (hsound : s.Sound name) : s.InOrder := by
  have hunread (hphase : s.endpoint.phase ≠ .connected) : s.endpoint.inbound.pending = 0 :=
    ByteQueue.pending_eq_zero_iff.2 (h.idle hphase).inbound
  have hunsent (hphase : s.endpoint.phase = .closed) : s.endpoint.outbound.pending = 0 := by
    cases h with
    | unconnected phase => exact absurd (phase.symm.trans hphase) (by decide)
    | connected live => exact absurd (live.phase.symm.trans hphase) (by decide)
    | closed ended => exact ByteQueue.pending_eq_zero_iff.2 ended.outbound
  have hleft (hphase : s.endpoint.phase = .unconnected) :
      ∃ left ≤ s.shortages, s.endpoint.outbound.unconsumed = names s.endpoint.name left := by
    obtain ⟨left, hle, hblank⟩ := hsound.blank hphase
    exact ⟨left, hle, by rw [hblank.named]; exact hblank.outbound⟩
  constructor
  case held =>
    by_cases hphase : s.endpoint.phase = .connected
    · simp [(h.live hphase).socket, hphase]
    · simp [(h.idle hphase).socket, hphase]
  case registered =>
    intro socket
    by_cases hphase : s.endpoint.phase = .connected
    · simp [Multiplexer.isRegistered_iff, (h.live hphase).registrations, (h.live hphase).socket]
    · simp [Multiplexer.isRegistered_iff, (h.idle hphase).registrations, (h.idle hphase).socket]
  case interest => exact isSome_interest?_iff s.endpoint
  case armed =>
    intro hphase
    refine ⟨(h.live hphase).armed trivial, fun r hr => ?_⟩
    rw [(h.live hphase).registrations, List.mem_singleton] at hr
    rw [hr]
  case unread => exact hunread
  case unsent => exact hunsent
  case left => exact hleft
  case idle =>
    intro hnone hphase
    refine ⟨hunread hphase, ?_⟩
    cases hstage : s.endpoint.phase with
    | unconnected =>
      obtain ⟨left, hle, hqueued⟩ := hleft hstage
      obtain rfl : left = 0 := Nat.le_zero.1 (hnone ▸ hle)
      exact ByteQueue.pending_eq_zero_iff.2 hqueued
    | connected => exact absurd hstage hphase
    | closed => exact hunsent hstage

namespace Session

variable {s : Session}

/-- **Every event keeps the invariant**, and moves the phase forward or not at all. -/
theorem standing_step (h : Standing granted s.endpoint) (event : Event) :
    Goes granted s.endpoint (s.step event).endpoint := by
  cases event with
  | connect address dialer => exact h.connect address dialer
  | feed text =>
    by_cases hphase : s.endpoint.phase = .connected
    · exact (h.live hphase).feed text
    · rw [(step_of_ne_connected hphase).1]
      exact h.stays
  | update timeout poll =>
    by_cases hphase : s.endpoint.phase = .connected
    · exact (h.live hphase).update timeout poll
    · rw [(step_of_ne_connected hphase).2]
      exact h.stays
  | pop =>
    obtain ⟨-, -, messages, heq, -⟩ := step_pop s
    rw [heq]
    exact h.take messages

theorem standing_run (h : Standing granted s.endpoint) (events : List Event) :
    Standing granted (s.run events).endpoint := by
  induction events generalizing s with
  | nil => exact h
  | cons event rest ih => exact ih (standing_step h event).standing

theorem standing_start (settings : EndpointSettings) {registers rearms : List (Option IoError)}
    (supply : Supply) (hgranted : granted → ∀ verdict ∈ rearms, verdict = none) :
    Standing granted
      (start settings { registerVerdicts := registers, rearmVerdicts := rearms } supply).endpoint :=
  .unconnected rfl ⟨rfl, rfl, hgranted, rfl⟩

/-- **The life of an endpoint.** If the multiplexer refuses no change of interest, then after any events
the fields of an endpoint agree with its phase, the phase goes forward only, a failure to connect leaves
an endpoint in order that can connect later, and use out of phase changes nothing.

With memory for the output no attempt to connect fails for lack of it, so that a failure leaves nothing
queued, and only the address and the multiplexer can refuse a name that can travel. -/
theorem lifecycle (settings : EndpointSettings) (registers rearms : List (Option IoError))
    (hgranted : ∀ verdict ∈ rearms, verdict = none) (supply : Supply) (events : List Event) :
    let s :=
      (start settings { registerVerdicts := registers, rearmVerdicts := rearms } supply).run events
    InOrder s ∧
      (∀ event, Phase.Next s.endpoint.phase (s.step event).endpoint.phase) ∧
      (s.endpoint.phase = .unconnected → ∀ address dialer,
        Connects s.endpoint address dialer ∧
          ∀ cause, (s.endpoint.connect address dialer).2 = .error cause →
            InOrder (s.step (.connect address dialer)) ∧
            ∀ address' dialer', Connects (s.endpoint.connect address dialer).1 address' dialer') ∧
      Refuses s.endpoint ∧
      (supply.outbound.Ample → s.shortages = 0 ∧
        (s.endpoint.phase = .unconnected → DisplayName.check settings.name = .ok () →
          (s.endpoint.outbound.tryPushHandshake s.endpoint.name).2 = .ok ())) := by
  intro s
  have hstanding : Standing True s.endpoint :=
    standing_run (standing_start settings supply fun _ => hgranted) events
  have hsound : s.Sound settings.name := sound_run (sound_start settings _ supply) events
  refine ⟨hstanding.inOrder hsound, fun event => (standing_step hstanding event).next,
    fun hphase address dialer => ?_, refuses s.endpoint, fun hample => ?_⟩
  -- what a failure leaves is again a state of a run
  · have hfirst := (hstanding.idle (by rw [hphase]; decide)).connects hphase address dialer
    refine ⟨hfirst, fun cause hcause => ?_⟩
    have hlater := (standing_step hstanding (.connect address dialer)).standing
    refine ⟨hlater.inOrder (sound_step hsound _), ?_⟩
    have hopen := (hfirst.failure cause hcause).1
    exact (hlater.idle (show (s.endpoint.connect address dialer).1.phase ≠ .connected by
      rw [hopen]; decide)).connects hopen
  · refine ⟨shortages_run hample events, fun hphase hname => ?_⟩
    obtain ⟨left, -, hblank⟩ := hsound.blank hphase
    rw [hblank.named]
    exact (ByteQueue.tryPushHandshake_of_ample ((spares_run _ events).outbound hample) hname).1

/-! ### A shortage in the handshake -/

/-- An attempt to hold a socket that gets memory for the name only. -/
theorem hold_starved (houtbound : e.outbound = .ofMemory ⟨[true, false]⟩)
    (hcheck : DisplayName.check e.name = .ok ())
    (hlong : ByteQueue.minCapacity ≤ (Text.utf8 e.name).length) :
    ∃ outbound size, e.hold = ({ e with outbound }, .error (.outOfMemory size)) ∧
      outbound.unconsumed = Text.utf8 e.name ∧ outbound.memory.Ample := by
  obtain ⟨outbound, size, hqueue, hlive, hmemory⟩ := ByteQueue.tryPushHandshake_starved hcheck hlong []
  refine ⟨outbound, size, ?_, hlive, hmemory ▸ Memory.ample_default⟩
  unfold Endpoint.hold
  simp only [houtbound, hqueue]

/-- It leaves the name queued, and nothing else of the endpoint has changed. -/
theorem connect_starved (settings : EndpointSettings) (hcheck : DisplayName.check settings.name = .ok ())
    (hlong : ByteQueue.minCapacity ≤ (Text.utf8 settings.name).length) {address : String}
    {dialer : Dialer} (hopens : dialer.Opens address) :
    let fresh := start settings {} { outbound := ⟨[true, false]⟩ }
    let s := fresh.step (.connect address dialer)
    Blank settings.name 1 s.endpoint ∧ s.endpoint.outbound.memory.Ample ∧
      s.endpoint.multiplexer = {} ∧ s.fed = [] ∧ s.shortages = 1 := by
  intro fresh s
  have hstart : Blank settings.name 0 fresh.endpoint := ⟨rfl, rfl, rfl, rfl, rfl, rfl, rfl, rfl⟩
  obtain ⟨journal, hconnect⟩ := connect_of_opens hstart.phase hopens
  obtain ⟨outbound, size, hheld, hlive, hample⟩ :=
    hold_starved (e := { fresh.endpoint with journal }) rfl hcheck hlong
  rw [hheld] at hconnect
  have hfirst : s = { fresh with
      endpoint := { fresh.endpoint with journal, outbound }
      shortages := 1 } := by
    show fresh.step (.connect address dialer) = _
    rw [step_connect, hconnect]
    rfl
  rw [hfirst]
  refine ⟨?_, hample, rfl, rfl, rfl⟩
  have hattempt := hstart.connect address dialer
  rw [hconnect] at hattempt
  cases hattempt with
  | @failed _ _ left hle blank =>
    -- the name has been queued, which is not nothing
    obtain rfl : left = 0 := Nat.le_zero.1 hle
    have hnone : Text.utf8 settings.name = [] := hlive.symm.trans blank.outbound
    rw [hnone] at hlong
    exact absurd hlong (by decide)
  | shortage _ blank => exact blank

/-- **What a shortage in the handshake leaves is not taken back.** If the name fills the first region and
there is no memory for its terminator, the endpoint is unconnected with the name queued, and it sends the
name twice once it connects. -/
theorem starved_handshake (settings : EndpointSettings) (hcheck : DisplayName.check settings.name = .ok ())
    (hlong : ByteQueue.minCapacity ≤ (Text.utf8 settings.name).length) {address : String}
    {dialer : Dialer} (hopens : dialer.Opens address) :
    let fresh := start settings {} { outbound := ⟨[true, false]⟩ }
    let s := fresh.run [.connect address dialer]
    let t := fresh.run [.connect address dialer, .connect address dialer]
    s.endpoint.phase = .unconnected ∧ s.endpoint.outbound.unconsumed = Text.utf8 settings.name ∧
      s.shortages = 1 ∧ t.endpoint.phase = .connected ∧ t.shortages = 1 ∧ t.fed = [] ∧
      t.endpoint.written ++ t.endpoint.outbound.unconsumed =
        Text.utf8 settings.name ++ Frame.handshake settings.name := by
  intro fresh s t
  obtain ⟨hblank, hample, hmultiplexer, hfed, hshortages⟩ :
      Blank settings.name 1 s.endpoint ∧ s.endpoint.outbound.memory.Ample ∧
        s.endpoint.multiplexer = {} ∧ s.fed = [] ∧ s.shortages = 1 :=
    connect_starved settings hcheck hlong hopens
  have hleft : names settings.name 1 = Text.utf8 settings.name := List.append_nil _
  -- in the second attempt nothing is refused
  have hstanding : Standing False s.endpoint :=
    standing_run (standing_start settings _ False.elim) _
  have hconnects := (hstanding.idle (by rw [hblank.phase]; decide)).connects hblank.phase address dialer
  have hok : (s.endpoint.connect address dialer).2 = .ok () := by
    refine hconnects.ok_iff.2 ⟨hopens, ?_, by rw [hmultiplexer]; rfl⟩
    rw [hblank.named]
    exact (ByteQueue.tryPushHandshake_of_ample hample hcheck).1
  have hstreams : Streams settings.name 1 [] [] t.endpoint := by
    have hattempt := hblank.connect address dialer
    change Streams settings.name 1 [] [] (s.endpoint.connect address dialer).1
    revert hattempt hok
    generalize s.endpoint.connect address dialer = attempted
    intro hok hattempt
    cases hattempt with
    | connected _ streams => exact streams
    | failed => cases hok
    | shortage => cases hok
  have hcount : t.shortages = s.shortages + shortagesIn (s.endpoint.connect address dialer).2 := rfl
  refine ⟨hblank.phase, hblank.outbound.trans hleft, hshortages, hconnects.success hok, ?_, hfed, ?_⟩
  · rw [hcount, hok, hshortages]
    rfl
  · rw [hstreams.outbound, hleft]
    exact List.append_nil _

/-- A dialer that opens a connection at once. -/
def readily : Dialer where
  resolve _ := .ok [⟨"relay", 7777⟩]
  attempt _ := none

theorem opens_readily (address : String) : readily.Opens address :=
  ⟨_, rfl, ⟨_, List.mem_singleton_self _, rfl⟩, rfl⟩

/-- An endpoint whose first socket the multiplexer refuses. It connects, and its output runs empty and
fills again; at last a line comes with the end of the stream. -/
def wholeLife : List Event :=
  let cycle (traffic : Traffic) : Event :=
    .update none fun _ =>
      .delivered [{ token := Token.endpoint, readable := true, writable := true, traffic }] []
  [.connect "relay:7777" readily,
    .connect "relay:7777" readily,
    cycle ⟨[], [.accept 64]⟩,
    .feed (Text.utf8 "hi\n"),
    cycle ⟨[.data (Text.utf8 "bob\nhi\x00"), .endOfStream], [.accept 64]⟩]

/-- The first attempt leaves it able to connect. In the end it has closed, and the line it got is there. -/
theorem lifecycle_wholeLife :
    let s := fun count : Nat =>
      (start { name := "ann" } { registerVerdicts := [some (.os 28)], rearmVerdicts := [none, none] }).run
        (wholeLife.take count)
    (s 1).endpoint.phase = .unconnected ∧ (∀ dialer, Connects (s 1).endpoint "relay:7777" dialer) ∧
      (s 1).endpoint.outbound.pending = 0 ∧
      (s 3).endpoint.phase = .connected ∧ (s 3).endpoint.armed = .read ∧
      (s 4).endpoint.armed = .readWrite ∧ InOrder (s 4) ∧
      (s 5).endpoint.phase = .closed ∧ InOrder (s 5) ∧ Refuses (s 5).endpoint ∧
      (s 5).endpoint.messages.toList = [⟨"bob", "hi"⟩] := by
  intro s
  have hrun : (s 1).endpoint.phase = .unconnected ∧ (s 3).endpoint.phase = .connected ∧
      (s 3).endpoint.armed = .read ∧ (s 4).endpoint.armed = .readWrite ∧
      (s 5).endpoint.phase = .closed ∧ (s 5).endpoint.messages.toList = [⟨"bob", "hi"⟩] := by
    decide +kernel
  obtain ⟨hphase₁, hphase₃, harmed₃, harmed₄, hphase₅, hmessages⟩ := hrun
  have hlife := fun count => lifecycle { name := "ann" } [some (.os 28)] [none, none] (by simp) {}
    (wholeLife.take count)
  have hunconnected : (s 1).endpoint.phase ≠ .connected := by
    rw [hphase₁]
    decide
  obtain ⟨hnone, -⟩ := (hlife 1).2.2.2.2 Memory.ample_default
  refine ⟨hphase₁, fun dialer => ((hlife 1).2.2.1 hphase₁ "relay:7777" dialer).1,
    ((hlife 1).1.idle hnone hunconnected).2, hphase₃, harmed₃, harmed₄, (hlife 4).1, hphase₅,
    (hlife 5).1, (hlife 5).2.2.2.1, hmessages⟩

/-- An attempt that gets memory for the name only fails and leaves the name queued. -/
theorem lifecycle_starved :
    let name := DisplayName.ofLength 1024
    let s := (start { name } {} { outbound := ⟨[true, false]⟩ }).run [.connect "relay:7777" readily]
    DisplayName.check name = .ok () ∧ s.endpoint.phase = .unconnected ∧
      s.endpoint.outbound.unconsumed = Text.utf8 name ∧ Text.utf8 name ≠ [] := by
  intro name s
  have hlength : (Text.utf8 name).length = 1024 := DisplayName.length_utf8_ofLength 1024
  have hcheck : DisplayName.check name = .ok () := DisplayName.check_ofLength 1024
  -- from here on nothing is asked of the name but its length
  clear_value name
  obtain ⟨hopen, hqueued, -⟩ := starved_handshake { name } hcheck (Nat.le_of_eq hlength.symm)
    (opens_readily "relay:7777")
  refine ⟨hcheck, hopen, hqueued, fun hnone => ?_⟩
  rw [hnone] at hlength
  exact absurd hlength (by decide)

end Session

end Endpoint

end ChatRelay
