import ChatRelay.Proofs.Broker.Session
import Mathlib.Data.List.Nodup
import Mathlib.Logic.Relation

/-!
# Connections at the listening socket

A connection that arrives waits in the backlog of the listening socket and raises an edge, which a wait
reports at most once. A broker that has taken the edge and not all the connections would never hear of
the others again, were it not to remember that accepting is to be tried again.

- `Broker.Backlog`, `Broker.Backlog.arrive`: the connections that wait, and the edge.
- `Broker.Accepting`: what the attempts of one loop can be answered, and what they leave of the backlog.
- `Broker.Cycle`: what a cycle does to the backlog, given how its wait ended.
- `Broker.Spares`: what an operation leaves alone that accepts nothing.
- `Broker.AttemptsOnce`: a cycle in which the broker tries to accept once (`attemptsOnce_update`).
- `Broker.Covered`: the invariant of a broker and its backlog (`Covered.update`).
- `Broker.Entrance`: a session with its backlog, and what happens to the two (`covered_step`).
- `Broker.Entrance.no_stranded_connection`: all of it, for every state that is reached.
-/

namespace ChatRelay.Broker

variable {b b' b'' : Broker} {id : PeerId}

/-! ### The backlog -/

/-- The connections at a listening socket. -/
structure Backlog where
  /-- How many wait to be accepted. -/
  waiting : Nat := 0
  /-- Whether one has arrived since the last time the socket was reported. -/
  edge : Bool := false
  /-- How many have arrived. -/
  arrived : Nat := 0
  /-- How many have gone away while they waited. -/
  aborted : Nat := 0
  deriving DecidableEq, Repr

/-- A connection arrives. -/
def Backlog.arrive (k : Backlog) : Backlog :=
  { k with waiting := k.waiting + 1, edge := true, arrived := k.arrived + 1 }

/-- The socket is reported, or is not. -/
def Backlog.report (k : Backlog) (reported : Bool) : Backlog :=
  { k with edge := k.edge && !reported }

/-- What the attempts of a loop are answered, and what is left of the backlog when the loop ends.
Connections may arrive all the while. An attempt would block only when none waits; it can fail at any
time. -/
inductive Accepting : Backlog → List AcceptEvent → Backlog → Prop where
  | arrive {k k' : Backlog} {attempts : List AcceptEvent} (h : Accepting k.arrive attempts k') :
    Accepting k attempts k'
  | connection {k k' : Backlog} {waiting : Nat} {rest : List AcceptEvent}
    (hwaiting : k.waiting = waiting + 1) (h : Accepting { k with waiting } rest k') :
    Accepting k (.connection :: rest) k'
  | drained {k : Backlog} (hwaiting : k.waiting = 0) : Accepting k [] k
  | wouldBlock {k : Backlog} {cause : IoError} {rest : List AcceptEvent}
    (hkind : cause.kind = .wouldBlock) (hwaiting : k.waiting = 0) :
    Accepting k (.fault cause :: rest) k
  | interrupted {k k' : Backlog} {cause : IoError} {rest : List AcceptEvent}
    (hkind : cause.kind = .interrupted) (h : Accepting k rest k') :
    Accepting k (.fault cause :: rest) k'
  /-- The attempt hears of a connection that has gone away and is not in the backlog any more. -/
  | aborted {k k' : Backlog} {cause : IoError} {rest : List AcceptEvent}
    (hkind : cause.kind = .connectionAborted) (h : Accepting k rest k') :
    Accepting k (.fault cause :: rest) k'
  /-- Or the attempt takes it out. -/
  | removed {k k' : Backlog} {waiting : Nat} {cause : IoError} {rest : List AcceptEvent}
    (hkind : cause.kind = .connectionAborted) (hwaiting : k.waiting = waiting + 1)
    (h : Accepting { k with waiting, aborted := k.aborted + 1 } rest k') :
    Accepting k (.fault cause :: rest) k'
  | failed {k : Backlog} {cause : IoError} {rest : List AcceptEvent}
    (hkind : cause.kind ≠ .wouldBlock ∧ cause.kind ≠ .interrupted ∧
      cause.kind ≠ .connectionAborted) :
    Accepting k (.fault cause :: rest) k

/-- Whether a wait reports the listening socket. -/
def reportsListener (ready : List Readiness) : Bool := ready.any (·.token = Token.listener)

/-- What a cycle does to the backlog, given whether accepting is to be tried again and how the wait
ended. A wait that fails reports nothing. One that does not reports each socket once at most, and the
listening socket only if it has an edge; the edge may also be left for a later wait. -/
inductive Cycle (pending : Bool) (k : Backlog) : PollOutcome → Backlog → Prop where
  | failed (cause : IoError) : Cycle pending k (.failed cause) k
  | unserved {ready : List Readiness} (accepts : List AcceptEvent)
    (hnodup : (ready.map Readiness.token).Nodup) (hpending : pending = false)
    (hreported : reportsListener ready = false) : Cycle pending k (.delivered ready accepts) k
  | served {ready : List Readiness} {accepts : List AcceptEvent} {k' : Backlog}
    (hnodup : (ready.map Readiness.token).Nodup)
    (hserved : pending = true ∨ reportsListener ready = true)
    (hedge : reportsListener ready = true → k.edge = true)
    (h : Accepting (k.report (reportsListener ready)) accepts k') :
    Cycle pending k (.delivered ready accepts) k'

/-! ### What accepts nothing -/

/-- Between the two brokers nothing was accepted, nor tried to be. -/
structure Spares (b b' : Broker) : Prop where
  acceptPending : b'.acceptPending = b.acceptPending
  connections : b'.connections = b.connections

theorem Spares.refl (b : Broker) : Spares b b := ⟨rfl, rfl⟩

theorem Spares.trans (h : Spares b b') (h' : Spares b' b'') : Spares b b'' where
  acceptPending := h'.acceptPending.trans h.acceptPending
  connections := h'.connections.trans h.connections

theorem KeepsRest.spares (h : KeepsRest b b') : Spares b b' := ⟨h.acceptPending, h.connections⟩

theorem Keeps.spares (h : Keeps b b') : Spares b b' := h.rest.spares

/-- What each step of a fold spares, the fold spares. -/
theorem spares_foldl {α : Type} (f : Broker → α → Broker) (xs : List α)
    (h : ∀ b, ∀ x ∈ xs, Spares b (f b x)) (b : Broker) : Spares b (xs.foldl f b) :=
  List.foldlRecOn xs f (Spares.refl b) fun b' hb' x hx => hb'.trans (h b' x hx)

theorem spares_serveReadable (b : Broker) (id : PeerId) (reads : List ReadEvent) :
    Spares b (b.serveReadable id reads).1 :=
  (keepsRest_serveReadable b id reads).spares

theorem spares_serveWritable (b : Broker) (id : PeerId) (writes : List WriteEvent) :
    Spares b (b.serveWritable id writes) :=
  (touches_serveWritable b id writes).keeps.spares

theorem spares_serve (accepts : List AcceptEvent) (b : Broker) {ready : Readiness}
    (h : ready.token ≠ Token.listener) : Spares b (serve accepts b ready).1 := by
  unfold serve
  rw [if_neg h]
  split
  · exact .refl b
  next id _ =>
  have hread : Spares b (if ready.readable then b.serveReadable id ready.traffic.reads
      else (b, .ok ())).1 := by
    split
    · exact spares_serveReadable b id _
    · exact .refl b
  have hwrite (b : Broker) :
      Spares b (if ready.writable then b.serveWritable id ready.traffic.writes else b) := by
    split
    · exact spares_serveWritable b id _
    · exact .refl b
  exact hread.trans (hwrite _)

theorem spares_feed (b : Broker) (text : List UInt8) : Spares b (b.feed text).1 := by
  obtain ⟨-, tail, -, heq⟩ | ⟨-, localLines, -, heq⟩ := feed_cases b text
  · rw [heq]
    have hkeeps := (foldl_relay_none { b with localLines := tail }
      (Frame.split (Frame.ofLines (b.localLines.unconsumed ++ text))).1).2.1
    exact ⟨hkeeps.acceptPending, hkeeps.connections⟩
  · rw [heq]
    exact ⟨rfl, rfl⟩

theorem spares_listen (b : Broker) (port : Nat) (setup : Except ListenFault Unit) :
    Spares b (b.listen port setup).1 := by
  unfold listen
  split
  · exact .refl b
  split
  · exact .refl b
  split <;> exact ⟨rfl, rfl⟩

/-! ### Serving a batch -/

/-- Serving a batch serves its sockets one after the other. -/
theorem fst_serveAll (accepts : List AcceptEvent) (b : Broker) (batch : List Readiness) :
    (b.serveAll accepts batch).1 = batch.foldl (fun b ready => (serve accepts b ready).1) b :=
  fst_inTurn ..

/-- Other sockets than the listening one have nothing accepted. -/
theorem spares_serveAll (accepts : List AcceptEvent) (b : Broker) {batch : List Readiness}
    (h : ∀ ready ∈ batch, ready.token ≠ Token.listener) :
    Spares b (b.serveAll accepts batch).1 := by
  rw [fst_serveAll]
  exact spares_foldl _ batch (fun b ready hready => spares_serve accepts b (h ready hready)) b

/-- The second broker is what serving a batch comes to in which the listening socket stands once. -/
def AttemptsOnce (b : Broker) (batch : List Readiness) (accepts : List AcceptEvent) (b' : Broker) :
    Prop :=
  ∃ before listener after, batch = before ++ listener :: after ∧
    listener.token = Token.listener ∧
    (∀ ready ∈ before ++ after, ready.token ≠ Token.listener) ∧
    b' = (((b.serveAll accepts before).1.acceptAll accepts).1.serveAll accepts after).1

/-- If accepting is to be tried again, or the listening socket is reported, it stands in the batch
once. -/
theorem withRetry_eq {retry : Bool} {ready : List Readiness}
    (hnodup : (ready.map Readiness.token).Nodup)
    (hserved : retry = true ∨ reportsListener ready = true) :
    ∃ before listener after, withRetry retry ready = before ++ listener :: after ∧
      listener.token = Token.listener ∧
      ∀ other ∈ before ++ after, other.token ≠ Token.listener := by
  unfold withRetry
  by_cases hreported : reportsListener ready = true
  · rw [if_neg (by rw [reportsListener] at hreported; simp [hreported])]
    obtain ⟨listener, hmem, htoken⟩ := List.any_eq_true.1 hreported
    have htoken : listener.token = Token.listener := of_decide_eq_true htoken
    obtain ⟨before, after, rfl⟩ := List.append_of_mem hmem
    refine ⟨before, listener, after, rfl, htoken, fun other hother heq => ?_⟩
    -- another entry with the same token would stand twice
    rw [List.map_append, List.map_cons, List.nodup_middle, List.nodup_cons, ← List.map_append] at hnodup
    exact hnodup.1 (List.mem_map.2 ⟨other, hother, heq.trans htoken.symm⟩)
  · obtain rfl : retry = true := hserved.resolve_right hreported
    rw [if_pos (by rw [reportsListener] at hreported; simpa using hreported)]
    refine ⟨ready, _, [], rfl, rfl, fun other hother heq => hreported ?_⟩
    rw [List.append_nil] at hother
    exact List.any_eq_true.2 ⟨other, hother, decide_eq_true heq⟩

/-- How long a broker that is told to wait for some time waits. -/
def patience (b : Broker) (timeout : Option Nat) : Option Nat :=
  if b.acceptPending then some 0 else timeout

/-- A cycle whose wait reports something, or in which accepting is to be tried again, serves the batch. -/
theorem update_of_delivered (hlistening : b.listening) {timeout : Option Nat}
    {poll : Option Nat → PollOutcome} {ready : List Readiness} {accepts : List AcceptEvent}
    (hpoll : poll (b.patience timeout) = .delivered ready accepts)
    (hbatch : withRetry b.acceptPending ready ≠ []) :
    b.update timeout poll =
      let served := { b with acceptPending := false }.serveAll accepts (withRetry b.acceptPending ready)
      (served.1, served.2.map fun () => .processed) := by
  have hbusy : ¬(ready.isEmpty && !b.acceptPending) := by
    rw [Bool.and_eq_true, List.isEmpty_iff, Bool.not_eq_true']
    rintro ⟨rfl, hpending⟩
    exact hbatch (by rw [hpending]; rfl)
  unfold update
  unfold patience at hpoll
  simp only [if_pos hlistening, hpoll, if_neg hbusy]

/-- **A cycle tries to accept once** if accepting is to be tried again, or the listening socket is
reported. -/
theorem attemptsOnce_update (hlistening : b.listening) {timeout : Option Nat}
    {poll : Option Nat → PollOutcome} {ready : List Readiness} {accepts : List AcceptEvent}
    (hpoll : poll (b.patience timeout) = .delivered ready accepts)
    (hnodup : (ready.map Readiness.token).Nodup)
    (hserved : b.acceptPending = true ∨ reportsListener ready = true) :
    AttemptsOnce { b with acceptPending := false } (withRetry b.acceptPending ready) accepts
      (b.update timeout poll).1 := by
  obtain ⟨before, listener, after, heq, htoken, hothers⟩ := withRetry_eq hnodup hserved
  refine ⟨before, listener, after, heq, htoken, hothers, ?_⟩
  have hbatch : withRetry b.acceptPending ready ≠ [] := by
    rw [heq]
    exact List.append_ne_nil_of_right_ne_nil _ (List.cons_ne_nil _ _)
  rw [update_of_delivered hlistening hpoll hbatch, heq]
  simp only
  rw [fst_serveAll, fst_serveAll, fst_serveAll, List.foldl_append, List.foldl_cons]
  simp only [serve, if_pos htoken]

/-- Otherwise it accepts nothing. -/
theorem spares_update (hlistening : b.listening) {timeout : Option Nat}
    {poll : Option Nat → PollOutcome} {ready : List Readiness} {accepts : List AcceptEvent}
    (hpoll : poll (b.patience timeout) = .delivered ready accepts)
    (hpending : b.acceptPending = false) (hreported : reportsListener ready = false) :
    Spares b (b.update timeout poll).1 := by
  have hclear : Spares b { b with acceptPending := false } := ⟨hpending.symm, rfl⟩
  have hothers : ∀ other ∈ ready, other.token ≠ Token.listener := fun other hother =>
    of_decide_eq_false (Bool.eq_false_iff.2 (List.any_eq_false.1 hreported other hother))
  have hbatch : withRetry b.acceptPending ready = ready := by
    rw [withRetry, hpending]
    rfl
  unfold update
  unfold patience at hpoll
  simp only [if_pos hlistening, hpoll, hbatch]
  split
  · exact hclear
  · exact hclear.trans (spares_serveAll accepts _ hothers)

/-- A wait that fails changes nothing. -/
theorem update_of_failed (hlistening : b.listening) {timeout : Option Nat}
    {poll : Option Nat → PollOutcome} {cause : IoError}
    (hpoll : poll (b.patience timeout) = .failed cause) : (b.update timeout poll).1 = b := by
  unfold update
  unfold patience at hpoll
  simp only [if_pos hlistening, hpoll]

/-- While accepting is to be tried again a cycle does not wait. -/
theorem update_of_pending (hpending : b.acceptPending = true) (timeout : Option Nat)
    (poll : Option Nat → PollOutcome) :
    b.update timeout poll = b.update (some 0) fun _ => poll (some 0) := by
  unfold update
  simp only [hpending, if_true]

/-! ### The invariant -/

/-- Every connection that has arrived was accepted, has gone away or waits; and if any waits, the broker
will hear of it, or try to accept by itself. -/
structure Covered (b : Broker) (k : Backlog) : Prop where
  heard : k.waiting ≠ 0 → k.edge = true ∨ b.acceptPending = true
  counted : k.arrived = b.connections + k.aborted + k.waiting

theorem connections_accept (b : Broker) : b.accept.connections = b.connections + 1 := by
  rcases accept_cases b with ⟨_, _, _, heq, -⟩ | ⟨_, _, _, _, heq, -⟩ <;> rw [heq] <;> rfl

/-- A loop that does not leave accepting to be tried again has taken every connection that waited. -/
theorem Accepting.acceptAll {k k' : Backlog} {attempts : List AcceptEvent}
    (h : Accepting k attempts k') (hcounted : k.arrived = b.connections + k.aborted + k.waiting) :
    ((b.acceptAll attempts).1.acceptPending = false → k'.waiting = 0) ∧
      k'.arrived = (b.acceptAll attempts).1.connections + k'.aborted + k'.waiting := by
  -- along the answers; the broker changes with every connection it takes
  induction h generalizing b with
  | arrive h ih => exact ih (congrArg (· + 1) hcounted)
  | @connection k k' waiting rest hwaiting h ih =>
    have hone : k.arrived = b.accept.connections + k.aborted + waiting := by
      rw [connections_accept]
      omega
    exact ih hone
  | drained hwaiting => exact ⟨fun _ => hwaiting, hcounted⟩
  | wouldBlock hkind hwaiting =>
    simp only [Broker.acceptAll, hkind]
    exact ⟨fun _ => hwaiting, hcounted⟩
  | interrupted hkind h ih =>
    simp only [Broker.acceptAll, hkind]
    exact ih hcounted
  | aborted hkind h ih =>
    simp only [Broker.acceptAll, hkind]
    exact ih hcounted
  | @removed k k' waiting cause rest hkind hwaiting h ih =>
    have hone : k.arrived = b.connections + (k.aborted + 1) + waiting := by omega
    simp only [Broker.acceptAll, hkind]
    exact ih hone
  | @failed k cause rest hkind =>
    have hacceptAll : (b.acceptAll (.fault cause :: rest)).1 =
        { b with acceptPending := true }.note (.acceptFailed cause) := by
      unfold Broker.acceptAll
      split
      · next h => exact absurd h hkind.1
      · next h => exact absurd h hkind.2.1
      · next h => exact absurd h hkind.2.2
      · rfl
    rw [hacceptAll]
    exact ⟨fun hdone => absurd hdone.symm Bool.false_ne_true, hcounted⟩

theorem Covered.spares {k : Backlog} (h : Covered b k) (h' : Spares b b') : Covered b' k where
  heard := by
    rw [h'.acceptPending]
    exact h.heard
  counted := by
    rw [h'.connections]
    exact h.counted

/-- A cycle that tries to accept ends with every connection taken that waited, or with accepting to be
tried again. -/
theorem AttemptsOnce.drained {k k' : Backlog} {batch : List Readiness} {accepts : List AcceptEvent}
    (h : AttemptsOnce b batch accepts b') (haccepting : Accepting k accepts k')
    (hcounted : k.arrived = b.connections + k.aborted + k.waiting) :
    (b'.acceptPending = false → k'.waiting = 0) ∧
      k'.arrived = b'.connections + k'.aborted + k'.waiting := by
  obtain ⟨before, listener, after, -, -, hothers, rfl⟩ := h
  -- the sockets before and after the listening one do not touch what the loop sees and leaves
  have hbefore := spares_serveAll accepts b fun ready hready =>
    hothers ready (List.mem_append_left _ hready)
  have hloop := haccepting.acceptAll (b := (b.serveAll accepts before).1)
    (by rw [hbefore.connections]; exact hcounted)
  have hafter := spares_serveAll accepts ((b.serveAll accepts before).1.acceptAll accepts).1
    fun ready hready => hothers ready (List.mem_append_right _ hready)
  rw [hafter.acceptPending, hafter.connections]
  exact hloop

/-- A cycle that serves the listening socket and leaves nothing to be tried again has taken every
connection that waited when its loop ended. -/
theorem Covered.drained {k k' : Backlog} (h : Covered b k) (hlistening : b.listening)
    {timeout : Option Nat} {poll : Option Nat → PollOutcome} {ready : List Readiness}
    {accepts : List AcceptEvent} (hpoll : poll (b.patience timeout) = .delivered ready accepts)
    (hcycle : Cycle b.acceptPending k (.delivered ready accepts) k')
    (hserved : b.acceptPending = true ∨ reportsListener ready = true) :
    ((b.update timeout poll).1.acceptPending = false → k'.waiting = 0) ∧
      k'.arrived = (b.update timeout poll).1.connections + k'.aborted + k'.waiting := by
  cases hcycle with
  | unserved _ _ hpending hreported =>
    rcases hserved with hserved | hserved
    · exact absurd (hpending.symm.trans hserved) Bool.false_ne_true
    · exact absurd (hreported.symm.trans hserved) Bool.false_ne_true
  | served hnodup _ _ haccepting =>
    exact (attemptsOnce_update hlistening hpoll hnodup hserved).drained haccepting h.counted

/-- **A cycle keeps the invariant**, however its wait ends. -/
theorem Covered.update {k k' : Backlog} (h : Covered b k) (hlistening : b.listening)
    {timeout : Option Nat} {poll : Option Nat → PollOutcome}
    (hcycle : Cycle b.acceptPending k (poll (b.patience timeout)) k') :
    Covered (b.update timeout poll).1 k' := by
  cases hpoll : poll (b.patience timeout) with
  | failed cause =>
    rw [hpoll] at hcycle
    cases hcycle
    rw [update_of_failed hlistening hpoll]
    exact h
  | delivered ready accepts =>
    rw [hpoll] at hcycle
    -- either the listening socket is served, or the backlog is as before and so is what covers it
    by_cases hserved : b.acceptPending = true ∨ reportsListener ready = true
    · obtain ⟨hdrained, hcounted⟩ := h.drained hlistening hpoll hcycle hserved
      refine ⟨fun hwaiting => Or.inr ?_, hcounted⟩
      exact Bool.not_eq_false _ ▸ fun hdone => hwaiting (hdrained hdone)
    · cases hcycle with
      | unserved _ _ hpending hreported =>
        exact h.spares (spares_update hlistening hpoll hpending hreported)
      | served _ hserved' => exact absurd hserved' hserved

/-! ### A session with its backlog -/

/-- A session, and the connections at its listening socket. -/
structure Entrance where
  session : Session
  backlog : Backlog := {}

/-- Whether an event may accept connections. -/
def Event.mayAccept : Event → Bool
  | accept _ => true
  | update _ _ => true
  | _ => false

namespace Entrance

/-- A new session at whose socket no connection has arrived. -/
def start (settings : BrokerSettings) (multiplexer : Multiplexer) (supply : Supply := {}) :
    Entrance where
  session := Session.start settings multiplexer supply

/-- What can happen to a session and its backlog. A connection that arrives in a cycle, but not while its
loop runs, arrives before or after it: nothing else in a cycle looks at the backlog. -/
inductive Step : Entrance → Entrance → Prop where
  | arrive (e : Entrance) (hlistening : e.session.broker.listening) :
    Step e { e with backlog := e.backlog.arrive }
  | update (e : Entrance) (timeout : Option Nat) (poll : Option Nat → PollOutcome)
    (backlog : Backlog) (hlistening : e.session.broker.listening)
    (hcycle : Cycle e.session.broker.acceptPending e.backlog
      (poll (e.session.broker.patience timeout)) backlog) :
    Step e { session := e.session.step (.update timeout poll), backlog }
  | other (e : Entrance) (event : Event) (hother : event.mayAccept = false) :
    Step e { e with session := e.session.step event }

theorem spares_step (s : Session) {event : Event} (h : event.mayAccept = false) :
    Spares s.broker (s.step event).broker := by
  cases event with
  | listen port setup => exact spares_listen s.broker port setup
  | accept attempts => cases h
  | readable id reads => exact spares_serveReadable s.broker id reads
  | writable id writes => exact spares_serveWritable s.broker id writes
  | close id => exact (keeps_close s.broker id).spares
  | update timeout poll => cases h
  | feed text =>
    rw [Session.step_feed]
    split <;> exact spares_feed s.broker text
  | pop =>
    unfold Session.step pop?
    cases s.broker.messages.pop? with
    | none => exact .refl _
    | some taken => exact ⟨rfl, rfl⟩

/-- **Everything that happens keeps the invariant.** -/
theorem covered_step {e e' : Entrance} (h : Covered e.session.broker e.backlog) (hstep : Step e e') :
    Covered e'.session.broker e'.backlog := by
  cases hstep with
  | arrive => exact ⟨fun _ => Or.inl rfl, congrArg (· + 1) h.counted⟩
  | update timeout poll backlog hlistening hcycle => exact h.update hlistening hcycle
  | other event hother => exact h.spares (spares_step e.session hother)

/-- **Every state that is reached has it.** -/
theorem covered_of_reachable {settings : BrokerSettings} {multiplexer : Multiplexer} {supply : Supply}
    {e : Entrance} (h : Relation.ReflTransGen Step (start settings multiplexer supply) e) :
    Covered e.session.broker e.backlog := by
  induction h with
  | refl => exact ⟨fun hwaiting => absurd rfl hwaiting, rfl⟩
  | tail _ hstep ih => exact covered_step ih hstep

/-- **No connection is stranded.** In every state that is reached, if connections wait then an edge is
still to be reported or accepting is to be tried again. While it is, a cycle does not wait, and tries
once, unless the wait fails and leaves all as it was. And a cycle that has served the listening socket
has taken every connection that waited when its loop ended, or leaves accepting to be tried again. -/
theorem no_stranded_connection (settings : BrokerSettings) (multiplexer : Multiplexer)
    (supply : Supply) {e : Entrance}
    (hreachable : Relation.ReflTransGen Step (start settings multiplexer supply) e) :
    let b := e.session.broker
    (e.backlog.waiting ≠ 0 → e.backlog.edge = true ∨ b.acceptPending = true) ∧
      e.backlog.arrived = b.connections + e.backlog.aborted + e.backlog.waiting ∧
      (b.listening → b.acceptPending = true → ∀ timeout poll,
        b.update timeout poll = b.update (some 0) (fun _ => poll (some 0)) ∧
          match poll (some 0) with
          | .failed _ => (b.update timeout poll).1 = b
          | .delivered ready accepts => (ready.map Readiness.token).Nodup →
            AttemptsOnce { b with acceptPending := false } (withRetry true ready) accepts
              (b.update timeout poll).1) ∧
      (b.listening → ∀ timeout poll ready accepts backlog,
        poll (b.patience timeout) = .delivered ready accepts →
        Cycle b.acceptPending e.backlog (.delivered ready accepts) backlog →
        b.acceptPending = true ∨ reportsListener ready = true →
        (b.update timeout poll).1.acceptPending = false → backlog.waiting = 0) := by
  intro b
  have h : Covered b e.backlog := covered_of_reachable hreachable
  refine ⟨h.heard, h.counted, fun hlistening hpending timeout poll => ?_,
    fun hlistening timeout poll ready accepts backlog hpoll hcycle hserved =>
      (h.drained hlistening hpoll hcycle hserved).1⟩
  refine ⟨update_of_pending hpending timeout poll, ?_⟩
  have hpatience : b.patience timeout = some 0 := if_pos hpending
  cases hpoll : poll (some 0) with
  | failed cause => exact update_of_failed hlistening (hpatience ▸ hpoll)
  | delivered ready accepts =>
    intro hnodup
    have honce := attemptsOnce_update hlistening (hpatience ▸ hpoll) hnodup (Or.inl hpending)
    rw [hpending] at honce
    exact honce

/-- A wait that reports the listening socket, whose first attempt then fails for want of a descriptor. -/
def scarce (_timeout : Option Nat) : PollOutcome :=
  .delivered [{ token := Token.listener, readable := true }] [.fault (.os 24)]

/-- A wait that is interrupted. -/
def disturbed (_timeout : Option Nat) : PollOutcome := .failed (.os 4)

/-- A wait that reports nothing, at a time when an attempt gets a connection, is interrupted, and gets
another. -/
def relieved (_timeout : Option Nat) : PollOutcome :=
  .delivered [] [.connection, .fault (.os 4), .connection]

/-- A connection could not be accepted. Another one arrives, and a wait is interrupted. -/
def crowd : Entrance where
  session := (Session.start {} {}).run
    [.listen 7777 (.ok ()), .update none scarce, .update none disturbed]
  backlog := { waiting := 2, edge := true, arrived := 2 }

/-- The next cycle does not wait for anything and takes them both. -/
theorem no_stranded_connection_crowd :
    let b := crowd.session.broker
    Relation.ReflTransGen Step (start {} {}) crowd ∧ crowd.backlog.waiting = 2 ∧
      b.acceptPending = true ∧ b.connections = 0 ∧
      AttemptsOnce { b with acceptPending := false } [{ token := Token.listener, readable := true }]
        [.connection, .fault (.os 4), .connection] (b.update none relieved).1 ∧
      (b.update none relieved).1.acceptPending = false ∧ (b.update none relieved).1.connections = 2 ∧
      ∃ backlog, Cycle b.acceptPending crowd.backlog (relieved none) backlog ∧ backlog.waiting = 0 := by
  intro b
  have hrun : b.listening = true ∧ b.acceptPending = true ∧ b.connections = 0 ∧
      (b.update none relieved).1.acceptPending = false ∧ (b.update none relieved).1.connections = 2 := by
    decide +kernel
  obtain ⟨hlistening, hpending, hzero, hdone, htwo⟩ := hrun
  let listening : Entrance := { session := (Session.start {} {}).run [.listen 7777 (.ok ())] }
  let failed : Entrance :=
    { session := listening.session.step (.update none scarce)
      backlog := { waiting := 1, arrived := 1 } }
  have hreachable : Relation.ReflTransGen Step (start {} {}) crowd := by
    have hlisten : Step (start {} {}) listening :=
      .other (start {} {}) (.listen 7777 (.ok ())) rfl
    have hfirst : Step listening { listening with backlog := listening.backlog.arrive } :=
      .arrive _ (by decide +kernel)
    have hscarce : Step { listening with backlog := listening.backlog.arrive } failed :=
      .update _ none scarce _ (by decide +kernel)
        (.served (by decide) (Or.inr rfl) (fun _ => rfl) (.failed (by decide)))
    have hsecond : Step failed { failed with backlog := failed.backlog.arrive } :=
      .arrive _ (by decide +kernel)
    have hdisturbed : Step { failed with backlog := failed.backlog.arrive } crowd :=
      .update _ none disturbed _ (by decide +kernel) (.failed _)
    exact (((((Relation.ReflTransGen.refl.tail hlisten).tail hfirst).tail hscarce).tail hsecond).tail
      hdisturbed)
  obtain ⟨-, -, hretry, hdrained⟩ := no_stranded_connection {} {} {} hreachable
  have honce := (hretry hlistening hpending none relieved).2 List.nodup_nil
  have hcycle : Cycle b.acceptPending crowd.backlog (relieved none)
      { waiting := 0, edge := true, arrived := 2 } :=
    .served List.nodup_nil (Or.inl hpending) nofun
      (.connection rfl (.interrupted (by decide) (.connection rfl (.drained rfl))))
  exact ⟨hreachable, rfl, hpending, hzero, honce, hdone, htwo, _, hcycle,
    hdrained hlistening none relieved [] _ _ rfl hcycle (Or.inl hpending) hdone⟩

end Entrance

end ChatRelay.Broker
