import ChatRelay.Proofs.Broker.Aside
import ChatRelay.Proofs.Broker.Backlog

/-!
# A failure does not end a batch

The ready sockets that a wait reports are served one after the other, and none is passed over because
another one failed. With memory for messages, only accepting can fail beyond a single peer. When it does,
the rest of the batch is served as if no more connections had been waiting; what is left of the failure is
what the cycle returns, a line in the journal, and that accepting is to be tried again.

- `AcceptEvent.failure?`, `AcceptEvent.calmed`: the attempt that fails, and the attempts with one in its
  place that would block.
- `acceptAll_calmed`: what a failure changes of a loop.
- `Broker.attend`: what is to be done for a ready socket (`fst_serve`).
- `serveAll_calmed`, `serveAll_withRetry`: what a failure changes of a batch.
- `failure_spares_batch`: all of it, for a cycle.
-/

namespace ChatRelay

/-! ### The attempts of a loop -/

namespace AcceptEvent

/-- Whether the loop goes on after an attempt. -/
def isPassing : AcceptEvent → Bool
  | connection => true
  | fault cause => cause.kind = .interrupted || cause.kind = .connectionAborted

/-- The fault that a loop fails with. It does not fail if it comes to an attempt that would block. -/
def failure? (attempts : List AcceptEvent) : Option IoError :=
  match attempts.find? (!·.isPassing) with
  | some (fault cause) => if cause.kind = .wouldBlock then none else some cause
  | _ => none

/-- The attempts of a loop up to its last, in whose place one would block. -/
def calmed (attempts : List AcceptEvent) : List AcceptEvent :=
  attempts.takeWhile isPassing ++ [fault .wouldBlock]

theorem calmed_of_passing {attempt : AcceptEvent} (h : attempt.isPassing)
    (rest : List AcceptEvent) :
    calmed (attempt :: rest) = attempt :: calmed rest ∧ failure? (attempt :: rest) = failure? rest := by
  simp [calmed, failure?, h]

theorem calmed_of_not_passing {cause : IoError} (h : ¬(fault cause).isPassing)
    (rest : List AcceptEvent) :
    calmed (fault cause :: rest) = [fault .wouldBlock] ∧
      failure? (fault cause :: rest) = if cause.kind = .wouldBlock then none else some cause := by
  simp [calmed, failure?, h]

end AcceptEvent

namespace Broker

open AcceptEvent

variable {b : Broker} {accepts : List AcceptEvent} {batch : List Readiness}

/-- A loop that fails leaves what it would leave if its last attempt would block, but for a line in the
journal and for what is to be tried again. -/
theorem acceptAll_calmed (b : Broker) (accepts : List AcceptEvent) :
    (b.acceptAll (calmed accepts)).2 = .ok () ∧
      b.acceptAll accepts = match failure? accepts with
        | none => ((b.acceptAll (calmed accepts)).1, .ok ())
        | some cause =>
          ({ (b.acceptAll (calmed accepts)).1 with acceptPending := true }.note (.acceptFailed cause),
            .error (.system cause)) := by
  fun_induction acceptAll b accepts with
  | case1 b => exact ⟨rfl, rfl⟩
  | case2 b rest ih => exact ih
  | case3 b cause rest hkind =>
    have hlast : ¬(fault cause).isPassing := by simp [isPassing, hkind]
    obtain ⟨hcalmed, hfailure⟩ := calmed_of_not_passing hlast rest
    rw [hcalmed, hfailure, if_pos hkind]
    exact ⟨rfl, rfl⟩
  | case4 b cause rest hkind ih =>
    have hpasses : (fault cause).isPassing := by simp [isPassing, hkind]
    obtain ⟨hcalmed, hfailure⟩ := calmed_of_passing hpasses rest
    simp only [hcalmed, hfailure, acceptAll, hkind]
    exact ih
  | case5 b cause rest hkind ih =>
    have hpasses : (fault cause).isPassing := by simp [isPassing, hkind]
    obtain ⟨hcalmed, hfailure⟩ := calmed_of_passing hpasses rest
    simp only [hcalmed, hfailure, acceptAll, hkind]
    exact ih
  | case6 b cause rest hblock hinterrupted haborted =>
    have hlast : ¬(fault cause).isPassing := by
      rw [isPassing, Bool.or_eq_true, decide_eq_true_iff, decide_eq_true_iff]
      exact not_or.2 ⟨hinterrupted, haborted⟩
    obtain ⟨hcalmed, hfailure⟩ := calmed_of_not_passing hlast rest
    rw [hcalmed, hfailure, if_neg hblock]
    exact ⟨rfl, rfl⟩

theorem acceptPending_accept (b : Broker) : b.accept.acceptPending = b.acceptPending := by
  rcases accept_cases b with ⟨_, _, _, heq, -⟩ | ⟨_, _, _, _, heq, -⟩ <;> rw [heq] <;> rfl

/-- A loop that does not fail leaves nothing to be tried again. -/
theorem acceptPending_acceptAll (h : (b.acceptAll accepts).2 = .ok ()) :
    (b.acceptAll accepts).1.acceptPending = b.acceptPending := by
  fun_induction acceptAll b accepts with
  | case1 => rfl
  | case2 b rest ih => exact (ih h).trans (acceptPending_accept b)
  | case3 => rfl
  | case4 b cause rest hkind ih => exact ih h
  | case5 b cause rest hkind ih => exact ih h
  | case6 => cases h

/-! ### Serving one ready socket -/

/-- The live peer that a token names. -/
def live? (b : Broker) (token : Token) : Option PeerId :=
  (PeerId.ofToken? token).filter b.peers.contains

/-- What is to be done for a ready socket: connections are accepted at the listening one; a live peer is
read from, and written to if it is live then. -/
def attend (accepts : List AcceptEvent) (b : Broker) (ready : Readiness) : Broker :=
  if ready.token = Token.listener then (b.acceptAll accepts).1
  else match b.live? ready.token with
    | none => b
    | some id =>
      let b := if ready.readable then (b.serveReadable id ready.traffic.reads).1 else b
      if ready.writable && b.peers.contains id then b.serveWritable id ready.traffic.writes else b

/-- There is nothing to read from, or to write to, where there is no peer. -/
theorem serve_of_not_contains {id : PeerId} (h : ¬b.peers.contains id) :
    (∀ reads, b.serveReadable id reads = (b, .ok ())) ∧ ∀ writes, b.serveWritable id writes = b := by
  have hnone : b.peers.get? id = none := Option.not_isSome_iff_eq_none.1 h
  exact ⟨serveReadable_of_none hnone, serveWritable_of_none hnone⟩

/-- Serving a ready socket does what is to be done for it. -/
theorem fst_serve (accepts : List AcceptEvent) (b : Broker) (ready : Readiness) :
    (b.serve accepts ready).1 = attend accepts b ready := by
  unfold serve attend live?
  split
  · rfl
  cases PeerId.ofToken? ready.token with
  | none => rfl
  | some id =>
    have hwrite (b : Broker) :
        (if ready.writable then b.serveWritable id ready.traffic.writes else b) =
          if ready.writable && b.peers.contains id then b.serveWritable id ready.traffic.writes
          else b := by
      by_cases hlive : b.peers.contains id
      · simp only [hlive, Bool.and_true]
      · simp only [hlive, Bool.and_false, Bool.false_eq_true, if_false, ite_eq_right_iff]
        exact fun _ => (serve_of_not_contains hlive).2 _
    have hread : (if ready.readable then b.serveReadable id ready.traffic.reads else (b, .ok ())).1 =
        if ready.readable then (b.serveReadable id ready.traffic.reads).1 else b := by
      split <;> rfl
    simp only [hwrite, hread]
    by_cases hlive : b.peers.contains id
    · simp only [Option.filter_some, hlive, if_true]
    · simp only [Option.filter_some, hlive, Bool.false_eq_true, if_false,
        (serve_of_not_contains hlive).1, ite_self, Bool.and_false]

/-- The attempts to accept do not matter for another socket than the listening one. -/
theorem serve_of_ne {ready : Readiness} (h : ready.token ≠ Token.listener)
    (accepts accepts' : List AcceptEvent) (b : Broker) :
    b.serve accepts ready = b.serve accepts' ready := by
  unfold serve
  rw [if_neg h, if_neg h]

/-- With memory for messages, serving a peer does not fail. -/
theorem serve_of_ample {ready : Readiness} (h : ready.token ≠ Token.listener)
    (hgranted : b.messages.memory.Ample) (accepts : List AcceptEvent) :
    (b.serve accepts ready).1.messages.memory.Ample ∧ (b.serve accepts ready).2 = .ok () := by
  unfold serve
  rw [if_neg h]
  split
  · exact ⟨hgranted, rfl⟩
  next id _ =>
  have hread : (if ready.readable then b.serveReadable id ready.traffic.reads
      else (b, .ok ())).1.messages.memory.Ample ∧
      (if ready.readable then b.serveReadable id ready.traffic.reads else (b, .ok ())).2 = .ok () := by
    split
    · exact serveReadable_of_ample hgranted id _
    · exact ⟨hgranted, rfl⟩
  refine ⟨?_, hread.2⟩
  simp only
  split
  · rw [(touches_serveWritable _ id _).keeps.messages]
    exact hread.1
  · exact hread.1

/-- A token of nobody changes nothing. -/
theorem attend_of_nobody {ready : Readiness} (h : ready.token ≠ Token.listener)
    (hnobody : b.live? ready.token = none) : attend accepts b ready = b := by
  unfold attend
  rw [if_neg h, hnobody]

/-- Once its own reading has removed a peer, it does not matter that it could be written to. -/
theorem attend_of_removed {ready : Readiness} (h : ready.token ≠ Token.listener) {id : PeerId}
    (hlive : b.live? ready.token = some id) (hreadable : ready.readable)
    (hremoved : (b.serveReadable id ready.traffic.reads).1.peers.get? id = none) :
    attend accepts b ready = attend accepts b { ready with writable := false } := by
  have hnot : (b.serveReadable id ready.traffic.reads).1.peers.contains id = false :=
    Option.isSome_eq_false_iff.2 (Option.isNone_iff_eq_none.2 hremoved)
  unfold attend
  simp only [if_neg h, hlive, if_pos hreadable, hnot, Bool.and_false]

/-! ### Serving a batch -/

/-- Serving a batch does what is to be done for each of its sockets in turn. -/
theorem fst_serveAll_attend (accepts : List AcceptEvent) (b : Broker) (batch : List Readiness) :
    (b.serveAll accepts batch).1 = batch.foldl (attend accepts) b := by
  rw [fst_serveAll]
  simp only [fst_serve]

/-- Without the listening socket in a batch, no attempt to accept matters. -/
theorem serveAll_of_ne (h : ∀ ready ∈ batch, ready.token ≠ Token.listener)
    (accepts accepts' : List AcceptEvent) (b : Broker) :
    b.serveAll accepts batch = b.serveAll accepts' batch := by
  induction batch generalizing b with
  | nil => rfl
  | cons ready rest ih =>
    obtain ⟨hready, hrest⟩ := List.forall_mem_cons.1 h
    unfold serveAll at ih ⊢
    rw [inTurn_cons, inTurn_cons, serve_of_ne hready accepts accepts', ih hrest]

/-- And with memory for messages such a batch cannot fail. -/
theorem serveAll_of_ample (h : ∀ ready ∈ batch, ready.token ≠ Token.listener)
    (hgranted : b.messages.memory.Ample) (accepts : List AcceptEvent) :
    (b.serveAll accepts batch).1.messages.memory.Ample ∧ (b.serveAll accepts batch).2 = .ok () :=
  inTurn_ok (P := fun b => b.messages.memory.Ample) hgranted
    fun _ hb ready hready => serve_of_ample (h ready hready) hb accepts

/-- Nor does anything that stands aside matter. -/
theorem serveAll_beside (h : ∀ ready ∈ batch, ready.token ≠ Token.listener)
    (accepts : List AcceptEvent) (a : Aside) (b : Broker) :
    (beside a b).serveAll accepts batch =
      (beside a (b.serveAll accepts batch).1, (b.serveAll accepts batch).2) := by
  induction batch generalizing b with
  | nil => rfl
  | cons ready rest ih =>
    obtain ⟨hready, hrest⟩ := List.forall_mem_cons.1 h
    unfold serveAll at ih ⊢
    rw [inTurn_cons, inTurn_cons, serve_beside a b accepts hready, ih hrest]

/-- A batch in which accepting does not fail leaves nothing to be tried again. -/
theorem acceptPending_serveAll (h : ∀ b : Broker, (b.acceptAll accepts).2 = .ok ()) (b : Broker)
    (batch : List Readiness) : (b.serveAll accepts batch).1.acceptPending = b.acceptPending := by
  rw [fst_serveAll]
  refine List.foldlRecOn (motive := fun b' : Broker => b'.acceptPending = b.acceptPending) _ _ rfl ?_
  intro b' hb' ready _
  refine Eq.trans ?_ hb'
  by_cases htoken : ready.token = Token.listener
  · unfold serve
    rw [if_pos htoken]
    exact acceptPending_acceptAll (h b')
  · exact (spares_serve accepts b' htoken).acceptPending

/-- The second broker is the first but that it has failed to accept: its journal tells so in one line
more, and accepting is to be tried again. -/
def FailedIn (cause : IoError) (calm b : Broker) : Prop :=
  ∃ earlier later, calm.journal = earlier ++ later ∧
    b = { calm with
      acceptPending := true
      journal := earlier.push (.acceptFailed cause) ++ later }

/-- The listening socket splits a batch in which it stands once: whatever the attempts are, the loop that
accepts is reached in one state. -/
theorem serveAll_split (accepts : List AcceptEvent) (b : Broker) {before after : List Readiness}
    {listener : Readiness} (htoken : listener.token = Token.listener)
    (hothers : ∀ other ∈ before ++ after, other.token ≠ Token.listener) :
    let reached := b.serveAll [] before
    let accepted := reached.1.acceptAll accepts
    let rest := accepted.1.serveAll [] after
    b.serveAll accepts (before ++ listener :: after) =
      (rest.1, keepFirst reached.2 (keepFirst accepted.2 rest.2)) := by
  have hbefore : ∀ other ∈ before, other.token ≠ Token.listener := fun other hother =>
    hothers other (List.mem_append_left _ hother)
  have hafter : ∀ other ∈ after, other.token ≠ Token.listener := fun other hother =>
    hothers other (List.mem_append_right _ hother)
  have hone (b : Broker) : b.serve accepts listener = b.acceptAll accepts := by
    rw [serve, if_pos htoken]
  intro reached accepted rest
  have hreached : b.serveAll accepts before = reached := serveAll_of_ne hbefore accepts [] b
  have hrest : accepted.1.serveAll accepts after = rest := serveAll_of_ne hafter accepts [] _
  unfold serveAll at hreached hrest ⊢
  rw [inTurn_append, hreached, inTurn_cons, hone, hrest]

/-- A loop that fails in the midst of a batch leaves the rest of the batch as it is. -/
theorem serveAll_calmed (accepts : List AcceptEvent) (b : Broker) {before after : List Readiness}
    {listener : Readiness} (htoken : listener.token = Token.listener)
    (hothers : ∀ other ∈ before ++ after, other.token ≠ Token.listener) :
    let batch := before ++ listener :: after
    (b.messages.memory.Ample → (b.serveAll (calmed accepts) batch).2 = .ok ()) ∧
      match failure? accepts with
      | none => b.serveAll accepts batch = b.serveAll (calmed accepts) batch
      | some cause =>
        FailedIn cause (b.serveAll (calmed accepts) batch).1 (b.serveAll accepts batch).1 ∧
        (b.messages.memory.Ample → (b.serveAll accepts batch).2 = .error (.system cause)) := by
  intro batch
  have hbefore : ∀ other ∈ before, other.token ≠ Token.listener := fun other hother =>
    hothers other (List.mem_append_left _ hother)
  have hafter : ∀ other ∈ after, other.token ≠ Token.listener := fun other hother =>
    hothers other (List.mem_append_right _ hother)
  -- both runs come to the listening socket in the same state, and go on alike from what it leaves
  let reached := b.serveAll [] before
  obtain ⟨hcalm, hloop⟩ := acceptAll_calmed reached.1 accepts
  rw [serveAll_split accepts b htoken hothers, serveAll_split (calmed accepts) b htoken hothers]
  simp only
  have hgranted (h : b.messages.memory.Ample) : reached.2 = .ok () ∧
      (((reached.1.acceptAll (calmed accepts)).1.serveAll [] after).2 = .ok ()) := by
    obtain ⟨hkept, hok⟩ := serveAll_of_ample hbefore h []
    have hdrained : (reached.1.acceptAll (calmed accepts)).1.messages.memory.Ample := by
      obtain ⟨entries, -, hfills, -⟩ := (serves_acceptAll reached.1 (calmed accepts)).grows
      exact hfills.granted hkept
    exact ⟨hok, (serveAll_of_ample hafter hdrained []).2⟩
  refine ⟨fun h => ?_, ?_⟩
  · obtain ⟨hfirst, hlast⟩ := hgranted h
    rw [hfirst, hcalm, hlast]
    rfl
  rw [hloop]
  cases hfailure : failure? accepts with
  | none =>
    show _ = (_, keepFirst reached.2 (keepFirst (reached.1.acceptAll (calmed accepts)).2 _))
    rw [hcalm]
  | some cause =>
    refine ⟨?_, fun h => ?_⟩
    · generalize (reached.1.acceptAll (calmed accepts)).1 = drained
      let fresh := { drained with journal := #[] }
      have hdrained : drained =
          beside ⟨drained.journal, drained.acceptPending, drained.localLines⟩ fresh := by
        simp [beside, fresh]
      have hfailed : { drained with acceptPending := true }.note (.acceptFailed cause) =
          beside ⟨drained.journal.push (.acceptFailed cause), true, drained.localLines⟩ fresh := by
        simp [beside, note, fresh]
      have hcalmed := serveAll_beside hafter [] ⟨drained.journal, drained.acceptPending,
        drained.localLines⟩ fresh
      rw [← hdrained] at hcalmed
      refine ⟨drained.journal, (fresh.serveAll [] after).1.journal, ?_, ?_⟩
      · show (drained.serveAll [] after).1.journal = _
        rw [hcalmed]
        rfl
      · show (({ drained with acceptPending := true }.note (.acceptFailed cause)).serveAll [] after).1 = _
        rw [hfailed, serveAll_beside hafter, hcalmed]
        rfl
    · rw [(hgranted h).1]
      rfl

/-! ### A cycle -/

/-- The listening socket is in the batch if accepting is to be tried again, or if it is reported. -/
theorem reportsListener_withRetry (retry : Bool) (ready : List Readiness) :
    reportsListener (withRetry retry ready) ↔ retry = true ∨ reportsListener ready = true := by
  unfold withRetry reportsListener
  split
  · next h => simp_all
  · next h => cases retry <;> simp_all

/-- A batch that names each socket once is served as if the attempt that fails would have blocked. -/
theorem serveAll_withRetry (accepts : List AcceptEvent) (b : Broker) {retry : Bool}
    {ready : List Readiness} (hnodup : (ready.map Readiness.token).Nodup) :
    let batch := withRetry retry ready
    (b.messages.memory.Ample → (b.serveAll (calmed accepts) batch).2 = .ok ()) ∧
      match if reportsListener batch then failure? accepts else none with
      | none => b.serveAll accepts batch = b.serveAll (calmed accepts) batch
      | some cause =>
        FailedIn cause (b.serveAll (calmed accepts) batch).1 (b.serveAll accepts batch).1 ∧
        (b.messages.memory.Ample → (b.serveAll accepts batch).2 = .error (.system cause)) := by
  intro batch
  by_cases hreported : reportsListener batch
  · obtain ⟨before, listener, rest, heq, htoken, hothers⟩ :=
      withRetry_eq hnodup ((reportsListener_withRetry retry ready).1 hreported)
    have hcalmed := serveAll_calmed accepts b htoken hothers
    rw [← heq] at hcalmed
    rw [if_pos hreported]
    exact hcalmed
  · have hothers : ∀ other ∈ batch, other.token ≠ Token.listener := fun other hother =>
      of_decide_eq_false (Bool.eq_false_iff.2
        (List.any_eq_false.1 (Bool.eq_false_iff.2 hreported) other hother))
    rw [if_neg hreported]
    exact ⟨fun h => (serveAll_of_ample hothers h (calmed accepts)).2,
      serveAll_of_ne hothers accepts (calmed accepts) b⟩

/-- A cycle in which the time runs out changes nothing. -/
theorem update_of_timedOut {timeout : Option Nat} {poll : Option Nat → PollOutcome}
    (h : (b.update timeout poll).2 = .ok .timedOut) : (b.update timeout poll).1 = b := by
  unfold update at h ⊢
  split at h
  · next hlistening =>
    simp only [if_pos hlistening] at h ⊢
    cases hpoll : poll (if b.acceptPending then some 0 else timeout) with
    | failed cause => rfl
    | delivered ready accepts =>
      simp only [hpoll] at h ⊢
      split at h
      · next hidle =>
        -- nothing was to be tried again, so there was nothing to give up
        have hpending := hidle
        rw [Bool.and_eq_true, Bool.not_eq_true'] at hpending
        rw [if_pos hidle, ← hpending.2]
      · -- a batch that is served is never one in which the time ran out
        unfold Except.map at h
        split at h <;> cases h
  · cases h

/-- **A failure does not end a batch.** In a cycle whose wait reports something, or in which accepting is
to be tried again, every entry of the batch is attended to in its turn. An entry of nobody, and the
writing to a peer that its own reading has removed, might as well be left out. If the loop that accepts
does not fail, the cycle returns that it has served something, whatever became of the peers. If it does,
the cycle returns that failure; it leaves the broker that it would leave if the attempt would have
blocked, but for a line in the journal and for what is to be tried again. Only a message for which there
is no memory is another failure that the cycle can return.

A cycle in which the time runs out changes nothing. -/
theorem failure_spares_batch (hlistening : b.listening) (timeout : Option Nat) :
    (∀ poll ready accepts, poll (b.patience timeout) = .delivered ready accepts →
      (ready.map Readiness.token).Nodup → withRetry b.acceptPending ready ≠ [] →
      let batch := withRetry b.acceptPending ready
      let start := { b with acceptPending := false }
      let calm := b.update timeout fun _ => .delivered ready (calmed accepts)
      let after := (b.update timeout poll).1
      let outcome := (b.update timeout poll).2
      after = batch.foldl (attend accepts) start ∧
      (∀ before entry rest, batch = before ++ entry :: rest → entry.token ≠ Token.listener →
        let reached := before.foldl (attend accepts) start
        (reached.live? entry.token = none → after = (before ++ rest).foldl (attend accepts) start) ∧
        ∀ id, reached.live? entry.token = some id → entry.readable →
          (reached.serveReadable id entry.traffic.reads).1.peers.get? id = none →
          after = (before ++ { entry with writable := false } :: rest).foldl (attend accepts) start) ∧
      calm.1.acceptPending = false ∧ (b.messages.memory.Ample → calm.2 = .ok .processed) ∧
      match if reportsListener batch then failure? accepts else none with
      | none => outcome = calm.2 ∧ after = calm.1
      | some cause => FailedIn cause calm.1 after ∧
        (b.messages.memory.Ample → outcome = .error (.system cause))) ∧
    ∀ poll, (b.update timeout poll).2 = .ok .timedOut → (b.update timeout poll).1 = b := by
  refine ⟨fun poll ready accepts hpoll hnodup hbatch => ?_, fun poll => update_of_timedOut⟩
  intro batch start calm after outcome
  have hafter : after = (start.serveAll accepts batch).1 ∧
      outcome = (start.serveAll accepts batch).2.map fun () => .processed := by
    have hupdate := update_of_delivered hlistening hpoll hbatch
    exact ⟨congrArg Prod.fst hupdate, congrArg Prod.snd hupdate⟩
  have hcalm : calm = ((start.serveAll (calmed accepts) batch).1,
      (start.serveAll (calmed accepts) batch).2.map fun () => .processed) :=
    update_of_delivered hlistening rfl hbatch
  rw [hafter.1, hafter.2, hcalm]
  refine ⟨fst_serveAll_attend .., fun before entry rest heq hentry => ?_, ?_⟩
  · rw [fst_serveAll_attend, heq, List.foldl_append, List.foldl_append, List.foldl_append,
      List.foldl_cons, List.foldl_cons]
    refine ⟨fun hnobody => ?_, fun id hlive hreadable hremoved => ?_⟩
    · rw [attend_of_nobody hentry hnobody]
    · rw [attend_of_removed hentry hlive hreadable hremoved]
  · obtain ⟨hok, hfailure⟩ := serveAll_withRetry accepts start hnodup
    refine ⟨acceptPending_serveAll (fun b => (acceptAll_calmed b accepts).1) start batch,
      fun hgranted => ?_, ?_⟩
    · exact congrArg (Except.map fun () => UpdateStatus.processed) (hok hgranted)
    cases hcause : if reportsListener batch then failure? accepts else none with
    | none =>
      rw [hcause] at hfailure
      exact ⟨congrArg (·.2.map fun () => UpdateStatus.processed) hfailure, congrArg Prod.fst hfailure⟩
    | some cause =>
      rw [hcause] at hfailure
      exact ⟨hfailure.1, fun hgranted => congrArg (Except.map _) (hfailure.2 hgranted)⟩

/-- A broker that has taken in five connections and has a line to write to each. The multiplexer will arm
them all, and once more; then it refuses. -/
def company : Broker :=
  ((Session.start {} { rearmVerdicts := List.replicate 6 none ++ [some (.os 12)] }).run
    [.listen 7777 (.ok ()), .accept (List.replicate 5 .connection),
      .feed (Text.utf8 "welcome\n")]).broker

/-- A batch in which little goes well: the first token is of nobody, the first peer leaves as soon as it
has said its name, and reading from the second fails. The third one says its name and takes the line.
Writing to the fourth fails, and the multiplexer refuses the fifth once it has taken the line. -/
def troubled : List Readiness :=
  [{ token := PeerId.token ⟨7, 7⟩, readable := true, writable := true },
    { token := Session.firstPeer.token, readable := true, writable := true,
      traffic := { reads := [.data (Text.utf8 "ann\x00"), .endOfStream] } },
    { token := Token.listener, readable := true },
    { token := Session.secondPeer.token, readable := true,
      traffic := { reads := [.fault (.os 5)] } },
    { token := PeerId.token ⟨2, 2⟩, readable := true, writable := true,
      traffic := { reads := [.data (Text.utf8 "cat\x00")], writes := [.accept 100] } },
    { token := PeerId.token ⟨3, 3⟩, writable := true,
      traffic := { writes := [.accept 3, .fault (.os 32)] } },
    { token := PeerId.token ⟨4, 4⟩, writable := true, traffic := { writes := [.accept 100] } }]

/-- One more connection is taken in before an attempt fails for want of a descriptor. The peers that stand
behind in the batch are served all the same: the third has its name and the line, and the two to which
writing goes wrong are dropped. -/
theorem failure_spares_batch_troubled :
    let result := company.update none fun _ => .delivered troubled [.connection, .fault (.os 24)]
    let calm := company.update none fun _ => .delivered troubled [.connection, .fault .wouldBlock]
    company.listening = true ∧ company.messages.memory.Ample ∧
      result.2 = .error (.system (.os 24)) ∧
      FailedIn (.os 24) calm.1 result.1 ∧ calm.2 = .ok .processed ∧
      result.1 = troubled.foldl (attend [.connection, .fault (.os 24)]) company ∧
      result.1.acceptPending = true ∧ result.1.connections = 6 ∧ result.1.peerNames = ["cat"] ∧
      (result.1.peers.get? ⟨2, 2⟩).map (·.outbound.unconsumed) = some [] ∧
      result.1.peers.get? ⟨3, 3⟩ = none ∧ result.1.peers.get? ⟨4, 4⟩ = none ∧
      (company.update (some 9) fun _ => .delivered [] []).1 = company := by
  intro result calm
  have hlistening : company.listening = true ∧ company.acceptPending = false ∧
      company.messages.memory.Ample := by decide +kernel
  obtain ⟨hlistening, hpending, hgranted⟩ := hlistening
  have hbatch : withRetry company.acceptPending troubled = troubled := by rw [hpending]; rfl
  have hstart : { company with acceptPending := false } = company := by rw [← hpending]
  obtain ⟨hfold, -, -, hprocessed, houtcome⟩ := (failure_spares_batch hlistening none).1
    (fun _ => .delivered troubled [.connection, .fault (.os 24)]) troubled _ rfl (by decide)
    (by rw [hbatch]; exact List.cons_ne_nil _ _)
  rw [hbatch, hstart] at hfold
  rw [hbatch] at houtcome
  have htimedOut : (company.update (some 9) fun _ => .delivered [] []).2 = .ok .timedOut := by
    decide +kernel
  have hafter : result.1.acceptPending = true ∧ result.1.connections = 6 ∧
      result.1.peerNames = ["cat"] ∧
      (result.1.peers.get? ⟨2, 2⟩).map (·.outbound.unconsumed) = some [] ∧
      (result.1.peers.get? ⟨3, 3⟩).isNone ∧ (result.1.peers.get? ⟨4, 4⟩).isNone := by
    decide +kernel
  obtain ⟨hretry, hconnections, hnames, htaken, hfailed, hrefused⟩ := hafter
  exact ⟨hlistening, hgranted, houtcome.2 hgranted, houtcome.1, hprocessed hgranted, hfold, hretry,
    hconnections, hnames, htaken, Option.isNone_iff_eq_none.1 hfailed,
    Option.isNone_iff_eq_none.1 hrefused, (failure_spares_batch hlistening (some 9)).2 _ htimedOut⟩

end Broker

end ChatRelay
