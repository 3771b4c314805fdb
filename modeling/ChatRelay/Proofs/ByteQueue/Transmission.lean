import ChatRelay.Proofs.ByteQueue.Transfer

/-!
# Passes of writing into any sink

A pass offers a sink all the bytes that wait until none is left or the sink ends it. What the sink took
and what is left are then the bytes that waited, in this order. So nothing is lost between passes, and
nothing is sent twice, whatever comes into the queue in between.

- `Drains`: the rules of a pass, on the bytes alone.
- `Drains.written_append`, `Drains.complete_iff`: what was written and what is left are the bytes that
  waited, and a pass is complete if nothing is left.
- `ByteQueue.drains_send`: a pass of a queue follows the rules.
- `Turn`, `ByteQueue.exchange`: passes and pushes in turn; `sent_append_unconsumed`: what was sent and
  what is left are what waited at first and what was appended.
- `ByteQueue.sends_in_order`: all of it, for any queue, any sink and any turns.
-/

namespace ChatRelay

/-- The rules of a pass over the bytes that wait: what each write is offered, what the sink takes, what
is left, how the pass ends and what the sink does not answer any more. -/
inductive Drains : (waiting : List UInt8) → (sink : List WriteEvent) → (offers : List (List UInt8)) →
    (written left : List UInt8) → (outcome : Except RelayError SendStatus) →
    (rest : List WriteEvent) → Prop
  /-- Nothing waits, and nothing is offered. -/
  | complete {sink} : Drains [] sink [] [] [] (.ok .complete) sink
  /-- The sink would block. -/
  | blocked {waiting} (hne : waiting ≠ []) : Drains waiting [] [waiting] [] waiting (.ok .partly) []
  | wouldBlock {waiting cause rest} (hne : waiting ≠ []) (hc : cause.kind = .wouldBlock) :
    Drains waiting (.fault cause :: rest) [waiting] [] waiting (.ok .partly) rest
  /-- The sink takes nothing. -/
  | refused {waiting rest} (hne : waiting ≠ []) :
    Drains waiting (.accept 0 :: rest) [waiting] [] waiting
      (.error (.system (.custom .writeZero "write returned 0"))) rest
  | failed {waiting cause rest} (hne : waiting ≠ []) (hblock : cause.kind ≠ .wouldBlock)
    (hinterrupt : cause.kind ≠ .interrupted) :
    Drains waiting (.fault cause :: rest) [waiting] [] waiting (.error (.system cause)) rest
  /-- An interrupted write is repeated. -/
  | interrupted {waiting cause rest offers written left outcome unasked} (hne : waiting ≠ [])
    (hc : cause.kind = .interrupted)
    (more : Drains waiting rest offers written left outcome unasked) :
    Drains waiting (.fault cause :: rest) (waiting :: offers) written left outcome unasked
  /-- The sink takes some bytes, and the others are offered next. -/
  | accepted {waiting count rest offers written left outcome unasked} (hne : waiting ≠ [])
    (hcount : count ≠ 0)
    (more : Drains (waiting.drop count) rest offers written left outcome unasked) :
    Drains waiting (.accept count :: rest) (waiting :: offers) (waiting.take count ++ written) left
      outcome unasked

namespace Drains

variable {waiting written left : List UInt8} {sink rest : List WriteEvent}
  {offers : List (List UInt8)} {outcome : Except RelayError SendStatus}

/-- **What was written and what is left are the bytes that waited.** -/
theorem written_append (h : Drains waiting sink offers written left outcome rest) :
    written ++ left = waiting := by
  induction h with
  | complete | blocked | wouldBlock | refused | failed => rfl
  | interrupted _ _ _ ih => exact ih
  | accepted _ _ _ ih => rw [List.append_assoc, ih, List.take_append_drop]

/-- A pass is complete if nothing is left, and only then. -/
theorem complete_iff (h : Drains waiting sink offers written left outcome rest) :
    outcome = .ok .complete ↔ left = [] := by
  induction h with
  | complete => exact iff_of_true rfl rfl
  | blocked hne | wouldBlock hne | refused hne | failed hne => exact iff_of_false nofun hne
  | interrupted _ _ _ ih => exact ih
  | accepted _ _ _ ih => exact ih

/-- Each write is offered what is left of the bytes that waited, and there is some. -/
theorem offered (h : Drains waiting sink offers written left outcome rest) :
    ∀ offer ∈ offers, offer ≠ [] ∧ offer <:+ waiting := by
  induction h with
  | complete => exact List.forall_mem_nil _
  | blocked hne | wouldBlock hne | refused hne | failed hne =>
    exact List.forall_mem_singleton.2 ⟨hne, List.suffix_rfl⟩
  | interrupted hne _ _ ih => exact List.forall_mem_cons.2 ⟨⟨hne, List.suffix_rfl⟩, ih⟩
  | accepted hne _ _ ih =>
    refine List.forall_mem_cons.2 ⟨⟨hne, List.suffix_rfl⟩, fun offer hoffer => ?_⟩
    obtain ⟨hsome, hsuffix⟩ := ih offer hoffer
    exact ⟨hsome, hsuffix.trans (List.drop_suffix ..)⟩

end Drains

namespace ByteQueue

/-- A sink takes no more than it is offered. -/
theorem peek_min (q : ByteQueue) (count : Nat) :
    q.peek (min count q.pending) = q.unconsumed.take count := by
  rw [peek_eq_take, ← length_unconsumed, ← List.take_eq_take_min]

theorem unconsumed_skip_min (q : ByteQueue) (count : Nat) :
    (q.skip (min count q.pending)).unconsumed = q.unconsumed.drop count := by
  rw [unconsumed_skip, ← length_unconsumed, ← List.drop_eq_drop_min]

/-- **A pass of a queue follows the rules**, wherever the live bytes stand. -/
theorem drains_send (q : ByteQueue) (sink : List WriteEvent) :
    ∃ offers, Drains q.unconsumed sink offers (q.send sink).written (q.send sink).queue.unconsumed
        (q.send sink).outcome (q.send sink).rest ∧
      (q.send sink).offered = offers.map List.length := by
  have hoffer (q : ByteQueue) (offers : List (List UInt8)) :
      q.pending :: offers.map List.length = (q.unconsumed :: offers).map List.length := by
    rw [List.map_cons, length_unconsumed]
  fun_induction send q sink with
  | case1 q h => exact ⟨_, .blocked (hasPending_iff.1 h), hoffer q []⟩
  | case2 q h count rest taken hzero =>
    have hne := hasPending_iff.1 h
    have hpending := q.length_unconsumed ▸ List.length_pos_iff.2 hne
    have hcount : count = 0 := by omega
    subst hcount
    exact ⟨_, .refused hne, hoffer q []⟩
  | case3 q h count rest taken hne more ih =>
    obtain ⟨offers, hdrains, hoffered⟩ := ih
    have hcount : count ≠ 0 := by omega
    rw [unconsumed_skip_min] at hdrains
    refine ⟨_, ?_, (congrArg _ hoffered).trans (hoffer q _)⟩
    show Drains _ _ _ (q.peek taken ++ more.written) _ _ _
    rw [peek_min]
    exact .accepted (hasPending_iff.1 h) hcount hdrains
  | case4 q h cause rest hc more ih =>
    obtain ⟨offers, hdrains, hoffered⟩ := ih
    exact ⟨_, .interrupted (hasPending_iff.1 h) hc hdrains, (congrArg _ hoffered).trans (hoffer q _)⟩
  | case5 q h cause rest hc outcome =>
    refine ⟨_, ?_, hoffer q []⟩
    show Drains q.unconsumed (.fault cause :: rest) _ [] q.unconsumed outcome rest
    by_cases hblock : cause.kind = .wouldBlock
    · rw [show outcome = .ok .partly by simp only [outcome, hblock]]
      exact .wouldBlock (hasPending_iff.1 h) hblock
    · rw [show outcome = .error (.system cause) by simp only [outcome]]
      exact .failed (hasPending_iff.1 h) hblock hc
  | case6 sink q h =>
    refine ⟨[], ?_, rfl⟩
    show Drains q.unconsumed sink [] [] q.clear.unconsumed _ sink
    rw [unconsumed_eq_nil h, unconsumed_clear]
    exact .complete

/-- The region stays as large as it is. -/
theorem capacity_send (q : ByteQueue) (sink : List WriteEvent) :
    (q.send sink).queue.capacity = q.capacity := by
  fun_induction send q sink with
  | case1 | case2 | case5 | case6 => rfl
  | case3 q h count rest taken hne more ih => exact ih
  | case4 q h cause rest hc more ih => exact ih

/-- A complete pass lets the region start afresh. -/
theorem reset_of_complete {q : ByteQueue} {sink : List WriteEvent}
    (h : (q.send sink).outcome = .ok .complete) :
    (q.send sink).queue.size = 0 ∧ (q.send sink).queue.consumed = 0 := by
  fun_induction send q sink with
  | case1 | case2 => cases h
  | case3 q hpending count rest taken hne more ih => exact ih h
  | case4 q hpending cause rest hc more ih => exact ih h
  | case5 q hpending cause rest hc outcome =>
    -- a fault blocks the pass or fails it
    change outcome = _ at h
    unfold outcome at h
    split at h <;> cases h
  | case6 => exact ⟨rfl, rfl⟩

/-! ### Passes and pushes in turn -/

/-- Something that is done to a queue of output. -/
inductive Turn where
  | push (bytes : List UInt8)
  | send (sink : List WriteEvent)

/-- The bytes that are pushed, in order. -/
def pushedIn (turns : List Turn) : List UInt8 :=
  turns.flatMap fun
    | .push bytes => bytes
    | .send _ => []

/-- The bytes of those pushes that are not refused. -/
def appendedIn (q : ByteQueue) : List Turn → List UInt8
  | [] => []
  | .push bytes :: rest =>
    match q.tryPush bytes with
    | (q, .ok ()) => bytes ++ q.appendedIn rest
    | (q, .error _) => q.appendedIn rest
  | .send sink :: rest => (q.send sink).queue.appendedIn rest

/-- The queue after some turns, and the bytes that the sinks took. -/
def exchange (q : ByteQueue) : List Turn → ByteQueue × List UInt8
  | [] => (q, [])
  | .push bytes :: rest => (q.push bytes).exchange rest
  | .send sink :: rest =>
    let pass := q.send sink
    let (q, sent) := pass.queue.exchange rest
    (q, pass.written ++ sent)

/-- **Nothing is lost, repeated or reordered**: what was sent and what is left are what waited at first
and what was appended. -/
theorem sent_append_unconsumed (q : ByteQueue) (turns : List Turn) :
    (q.exchange turns).2 ++ (q.exchange turns).1.unconsumed = q.unconsumed ++ q.appendedIn turns := by
  induction turns generalizing q with
  | nil => exact (List.append_nil _).symm
  | cons turn rest ih =>
    cases turn with
    | push bytes =>
      have hrest := ih (q.push bytes)
      have hcases := q.tryPush_cases bytes
      rw [exchange, appendedIn]
      rw [push] at hrest hcases ⊢
      rcases hpush : q.tryPush bytes with ⟨q', outcome⟩
      rw [hpush] at hrest hcases
      obtain ⟨rfl, hlive⟩ | ⟨-, ⟨_, rfl⟩, hlive⟩ := hcases
      · rwa [hlive, List.append_assoc] at hrest
      · rwa [hlive] at hrest
    | send sink =>
      have hrest := ih (q.send sink).queue
      show (q.send sink).written ++ ((q.send sink).queue.exchange rest).2 ++
        ((q.send sink).queue.exchange rest).1.unconsumed =
          q.unconsumed ++ (q.send sink).queue.appendedIn rest
      rw [List.append_assoc, hrest, ← List.append_assoc, written_append_unconsumed_send]

/-- With memory, no push is refused. -/
theorem appendedIn_of_ample {q : ByteQueue} (h : q.memory.Ample) (turns : List Turn) :
    q.appendedIn turns = pushedIn turns := by
  induction turns generalizing q with
  | nil => rfl
  | cons turn rest ih =>
    cases turn with
    | push bytes =>
      obtain ⟨hpush, hample⟩ := tryPush_of_ample h bytes
      rw [appendedIn, hpush]
      exact congrArg (bytes ++ ·) (ih hample)
    | send sink => exact ih (by rwa [memory_send])

/-! ### The whole behaviour -/

/-- What a pass into a sink does. -/
structure Sends (q : ByteQueue) (sink : List WriteEvent) (pass : Transmission) : Prop where
  /-- Each write is offered all that waits, and there is some; what the sink answers to it counts by the
  rules. -/
  rules : ∃ offers, Drains q.unconsumed sink offers pass.written pass.queue.unconsumed pass.outcome
      pass.rest ∧
    pass.offered = offers.map List.length ∧ ∀ offer ∈ offers, offer ≠ [] ∧ offer <:+ q.unconsumed
  /-- The sink took the first bytes that waited, and the others are left, however the pass ended. -/
  whole : pass.written ++ pass.queue.unconsumed = q.unconsumed
  complete : pass.outcome = .ok .complete ↔ pass.queue.unconsumed = []
  /-- A complete pass lets the region start afresh. -/
  reset : pass.outcome = .ok .complete → pass.queue.size = 0 ∧ pass.queue.consumed = 0
  capacity : pass.queue.capacity = q.capacity
  /-- Nothing is written while nothing waits. -/
  idle : q.unconsumed = [] → pass.offered = [] ∧ pass.rest = sink

/-- A sink is asked nothing while nothing waits. -/
theorem offered_send_of_nil {q : ByteQueue} (h : q.unconsumed = []) (sink : List WriteEvent) :
    (q.send sink).offered = [] ∧ (q.send sink).rest = sink := by
  have hnone : ¬q.hasPending := fun hpending => hasPending_iff.1 hpending h
  unfold send
  rw [if_neg hnone]
  exact ⟨rfl, rfl⟩

theorem sends (q : ByteQueue) (sink : List WriteEvent) : Sends q sink (q.send sink) := by
  obtain ⟨offers, hdrains, hoffered⟩ := q.drains_send sink
  exact
    { rules := ⟨offers, hdrains, hoffered, hdrains.offered⟩
      whole := hdrains.written_append
      complete := hdrains.complete_iff
      reset := reset_of_complete
      capacity := q.capacity_send sink
      idle := fun h => offered_send_of_nil h sink }

/-- **Output goes out in order and once**: every pass sends the first bytes that wait and leaves the
others, so that after any turns of an empty queue the sinks have had the first bytes that were appended,
and the others wait. With memory, all that is pushed is appended. -/
theorem sends_in_order (q : ByteQueue) :
    (∀ sink, Sends q sink (q.send sink)) ∧
      (∀ turns, (q.exchange turns).2 ++ (q.exchange turns).1.unconsumed =
        q.unconsumed ++ q.appendedIn turns) ∧
      (q.memory.Ample → ∀ turns, q.appendedIn turns = pushedIn turns) :=
  ⟨q.sends, q.sent_append_unconsumed, appendedIn_of_ample⟩

/-- A line that goes out in two pieces, with another line in between. -/
def lineInPieces : List Turn :=
  [.push [1, 2, 3], .send [.accept 2], .push [4, 5], .send [.fault (.os 4), .accept 9]]

/-- All of both lines goes out, and the region starts afresh. -/
theorem sends_in_order_pieces :
    empty.memory.Ample ∧ empty.appendedIn lineInPieces = [1, 2, 3, 4, 5] ∧
      (empty.exchange lineInPieces).2 ++ (empty.exchange lineInPieces).1.unconsumed =
        pushedIn lineInPieces ∧
      (empty.exchange lineInPieces).1.size = 0 := by
  obtain ⟨-, hsent, hall⟩ := sends_in_order empty
  have hturns := hsent lineInPieces
  rw [hall ample_empty] at hturns
  exact ⟨ample_empty, hall ample_empty lineInPieces, hturns, by decide +kernel⟩

end ByteQueue

end ChatRelay
