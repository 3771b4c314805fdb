import ChatRelay.Proofs.MessageQueue.Ring
import Mathlib.Order.Bounds.Basic

/-!
# A message queue is a list of messages

Messages leave a queue in the order in which they came, each once, however often the ring has wrapped,
was emptied or has grown. The ring is never larger than the queue has ever needed: it has the least size
of those that doubling gives.

- `MessageQueue.Operation`, `MessageQueue.Answer`, `MessageQueue.run`: pushes and pops, and what they
  answer.
- `Waiting.run`, `Waiting.longest`: the same on a list, and the most messages that have ever waited.
- `MessageQueue.Fits`: the capacity of a queue in which so many have waited; a push keeps it
  (`Fits.push`).
- `MessageQueue.Sound`: the counters stay within the number of pushes and the capacity fits; every step
  keeps that (`Sound.push`, `Sound.pop`), and every run has it (`sound_run`).
- `MessageQueue.first_in_first_out`: what a new queue answers and holds after any operations.
-/

namespace ChatRelay

namespace MessageQueue

/-- Something that is asked of a queue. -/
inductive Operation where
  | push (m : Message)
  | pop

/-- What is answered. -/
inductive Answer where
  | done
  /-- What was taken. -/
  | taken (message? : Option Message)

/-- Perform operations one after the other, and collect the answers. -/
def Operation.runWith {σ : Type} (perform : σ → Operation → σ × Answer) (s : σ) :
    List Operation → σ × List Answer
  | [] => (s, [])
  | operation :: rest =>
    let (s, answer) := perform s operation
    let (s, answers) := runWith perform s rest
    (s, answer :: answers)

/-- The messages that are pushed, in order. -/
def pushed (operations : List Operation) : List Message :=
  operations.filterMap fun
    | .push m => some m
    | .pop => none

/-- The messages that were taken, in order. -/
def taken (answers : List Answer) : List Message :=
  answers.filterMap fun
    | .done => none
    | .taken message? => message?

/-- An operation on a queue. -/
def perform (q : MessageQueue) : Operation → MessageQueue × Answer
  | .push m => (q.push m, .done)
  | .pop =>
    match q.pop? with
    | none => (q, .taken none)
    | some (m, rest) => (rest, .taken (some m))

/-- Operations on a queue. -/
def run (q : MessageQueue) (operations : List Operation) : MessageQueue × List Answer :=
  Operation.runWith perform q operations

end MessageQueue

open MessageQueue (Operation Answer)

namespace Ring

/-- An operation on a bare ring; nothing comes of it if a check fails. -/
def perform? (r : Ring) : Operation → Option (Ring × Answer)
  | .push m => do
    let r ← r.push? m
    return (r, .done)
  | .pop => do
    let (r, slot) ← r.pop?
    return (r, .taken slot)

/-- Operations on a bare ring, as long as no check fails. -/
def run? (r : Ring) : List Operation → Option (Ring × List Answer)
  | [] => some (r, [])
  | operation :: rest => do
    let (r, answer) ← r.perform? operation
    let (r, answers) ← r.run? rest
    return (r, answer :: answers)

end Ring

/-! ### The list -/

namespace Waiting

/-- An operation on the messages that wait. -/
def perform (waiting : List Message) : Operation → List Message × Answer
  | .push m => (waiting ++ [m], .done)
  | .pop => (waiting.tail, .taken waiting.head?)

/-- Operations on the messages that wait. -/
def run (waiting : List Message) (operations : List Operation) : List Message × List Answer :=
  Operation.runWith perform waiting operations

/-- The most messages that wait at a time, from the first operation to the last. -/
def longest (waiting : List Message) : List Operation → Nat
  | [] => waiting.length
  | operation :: rest => max waiting.length (longest (perform waiting operation).1 rest)

theorem length_le_longest (waiting : List Message) (operations : List Operation) :
    waiting.length ≤ longest waiting operations := by
  cases operations with
  | nil => exact Nat.le_refl _
  | cons operation rest => exact Nat.le_max_left ..

/-- What was taken and what still waits are what waited at first and what was pushed. -/
theorem taken_append_run (waiting : List Message) (operations : List Operation) :
    MessageQueue.taken (run waiting operations).2 ++ (run waiting operations).1 =
      waiting ++ MessageQueue.pushed operations := by
  induction operations generalizing waiting with
  | nil => exact (List.append_nil _).symm
  | cons operation rest ih =>
    cases operation with
    | push m =>
      have h := ih (waiting ++ [m])
      rw [List.append_assoc] at h
      exact h
    | pop =>
      cases waiting with
      | nil => exact ih []
      | cons m waiting => exact congrArg (m :: ·) (ih waiting)

end Waiting

namespace MessageQueue

variable {q : MessageQueue} {longest pushes : Nat}

/-! ### One step -/

theorem perform_eq (hgranted : q.memory.Ample) (operation : Operation) :
    ((q.perform operation).1.toList, (q.perform operation).2) =
      Waiting.perform q.toList operation := by
  cases operation with
  | push m => exact congrArg (·, Answer.done) (toList_push hgranted m)
  | pop =>
    rw [perform, Waiting.perform]
    cases hpop : q.pop? with
    | none => rw [q.pop?_eq_none_iff.1 hpop]; rfl
    | some popped => rw [toList_of_pop? hpop]; rfl

theorem length_push (hgranted : q.memory.Ample) (m : Message) :
    (q.push m).length = q.length + 1 := by
  rw [← length_toList, toList_push hgranted, List.length_append, length_toList]
  rfl

theorem capacity_store (m : Message) (hroom : q.length < q.capacity) :
    (q.store m hroom).capacity = q.capacity := by
  simp only [store, capacity, Array.size_set]

/-- A ring grows when it is full, and only then. -/
theorem capacity_push (hgranted : q.memory.grants) (m : Message) : (q.push m).capacity =
    if q.length < q.capacity then q.capacity else max (2 * q.capacity) minSlots := by
  unfold push tryPush
  split
  · next hroom => exact capacity_store m hroom
  · rw [← capacity_grow]
    exact capacity_store m q.length_lt_capacity_grow

theorem capacity_le_push (q : MessageQueue) (m : Message) : q.capacity ≤ (q.push m).capacity := by
  by_cases hgranted : q.memory.grants
  · rw [capacity_push hgranted]
    split <;> omega
  · unfold push tryPush
    split
    · next hroom => exact Nat.le_of_eq (capacity_store m hroom).symm
    · exact Nat.le_refl _

theorem stop_push_le (q : MessageQueue) (m : Message) : (q.push m).stop ≤ q.stop + 1 := by
  unfold push tryPush
  split
  · exact Nat.le_refl _
  · split
    · exact Nat.succ_le_succ (Nat.sub_le ..)
    · exact Nat.le_succ _

/-- A pop leaves the ring as large as it is. -/
theorem capacity_pop (q : MessageQueue) : (q.perform .pop).1.capacity = q.capacity := by
  unfold perform pop?
  by_cases h : 0 < q.length
  · have hslots := congrArg (·.slots.length) (q.bare_pop h).2
    simp only [length_slots_bare, apply_ite Ring.slots, List.length_set, ite_self] at hslots
    simpa [h] using hslots
  · simp [h]

theorem stop_pop_le (q : MessageQueue) : (q.perform .pop).1.stop ≤ q.stop := by
  unfold perform pop?
  by_cases h : 0 < q.length
  · have hstop := congrArg (·.stop) (q.bare_pop h).2
    simp only [stop_bare] at hstop
    simp only [h, dif_pos, hstop]
    split
    · exact Nat.zero_le _
    · exact Nat.le_refl _
  · simp [h]

/-- What is granted stays granted. -/
theorem ample_perform (hgranted : q.memory.Ample) (operation : Operation) :
    (q.perform operation).1.memory.Ample := by
  cases operation with
  | push m => exact (tryPush_of_ample hgranted m).2
  | pop =>
    simp only [perform]
    split
    · exact hgranted
    · next hpop => exact memory_of_pop? hpop ▸ hgranted

/-! ### The capacity -/

/-- A capacity is the least that doubling gives for `longest` messages. Without any there is none. -/
structure Fits (longest capacity : Nat) : Prop where
  unallocated : longest = 0 → capacity = 0
  isLeast : 0 < longest → IsLeast {c | ∃ k, c = 16 * Nat.pow 2 k ∧ longest ≤ c} capacity

namespace Fits

variable {capacity : Nat}

theorem le (h : Fits longest capacity) : longest ≤ capacity := by
  rcases Nat.eq_zero_or_pos longest with hzero | hpos
  · omega
  · obtain ⟨k, -, hle⟩ := (h.isLeast hpos).1
    exact hle

/-- As long as there is room, a capacity fits more messages too. -/
theorem more (h : Fits longest capacity) {more : Nat} (hle : longest ≤ more)
    (hroom : more ≤ capacity) : Fits more capacity where
  unallocated hzero := h.unallocated (by omega)
  isLeast hpos := by
    rcases Nat.eq_zero_or_pos longest with hzero | hlongest
    · have := h.unallocated hzero
      omega
    obtain ⟨⟨k, hk, -⟩, hleast⟩ := h.isLeast hlongest
    exact ⟨⟨k, hk, hroom⟩, fun c ⟨j, hj, hc⟩ => hleast ⟨j, hj, Nat.le_trans hle hc⟩⟩

/-- One message more than there is room for needs twice the capacity, since nothing lies between a
power of two and the next. -/
theorem double (h : Fits capacity capacity) :
    Fits (capacity + 1) (max (2 * capacity) minSlots) where
  unallocated hzero := absurd hzero (Nat.succ_ne_zero _)
  isLeast _ := by
    rcases Nat.eq_zero_or_pos capacity with hzero | hpos
    · subst hzero
      refine ⟨⟨0, rfl, by decide⟩, fun c ⟨j, hj, _⟩ => ?_⟩
      have hone : 0 < Nat.pow 2 j := Nat.pow_pos (by decide)
      exact hj ▸ Nat.mul_le_mul_left 16 hone
    · obtain ⟨k, hk, -⟩ := (h.isLeast hpos).1
      have hone : 0 < Nat.pow 2 k := Nat.pow_pos (by decide)
      have hdouble : max (2 * capacity) minSlots = 16 * Nat.pow 2 (k + 1) := by
        have : Nat.pow 2 (k + 1) = Nat.pow 2 k * 2 := rfl
        unfold minSlots
        omega
      rw [hdouble]
      refine ⟨⟨k + 1, rfl, by omega⟩, fun c ⟨j, hj, hc⟩ => ?_⟩
      have hlt : Nat.pow 2 k < Nat.pow 2 j := by omega
      have hkj : k + 1 ≤ j := (Nat.pow_lt_pow_iff_right (by decide)).1 hlt
      exact hj ▸ Nat.mul_le_mul_left 16 (Nat.pow_le_pow_right (by decide) hkj)

/-- **A granted push keeps the capacity fitting.** -/
theorem push (h : Fits longest q.capacity) (hshort : q.length ≤ longest)
    (hgranted : q.memory.grants) (m : Message) :
    Fits (max longest (q.length + 1)) (q.push m).capacity := by
  have hle := h.le
  rw [capacity_push hgranted]
  split
  · exact h.more (Nat.le_max_left ..) (by omega)
  · have hslots : q.length ≤ q.capacity := q.length_le_slots
    have hfull : longest = q.capacity := by omega
    subst hfull
    rw [show max q.capacity (q.length + 1) = q.capacity + 1 by omega]
    exact h.double

end Fits

/-! ### Any number of steps -/

/-- What a queue keeps to in which at most `longest` messages have waited and to which `pushes` were
pushed. -/
structure Sound (q : MessageQueue) (longest pushes : Nat) : Prop where
  short : q.length ≤ longest
  fits : Fits longest q.capacity
  /-- No counter is ahead of the pushes. -/
  stop_le : q.stop ≤ pushes
  longest_le : longest ≤ pushes
  granted : q.memory.Ample

theorem sound_empty : Sound .empty 0 0 where
  short := Nat.le_refl _
  fits := ⟨fun _ => rfl, fun h => absurd h (Nat.lt_irrefl _)⟩
  stop_le := Nat.le_refl _
  longest_le := Nat.le_refl _
  granted := Memory.ample_default

namespace Sound

theorem push (h : Sound q longest pushes) (m : Message) :
    Sound (q.push m) (max longest (q.length + 1)) (pushes + 1) where
  short := by
    rw [length_push h.granted]
    exact Nat.le_max_right ..
  fits := h.fits.push h.short h.granted.grants m
  stop_le := Nat.le_trans (q.stop_push_le m) (Nat.succ_le_succ h.stop_le)
  longest_le := by
    have := h.short
    have := h.longest_le
    omega
  granted := ample_perform h.granted (.push m)

theorem pop (h : Sound q longest pushes) : Sound (q.perform .pop).1 longest pushes where
  short := by
    have hlist := congrArg List.length (congrArg Prod.fst (perform_eq h.granted .pop))
    simp only [length_toList, Waiting.perform, List.length_tail] at hlist
    have := h.short
    omega
  fits := q.capacity_pop ▸ h.fits
  stop_le := Nat.le_trans q.stop_pop_le h.stop_le
  longest_le := h.longest_le
  granted := ample_perform h.granted .pop

/-- **Every step keeps a queue sound.** -/
theorem perform (h : Sound q longest pushes) (operation : Operation) :
    Sound (q.perform operation).1 (max longest (q.perform operation).1.length)
      (pushes + (pushed [operation]).length) := by
  cases operation with
  | push m =>
    show Sound (q.push m) (max longest (q.push m).length) (pushes + 1)
    rw [length_push h.granted]
    exact h.push m
  | pop =>
    show Sound _ _ pushes
    rw [Nat.max_eq_left h.pop.short]
    exact h.pop

/-- No check fails as long as there are few pushes. -/
theorem perform?_bare (h : Sound q longest pushes) (operation : Operation)
    (hlimit : pushes + (pushed [operation]).length < Nat.pow 2 63) :
    q.bare.perform? operation =
      some ((q.perform operation).1.bare, (q.perform operation).2) := by
  have hwords : Nat.pow 2 64 = 2 * Nat.pow 2 63 := rfl
  have hshort := h.short
  have hfits := h.fits.le
  have hstop := h.stop_le
  have hpushes := h.longest_le
  cases operation with
  | push m =>
    change pushes + 1 < Nat.pow 2 63 at hlimit
    rw [Ring.perform?, push?_bare h.granted.grants m (by omega) (by omega)]
    rfl
  | pop =>
    rw [Ring.perform?, pop?_bare (by omega), MessageQueue.perform]
    cases q.pop? <;> rfl

end Sound

theorem length_pushed_cons (operation : Operation) (rest : List Operation) :
    (pushed (operation :: rest)).length = (pushed [operation]).length + (pushed rest).length := by
  rw [← List.length_append, pushed, pushed, pushed, ← List.filterMap_append]
  rfl

/-- So every run keeps it sound, and no check fails on the way. -/
theorem sound_run (h : Sound q longest pushes) (operations : List Operation)
    (hlimit : pushes + (pushed operations).length < Nat.pow 2 63) :
    Sound (q.run operations).1 (max longest (Waiting.longest q.toList operations))
        (pushes + (pushed operations).length) ∧
      q.bare.run? operations = some ((q.run operations).1.bare, (q.run operations).2) := by
  induction operations generalizing q longest pushes with
  | nil =>
    refine ⟨?_, rfl⟩
    rw [Waiting.longest, length_toList, Nat.max_eq_left h.short]
    exact h
  | cons operation rest ih =>
    rw [length_pushed_cons, ← Nat.add_assoc] at hlimit
    obtain ⟨hsound, hrest⟩ := ih (h.perform operation) hlimit
    have hstep : (q.perform operation).1.toList = (Waiting.perform q.toList operation).1 :=
      congrArg Prod.fst (perform_eq h.granted operation)
    have hlongest : max longest (Waiting.longest q.toList (operation :: rest)) =
        max (max longest (q.perform operation).1.length)
          (Waiting.longest (q.perform operation).1.toList rest) := by
      have hshort := h.short
      have hlater := Waiting.length_le_longest (q.perform operation).1.toList rest
      rw [length_toList] at hlater
      rw [Waiting.longest, length_toList, ← hstep]
      omega
    constructor
    · rw [hlongest, length_pushed_cons, ← Nat.add_assoc]
      exact hsound
    · simp only [Ring.run?, h.perform?_bare operation (by omega), hrest, Option.bind_eq_bind,
        Option.bind_some]
      rfl

/-- A run answers as the list does. -/
theorem run_eq (hgranted : q.memory.Ample) (operations : List Operation) :
    ((q.run operations).1.toList, (q.run operations).2) = Waiting.run q.toList operations := by
  induction operations generalizing q with
  | nil => rfl
  | cons operation rest ih =>
    have hstep := perform_eq hgranted operation
    have hrest := ih (ample_perform hgranted operation)
    show ((((q.perform operation).1.run rest).1.toList,
      (q.perform operation).2 :: ((q.perform operation).1.run rest).2)) =
      ((Waiting.run (Waiting.perform q.toList operation).1 rest).1,
        (Waiting.perform q.toList operation).2 ::
          (Waiting.run (Waiting.perform q.toList operation).1 rest).2)
    rw [← hstep, ← hrest]

/-- A ring never gets smaller. -/
theorem capacity_le_run (q : MessageQueue) (operations : List Operation) :
    q.capacity ≤ (q.run operations).1.capacity := by
  induction operations generalizing q with
  | nil => exact Nat.le_refl _
  | cons operation rest ih =>
    refine Nat.le_trans ?_ (ih (q.perform operation).1)
    cases operation with
    | push m =>
      exact q.capacity_le_push m
    | pop => exact Nat.le_of_eq q.capacity_pop.symm

/-! ### The whole behaviour -/

/-- How a new queue stands after some operations, given what it has answered to them. -/
structure Refines (operations : List Operation) (q : MessageQueue) (answers : List Answer) :
    Prop where
  /-- On the bare ring no number overflows, nothing is divided by zero and no slot is out of bounds; the
  slots, the counters and what was taken out of the slots are those of the queue. -/
  accesses : ({} : Ring).run? operations = some (q.bare, answers)
  /-- The messages that wait are those of a list to which the same was done, and so were the answers. -/
  content : q.toList = (Waiting.run [] operations).1
  answered : answers = (Waiting.run [] operations).2
  /-- A pop takes the oldest message, and nothing only if none waits. -/
  next : (q.perform .pop).2 = .taken q.toList.head?
  /-- Every message that was pushed either has been taken, once, or waits. -/
  once : taken answers ++ q.toList = pushed operations
  length : q.length = q.toList.length
  isEmpty : q.isEmpty ↔ q.toList = []
  /-- The ring has the least size that doubling gives for the most messages that have ever waited. -/
  unallocated : pushed operations = [] → q.capacity = 0
  isLeast : pushed operations ≠ [] →
    IsLeast {c | ∃ k, c = 16 * Nat.pow 2 k ∧ Waiting.longest [] operations ≤ c} q.capacity
  /-- A pop leaves it as it is, and nothing makes it smaller. -/
  popped : (q.perform .pop).1.capacity = q.capacity
  grows : ∀ more, q.capacity ≤ (q.run more).1.capacity

/-- A list never holds anything unless something is pushed. -/
theorem longest_eq_zero_iff (operations : List Operation) :
    Waiting.longest [] operations = 0 ↔ pushed operations = [] := by
  induction operations with
  | nil => exact iff_of_true rfl rfl
  | cons operation rest ih =>
    cases operation with
    | push m =>
      have hone := Waiting.length_le_longest [m] rest
      refine iff_of_false ?_ (List.cons_ne_nil _ _)
      show max 0 (Waiting.longest [m] rest) ≠ 0
      rw [List.length_singleton] at hone
      omega
    | pop =>
      show max 0 (Waiting.longest [] rest) = 0 ↔ pushed rest = []
      rw [Nat.zero_max, ih]

/-- **Messages leave a queue in the order in which they came, each once**, whatever was pushed and popped
before, and the ring is as large as it needs to be. -/
theorem first_in_first_out (operations : List Operation)
    (h : (pushed operations).length < Nat.pow 2 63) :
    Refines operations (empty.run operations).1 (empty.run operations).2 := by
  obtain ⟨hsound, hring⟩ := sound_run sound_empty operations (by rwa [Nat.zero_add])
  rw [Nat.zero_max, toList_empty] at hsound
  have hrun := run_eq sound_empty.granted operations
  rw [toList_empty] at hrun
  have hcontent := congrArg Prod.fst hrun
  have hanswers := congrArg Prod.snd hrun
  constructor
  case accesses => exact hring
  case content => exact hcontent
  case answered => exact hanswers
  case next =>
    have hpop := congrArg Prod.snd (perform_eq hsound.granted .pop)
    exact hpop
  case once =>
    have htaken := Waiting.taken_append_run [] operations
    rw [← hcontent, ← hanswers] at htaken
    exact htaken
  case length => exact (length_toList _).symm
  case isEmpty =>
    have hsum := (empty.run operations).1.start_add_length
    rw [← List.length_eq_zero_iff, length_toList, MessageQueue.isEmpty, beq_iff_eq]
    omega
  case unallocated =>
    intro hnone
    exact hsound.fits.unallocated ((longest_eq_zero_iff operations).2 hnone)
  case isLeast =>
    intro hsome
    exact hsound.fits.isLeast (Nat.pos_of_ne_zero (mt (longest_eq_zero_iff operations).1 hsome))
  case popped => exact capacity_pop _
  case grows => exact capacity_le_run _

/-- Ten messages come, six are taken and twenty come: the ring wraps, and then grows with the ends
apart. -/
def wrapping : List Operation :=
  let line (n : Nat) : Operation := .push ⟨"ann", n.repr⟩
  (List.range 10).map line ++ List.replicate 6 .pop ++ (List.range' 10 20).map line

/-- The ring has grown once, for the twenty-four messages that wait. -/
theorem first_in_first_out_wrapping :
    let q := (empty.run wrapping).1
    (pushed wrapping).length < Nat.pow 2 63 ∧ Refines wrapping q (empty.run wrapping).2 ∧
      Waiting.longest [] wrapping = 24 ∧ q.capacity = 32 ∧ q.start = 0 ∧
      q.toList.map Message.body = (List.range' 6 24).map Nat.repr := by
  intro q
  have hlimit : (pushed wrapping).length < Nat.pow 2 63 := by decide +kernel
  have hrun : Waiting.longest [] wrapping = 24 ∧ q.capacity = 32 ∧ q.start = 0 ∧
      (Waiting.run [] wrapping).1.map Message.body = (List.range' 6 24).map Nat.repr := by
    decide +kernel
  obtain ⟨hlongest, hcapacity, hstart, hbodies⟩ := hrun
  have hrefines := first_in_first_out wrapping hlimit
  exact ⟨hlimit, hrefines, hlongest, hcapacity, hstart, hrefines.content ▸ hbodies⟩

end MessageQueue

end ChatRelay
