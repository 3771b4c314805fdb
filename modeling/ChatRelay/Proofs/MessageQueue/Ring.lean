import ChatRelay.MessageQueue

/-!
# The ring without its promises

A message queue comes with the proofs that its counters are in order and that the slot of every waiting
message holds one, so it cannot say what a ring would do without them. Here push and pop work on a bare
ring, with slots and counters that may be anything. Every difference, every remainder and every access
to a slot is checked, the counters must fit into a word of 64 bits, and a pop hands out whatever stands
in the slot, a message or not.

- `Ring`, `Ring.push?`, `Ring.pop?`: the operations with their checks.
- `MessageQueue.bare`: a queue as a bare ring.
- `MessageQueue.push?_bare`, `MessageQueue.pop?_bare`: on the ring of a queue no check fails and the
  operations do what they do to the queue, as long as the numbers fit and memory is granted.
-/

namespace ChatRelay

/-- A ring of slots with its two counters. Nothing is promised of them. -/
structure Ring where
  slots : List (Option Message) := []
  start : Nat := 0
  stop : Nat := 0

namespace Ring

/-! ### Checked accesses -/

/-- A number that must fit into a word. -/
def word? (n : Nat) : Option Nat := if n < Nat.pow 2 64 then some n else none

/-- The number of waiting messages. The counters must be in order. -/
def length? (r : Ring) : Option Nat := if r.start ≤ r.stop then some (r.stop - r.start) else none

/-- The place of a number among the slots. There is none if there are no slots. -/
def place? (slots : List (Option Message)) (i : Nat) : Option Nat :=
  if 0 < slots.length then some (i % slots.length) else none

/-- Take what stands in the slot of a number, and leave the slot vacant. -/
def take? (slots : List (Option Message)) (i : Nat) :
    Option (Option Message × List (Option Message)) := do
  let place ← place? slots i
  let slot ← slots[place]?
  return (slot, slots.set place none)

/-- Put a message into the slot of a number. -/
def put? (slots : List (Option Message)) (i : Nat) (m : Message) :
    Option (List (Option Message)) := do
  let place ← place? slots i
  let _ ← slots[place]?
  return slots.set place (some m)

/-- Take what stands in the slots of several numbers, one after the other. -/
def takeAll? (slots : List (Option Message)) : (first count : Nat) → Option (List (Option Message))
  | _, 0 => some []
  | first, count + 1 => do
    let (slot, slots) ← take? slots first
    let later ← takeAll? slots (first + 1) count
    return slot :: later

/-! ### Operations -/

/-- Move everything that waits into a ring of twice the size. -/
def grow? (r : Ring) : Option Ring := do
  let doubled ← word? (2 * r.slots.length)
  let capacity := max doubled MessageQueue.minSlots
  let length ← r.length?
  let taken ← takeAll? r.slots r.start length
  return { slots := (taken ++ List.replicate capacity none).take capacity, start := 0, stop := length }

/-- Put a message behind those that wait. -/
def append? (r : Ring) (m : Message) : Option Ring := do
  let slots ← put? r.slots r.stop m
  let stop ← word? (r.stop + 1)
  return { r with slots, stop }

/-- Append a message. A full ring grows first. -/
def push? (r : Ring) (m : Message) : Option Ring := do
  let length ← r.length?
  let r ← if length = r.slots.length then r.grow? else some r
  r.append? m

/-- Take what stands in the oldest slot, if a message is to wait. Both counters start again when they
meet. -/
def pop? (r : Ring) : Option (Ring × Option Message) :=
  if r.start = r.stop then some (r, none) else do
    let (slot, slots) ← take? r.slots r.start
    let start ← word? (r.start + 1)
    return (if start = r.stop then { slots } else { r with slots, start }, slot)

variable {slots : List (Option Message)} {i first count : Nat}

theorem word?_of_lt {n : Nat} (h : n < Nat.pow 2 64) : word? n = some n := if_pos h

/-- In a ring with slots every number has one. -/
theorem take?_eq (h : 0 < slots.length) : take? slots i =
    some ((slots[i % slots.length]?).join, slots.set (i % slots.length) none) := by
  have hlt : i % slots.length < slots.length := Nat.mod_lt _ h
  simp only [take?, place?, if_pos h, List.getElem?_eq_getElem hlt, Option.bind_eq_bind,
    Option.bind_some]
  rfl

theorem put?_eq (h : 0 < slots.length) (m : Message) :
    put? slots i m = some (slots.set (i % slots.length) (some m)) := by
  have hlt : i % slots.length < slots.length := Nat.mod_lt _ h
  simp only [put?, place?, if_pos h, List.getElem?_eq_getElem hlt, Option.bind_eq_bind,
    Option.bind_some]
  rfl

/-- Numbers less than a ring apart have slots of their own, so that taking from one leaves the others
as they are. -/
theorem takeAll?_eq (h : count ≤ slots.length) : takeAll? slots first count =
    some ((List.range' first count).map fun i => (slots[i % slots.length]?).join) := by
  induction count generalizing slots first with
  | zero => rfl
  | succ count ih =>
    have hlength : (slots.set (first % slots.length) none).length = slots.length := List.length_set
    have hlater : takeAll? (slots.set (first % slots.length) none) (first + 1) count =
        some ((List.range' (first + 1) count).map fun i => (slots[i % slots.length]?).join) := by
      rw [ih (by omega), hlength]
      refine congrArg some (List.map_congr_left fun i hi => ?_)
      obtain ⟨hle, hlt⟩ := List.mem_range'_1.1 hi
      rw [List.getElem?_set_ne]
      intro heq
      exact absurd (MessageQueue.mod_injective (by omega) (by omega) heq) (by omega)
    simp only [takeAll?, take?_eq (Nat.lt_of_lt_of_le (Nat.succ_pos _) h), hlater,
      Option.bind_eq_bind, Option.bind_some, List.range'_succ, List.map_cons]
    rfl

end Ring

namespace MessageQueue

variable {q : MessageQueue}

/-- A queue as a bare ring. -/
def bare (q : MessageQueue) : Ring := ⟨q.slots.toList, q.start, q.stop⟩

@[simp] theorem start_bare (q : MessageQueue) : q.bare.start = q.start := rfl

@[simp] theorem stop_bare (q : MessageQueue) : q.bare.stop = q.stop := rfl

@[simp] theorem length_slots_bare (q : MessageQueue) : q.bare.slots.length = q.capacity :=
  Array.length_toList

/-- The counters are as far apart as messages wait. -/
theorem start_add_length (q : MessageQueue) : q.start + q.length = q.stop :=
  Nat.add_sub_cancel' q.start_le_stop

theorem length?_bare (q : MessageQueue) : q.bare.length? = some q.length := if_pos q.start_le_stop

/-- A queue grows to the ring that is filled with its messages first and vacant slots behind them. -/
theorem slots_grow (q : MessageQueue) : q.grow.slots.toList =
    ((List.range' q.start q.length).map fun i => (q.slots[i % q.capacity]?).join) ++
      List.replicate (max (2 * q.capacity) minSlots - q.length) none := by
  simp only [grow, capacity, Array.toList_append, Array.toList_ofFn, Array.toList_replicate]
  congr 1
  apply List.ext_getElem
  · rw [List.length_ofFn, List.length_map, List.length_range']
  · intro i _ _
    simp

theorem grow?_bare (h : 2 * q.capacity < Nat.pow 2 64) : q.bare.grow? = some q.grow.bare := by
  have hle : q.length ≤ q.capacity := q.length_le_slots
  have htaken : Ring.takeAll? q.bare.slots q.start q.length =
      some ((List.range' q.start q.length).map fun i => (q.slots[i % q.capacity]?).join) := by
    rw [Ring.takeAll?_eq (by rw [length_slots_bare]; exact hle), length_slots_bare]
    simp only [bare, Array.getElem?_toList]
  simp only [Ring.grow?, length_slots_bare, Ring.word?_of_lt h, q.length?_bare, start_bare, htaken,
    Option.bind_eq_bind, Option.bind_some]
  refine congrArg some ?_
  rw [List.take_append, List.length_map, List.length_range', List.take_replicate,
    List.take_of_length_le (by rw [List.length_map, List.length_range']; omega), bare, slots_grow,
    Nat.min_eq_left (Nat.sub_le ..)]
  rfl

theorem append?_bare (m : Message) (hroom : q.length < q.capacity)
    (hstop : q.stop + 1 < Nat.pow 2 64) :
    q.bare.append? m = some (q.store m hroom).bare := by
  have hpos : 0 < q.bare.slots.length := by
    rw [length_slots_bare]
    exact Nat.lt_of_le_of_lt (Nat.zero_le _) hroom
  simp only [Ring.append?, Ring.put?_eq hpos, stop_bare, Ring.word?_of_lt hstop,
    Option.bind_eq_bind, Option.bind_some]
  simp [bare, store]

/-- **A granted push does to the ring of a queue what it does to the queue**, with every check
passed. -/
theorem push?_bare (hgranted : q.memory.grants) (m : Message) (hstop : q.stop + 1 < Nat.pow 2 64)
    (hfull : q.length = q.capacity → 2 * q.capacity < Nat.pow 2 64) :
    q.bare.push? m = some (q.push m).bare := by
  have hle : q.length ≤ q.capacity := q.length_le_slots
  simp only [Ring.push?, q.length?_bare, length_slots_bare, Option.bind_eq_bind, Option.bind_some]
  by_cases hroom : q.length < q.capacity
  · rw [if_neg (Nat.ne_of_lt hroom), push, tryPush, dif_pos hroom]
    exact append?_bare m hroom hstop
  · -- the counters of the larger ring start again at zero
    have heq : q.length = q.capacity := by omega
    have hgrown : q.grow.stop ≤ q.stop := Nat.sub_le ..
    rw [if_pos heq, grow?_bare (hfull heq), push, tryPush, dif_neg hroom, if_pos hgranted]
    exact append?_bare m q.length_lt_capacity_grow (by omega)

/-- A pop takes from the oldest slot, where a message stands. -/
theorem bare_pop (q : MessageQueue) (h : 0 < q.length) :
    (q.slots[q.start % q.capacity]?).join = some (q.pop h).1 ∧
      (q.pop h).2.bare =
        if q.start + 1 = q.stop then { slots := q.bare.slots.set (q.start % q.capacity) none }
        else ⟨q.bare.slots.set (q.start % q.capacity) none, q.start + 1, q.stop⟩ := by
  obtain ⟨slots, start, stop, memory, hss, hle, hocc⟩ := q
  simp only [length] at h
  have hpos : start % slots.size < slots.size := Nat.mod_lt _ (by omega)
  simp only [capacity]
  unfold pop
  simp only
  split
  · next hm =>
    obtain ⟨m, hm'⟩ := hocc start (Nat.le_refl _) (by omega)
    simp [Array.getElem?_eq_getElem hpos, hm] at hm'
  · next m hm =>
    refine ⟨by simp [Array.getElem?_eq_getElem hpos, hm], ?_⟩
    by_cases heq : start + 1 = stop <;> simp [heq, bare]

/-- **A pop does to the ring of a queue what it does to the queue**: what stands in the slot that it
takes from is a message whenever one waits. -/
theorem pop?_bare (hstop : q.stop < Nat.pow 2 64) : q.bare.pop? =
    some (((q.pop?.map Prod.snd).getD q).bare, q.pop?.map Prod.fst) := by
  have hsum := q.start_add_length
  have hle : q.length ≤ q.capacity := q.length_le_slots
  rw [Ring.pop?, pop?, start_bare, stop_bare]
  by_cases h : 0 < q.length
  · have htake : Ring.take? q.bare.slots q.start =
        some (some (q.pop h).1, q.bare.slots.set (q.start % q.capacity) none) := by
      rw [Ring.take?_eq (by rw [length_slots_bare]; omega), length_slots_bare, ← (q.bare_pop h).1]
      simp only [bare, Array.getElem?_toList]
    rw [if_neg (by omega), dif_pos h]
    simp only [htake, Ring.word?_of_lt (show q.start + 1 < Nat.pow 2 64 by omega),
      Option.bind_eq_bind, Option.bind_some, Option.map_some, Option.getD_some, (q.bare_pop h).2]
    rfl
  · rw [if_pos (by omega), dif_neg h]
    rfl

end MessageQueue

end ChatRelay
