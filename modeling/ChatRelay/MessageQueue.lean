import ChatRelay.Memory
import ChatRelay.Message

/-!
# The queue of decoded messages

Messages wait in a ring of slots. Two counters, `start` and `stop`, address the ring modulo the
number of slots: a message pushed as number `i` stands in slot `i % slots.size`. A push into a full
ring moves the messages, oldest first, into a ring of twice the size (at least 16), unless the allocator
refuses it.

- `MessageQueue.toList`: the waiting messages, oldest first.
- `MessageQueue.tryPush`: append a message, if the memory allows it (`tryPush_cases`).
- `MessageQueue.pop?`, `MessageQueue.take`, `MessageQueue.drain`: take the oldest messages (`toList_pop`,
  `take_eq`, `drain_eq`).
-/

namespace ChatRelay

/-- The messages that wait for the hosting application. -/
structure MessageQueue where
  slots : Array (Option Message) := #[]
  /-- The number of the oldest waiting message. -/
  start : Nat := 0
  /-- The number the next message gets. -/
  stop : Nat := 0
  /-- What the allocator answers to the requests of this queue. -/
  memory : Memory := {}
  start_le_stop : start ≤ stop := by simp
  length_le_slots : stop - start ≤ slots.size := by simp
  /-- The slot of every waiting message holds one. -/
  occupied : ∀ i, start ≤ i → i < stop → ∃ m, slots[i % slots.size]? = some (some m) := by
    intro i h₁ h₂
    omega

namespace MessageQueue

/-- The queue without messages and without slots, whose requests are answered in a given way. -/
def ofMemory (memory : Memory) : MessageQueue := { memory }

/-- The queue without messages and without slots. -/
def empty : MessageQueue := .ofMemory {}

/-- The number of slots a ring has at first. -/
def minSlots : Nat := 16

/-- The number of waiting messages. -/
def length (q : MessageQueue) : Nat := q.stop - q.start

/-- The number of slots. -/
def capacity (q : MessageQueue) : Nat := q.slots.size

/-- Whether no message waits. -/
def isEmpty (q : MessageQueue) : Bool := q.start == q.stop

/-- The message in the slot of number `i`. -/
def slot? (q : MessageQueue) (i : Nat) : Option Message := (q.slots[i % q.slots.size]?).join

/-- The waiting messages, oldest first. -/
def toList (q : MessageQueue) : List Message :=
  (List.range' q.start q.length).filterMap q.slot?

/-- The slot of a waiting message holds it. -/
theorem isSome_slot? (q : MessageQueue) {i : Nat} (h₁ : q.start ≤ i) (h₂ : i < q.stop) :
    ∃ m, q.slot? i = some m := by
  obtain ⟨m, hm⟩ := q.occupied i h₁ h₂
  exact ⟨m, by simp [slot?, hm]⟩

/-- Two lists of numbered slots are equal if their slots are. -/
theorem filterMap_range'_congr {f g : Nat → Option Message} {a b n : Nat}
    (h : ∀ i < n, f (a + i) = g (b + i)) :
    (List.range' a n).filterMap f = (List.range' b n).filterMap g := by
  induction n generalizing a b with
  | zero => rfl
  | succ n ih =>
    have h₀ := h 0 (Nat.zero_lt_succ n)
    rw [Nat.add_zero, Nat.add_zero] at h₀
    rw [List.range'_succ, List.range'_succ, List.filterMap_cons, List.filterMap_cons, h₀,
      ih fun i hi => by
        have := h (i + 1) (Nat.succ_lt_succ hi)
        rwa [show a + (i + 1) = a + 1 + i by omega, show b + (i + 1) = b + 1 + i by omega] at this]

@[simp] theorem toList_empty : empty.toList = [] := rfl

@[simp] theorem length_toList (q : MessageQueue) : q.toList.length = q.length := by
  have h : ∀ n a, q.start ≤ a → a + n ≤ q.stop →
      ((List.range' a n).filterMap q.slot?).length = n := by
    intro n
    induction n with
    | zero => simp
    | succ n ih =>
      intro a h₁ h₂
      obtain ⟨m, hm⟩ := q.isSome_slot? h₁ (by omega)
      rw [List.range'_succ, List.filterMap_cons, hm]
      simp [ih (a + 1) (by omega) (by omega)]
  have := q.start_le_stop
  exact h q.length q.start (Nat.le_refl _) (by unfold length; omega)

/-- Two numbers less than a ring apart share a slot only if they are equal. -/
theorem mod_injective {i j n : Nat} (hij : i ≤ j) (hlt : j - i < n) (h : i % n = j % n) : i = j := by
  have hn : 0 < n := by omega
  have h₁ := Nat.div_add_mod i n
  have h₂ := Nat.div_add_mod j n
  have h₃ : i / n ≤ j / n := Nat.div_le_div_right hij
  rcases Nat.eq_or_lt_of_le h₃ with h₄ | h₄
  · rw [h₄, h] at h₁
    omega
  · have : n * (i / n) + n ≤ n * (j / n) := by
      rw [← Nat.mul_succ]
      exact Nat.mul_le_mul_left _ h₄
    omega

/-- The number of slots that a full ring asks for. -/
def grownCapacity (q : MessageQueue) : Nat := max (2 * q.capacity) minSlots

/-- The messages of a ring moved to the front of a larger one, which was granted. -/
def grow (q : MessageQueue) : MessageQueue where
  slots := (Array.ofFn fun i : Fin q.length => q.slots[(q.start + i) % q.slots.size]?.join) ++
    Array.replicate (q.grownCapacity - q.length) none
  start := 0
  stop := q.length
  memory := q.memory.rest
  start_le_stop := Nat.zero_le _
  length_le_slots := by
    simp only [Array.size_append, Array.size_ofFn, Array.size_replicate]
    omega
  occupied := by
    intro i _ hi
    have hsize : ((Array.ofFn fun i : Fin q.length => q.slots[(q.start + i) % q.slots.size]?.join) ++
        Array.replicate (q.grownCapacity - q.length) none).size ≥ q.length := by
      simp
    obtain ⟨m, hm⟩ := q.occupied (q.start + i) (by omega) (by unfold length at hi; omega)
    refine ⟨m, ?_⟩
    rw [Nat.mod_eq_of_lt (by omega), Array.getElem?_append_left (by simpa using hi)]
    simp [hi, hm]

theorem capacity_grow (q : MessageQueue) : q.grow.capacity = max (2 * q.capacity) minSlots := by
  have := q.length_le_slots
  simp only [grow, grownCapacity, capacity, Array.size_append, Array.size_ofFn, Array.size_replicate, length]
  omega

@[simp] theorem length_grow (q : MessageQueue) : q.grow.length = q.length := by
  simp [grow, length]

@[simp] theorem toList_grow (q : MessageQueue) : q.grow.toList = q.toList := by
  unfold toList
  rw [length_grow]
  refine filterMap_range'_congr fun i hi => ?_
  have hle := q.length_le_slots
  unfold length at hi
  simp only [grow, slot?, length, Nat.zero_add]
  rw [Nat.mod_eq_of_lt (by simp only [Array.size_append, Array.size_ofFn, Array.size_replicate]; omega),
    Array.getElem?_append_left (by simpa using hi)]
  simp [hi]

/-- Put a message into a ring with a free slot. -/
def store (q : MessageQueue) (m : Message) (h : q.length < q.capacity) : MessageQueue where
  slots := q.slots.set (q.stop % q.slots.size) (some m)
    (Nat.mod_lt _ (by unfold capacity at h; omega))
  start := q.start
  stop := q.stop + 1
  memory := q.memory
  start_le_stop := Nat.le_succ_of_le q.start_le_stop
  length_le_slots := by
    simp only [Array.size_set, length, capacity] at h ⊢
    omega
  occupied := by
    intro i h₁ h₂
    simp only [Array.size_set, length, capacity] at h ⊢
    by_cases hi : i = q.stop
    · exact ⟨m, by simp [hi]⟩
    · obtain ⟨m', hm'⟩ := q.occupied i h₁ (by omega)
      refine ⟨m', ?_⟩
      rw [Array.getElem?_set, if_neg, hm']
      intro heq
      exact hi (mod_injective (by omega) (by omega) heq.symm)

theorem toList_store (q : MessageQueue) (m : Message) (h : q.length < q.capacity) :
    (q.store m h).toList = q.toList ++ [m] := by
  have hle := q.start_le_stop
  unfold toList
  have hlen : (q.store m h).length = q.length + 1 := by simp only [store, length]; omega
  rw [hlen, List.range'_concat, List.filterMap_append]
  congr 1
  · refine filterMap_range'_congr fun i hi => ?_
    simp only [store, slot?, Array.size_set]
    rw [Array.getElem?_set, if_neg]
    intro heq
    have := mod_injective (by unfold length at hi; omega) (by unfold length capacity at *; omega) heq.symm
    unfold length at hi
    omega
  · have hstop : q.start + q.length = q.stop := by unfold length; omega
    simp [store, slot?, hstop]

theorem length_lt_capacity_grow (q : MessageQueue) : q.grow.length < q.grow.capacity := by
  have := q.length_le_slots
  rw [length_grow, capacity_grow]
  unfold minSlots length capacity at *
  omega

/-- How many bytes of memory a slot takes. -/
def slotBytes : Nat := 48

/-- Append a message. A full ring grows first; if the allocator refuses that, nothing is appended. -/
def tryPush (q : MessageQueue) (m : Message) : MessageQueue × Except RelayError Unit :=
  if h : q.length < q.capacity then (q.store m h, .ok ())
  else if q.memory.grants then (q.grow.store m q.length_lt_capacity_grow, .ok ())
  else ({ q with memory := q.memory.rest }, .error (.outOfMemory (q.grownCapacity * slotBytes)))

/-- The queue behind an attempt to append a message. -/
def push (q : MessageQueue) (m : Message) : MessageQueue := (q.tryPush m).1

/-- **The message is appended, or nothing changes** and the attempt fails for lack of memory. -/
theorem tryPush_cases (q : MessageQueue) (m : Message) :
    ((q.tryPush m).2 = .ok () ∧ (q.tryPush m).1.toList = q.toList ++ [m]) ∨
      ((∃ size, (q.tryPush m).2 = .error (.outOfMemory size)) ∧
        (q.tryPush m).1.toList = q.toList) := by
  unfold tryPush
  split
  · next h => exact Or.inl ⟨rfl, q.toList_store m h⟩
  · split
    · exact Or.inl ⟨rfl, by rw [toList_store, toList_grow]⟩
    · exact Or.inr ⟨⟨_, rfl⟩, rfl⟩

theorem tryPush_of_ample {q : MessageQueue} (h : q.memory.Ample) (m : Message) :
    q.tryPush m = (q.push m, .ok ()) ∧ (q.push m).memory.Ample := by
  unfold push tryPush
  split
  · exact ⟨rfl, h⟩
  · rw [if_pos h.grants]
    exact ⟨rfl, h.rest⟩

/-- A push appends. -/
@[simp] theorem toList_push {q : MessageQueue} (h : q.memory.Ample) (m : Message) :
    (q.push m).toList = q.toList ++ [m] := by
  have hok := congrArg Prod.snd (tryPush_of_ample h m).1
  obtain ⟨-, hpush⟩ | ⟨⟨_, hfailed⟩, -⟩ := q.tryPush_cases m
  · exact hpush
  · cases hfailed.symm.trans hok

/-- Taking out the message of number `start` leaves the slots of the later ones occupied. -/
theorem occupied_set_none {slots : Array (Option Message)} {start stop : Nat}
    (hle : stop - start ≤ slots.size) (hpos : start % slots.size < slots.size)
    (hocc : ∀ i, start ≤ i → i < stop → ∃ m, slots[i % slots.size]? = some (some m)) (i : Nat)
    (h₁ : start + 1 ≤ i) (h₂ : i < stop) :
    ∃ m, (slots.set (start % slots.size) none hpos)[i % (slots.set (start % slots.size) none
      hpos).size]? = some (some m) := by
  obtain ⟨m, hm⟩ := hocc i (by omega) h₂
  refine ⟨m, ?_⟩
  rw [Array.size_set, Array.getElem?_set, if_neg, hm]
  intro heq
  exact absurd (mod_injective (by omega) (by omega) heq) (by omega)

/-- Take the oldest message of a queue in which one waits. Both counters start again when none is
left. -/
def pop (q : MessageQueue) (h : 0 < q.length) : Message × MessageQueue :=
  match q, h with
  | ⟨slots, start, stop, memory, _, hle, hocc⟩, h =>
    have h : start < stop := Nat.lt_of_sub_pos h
    have hpos : start % slots.size < slots.size := Nat.mod_lt _ (by omega)
    match hm : slots[start % slots.size] with
    | none => absurd (hocc start (Nat.le_refl _) h) (by simp [hpos, hm])
    | some m =>
      (m, if start + 1 = stop then { slots := slots.set (start % slots.size) none hpos, memory }
        else
          { slots := slots.set (start % slots.size) none hpos
            start := start + 1
            stop
            memory
            start_le_stop := h
            length_le_slots := by
              simp only [Array.size_set]
              omega
            occupied := occupied_set_none hle hpos hocc })

/-- A pop takes the oldest message. -/
theorem toList_pop (q : MessageQueue) (h : 0 < q.length) :
    q.toList = (q.pop h).1 :: (q.pop h).2.toList := by
  obtain ⟨slots, start, stop, memory, hss, hle, hocc⟩ := q
  simp only [length] at h
  unfold pop
  simp only
  split
  · next hm =>
    obtain ⟨m, hm'⟩ := hocc start (Nat.le_refl _) (by omega)
    rw [Array.getElem?_eq_getElem (Nat.mod_lt _ (by omega)), hm] at hm'
    simp at hm'
  · next m hm =>
    have hslot : (⟨slots, start, stop, memory, hss, hle, hocc⟩ : MessageQueue).slot? start = some m := by
      simp [slot?, Array.getElem?_eq_getElem (Nat.mod_lt start (show 0 < slots.size by omega)), hm]
    have hlen : stop - start = (stop - (start + 1)) + 1 := by omega
    simp only [toList, length]
    rw [hlen, List.range'_succ, List.filterMap_cons, hslot]
    refine congrArg (m :: ·) ?_
    by_cases heq : start + 1 = stop
    · subst heq
      simp
    · simp only [if_neg heq]
      refine filterMap_range'_congr fun i hi => ?_
      simp only [slot?, Array.size_set]
      rw [Array.getElem?_set, if_neg]
      intro heq'
      have := mod_injective (by omega) (by omega) heq'
      omega

@[simp] theorem memory_pop (q : MessageQueue) (h : 0 < q.length) : (q.pop h).2.memory = q.memory := by
  obtain ⟨slots, start, stop, memory, hss, hle, hocc⟩ := q
  simp only [length] at h
  unfold pop
  simp only
  split
  · next hm =>
    obtain ⟨m, hm'⟩ := hocc start (Nat.le_refl _) (by omega)
    rw [Array.getElem?_eq_getElem (Nat.mod_lt _ (by omega)), hm] at hm'
    simp at hm'
  · by_cases heq : start + 1 = stop <;> simp [heq]

/-- Take the oldest message, if one waits. -/
def pop? (q : MessageQueue) : Option (Message × MessageQueue) :=
  if h : 0 < q.length then some (q.pop h) else none

theorem pop?_eq_none_iff (q : MessageQueue) : q.pop? = none ↔ q.toList = [] := by
  rw [← List.length_eq_zero_iff, length_toList]
  unfold pop?
  split <;> simp <;> omega

theorem toList_of_pop? {q q' : MessageQueue} {m : Message} (h : q.pop? = some (m, q')) :
    q.toList = m :: q'.toList := by
  unfold pop? at h
  split at h
  · next hpos =>
    rw [q.toList_pop hpos, Option.some.inj h]
  · cases h

theorem memory_of_pop? {q q' : MessageQueue} {m : Message} (h : q.pop? = some (m, q')) :
    q'.memory = q.memory := by
  unfold pop? at h
  split at h
  · next hpos =>
    rw [← q.memory_pop hpos, Option.some.inj h]
  · cases h

/-- Take the oldest messages, at most `count`, behind those already in `taken`. -/
def takeInto (taken : Array Message) : Nat → MessageQueue → Array Message × MessageQueue
  | 0, q => (taken, q)
  | count + 1, q =>
    if h : 0 < q.length then
      let (m, q) := q.pop h
      takeInto (taken.push m) count q
    else (taken, q)

theorem takeInto_eq (taken : Array Message) (count : Nat) (q : MessageQueue) :
    (takeInto taken count q).1.toList = taken.toList ++ q.toList.take count ∧
      (takeInto taken count q).2.toList = q.toList.drop count := by
  induction count generalizing taken q with
  | zero => simp [takeInto]
  | succ count ih =>
    unfold takeInto
    split
    · next h =>
      rw [q.toList_pop h]
      simpa using ih (taken.push (q.pop h).1) (q.pop h).2
    · next h =>
      have : q.toList = [] := by rw [← List.length_eq_zero_iff, length_toList]; omega
      simp [this]

theorem memory_takeInto (taken : Array Message) (count : Nat) (q : MessageQueue) :
    (takeInto taken count q).2.memory = q.memory := by
  induction count generalizing taken q with
  | zero => rfl
  | succ count ih =>
    unfold takeInto
    split
    · next h => exact (ih _ _).trans (q.memory_pop h)
    · rfl

/-- Take the oldest messages, at most `count`. -/
def take (count : Nat) (q : MessageQueue) : List Message × MessageQueue :=
  let (taken, q) := takeInto #[] count q
  (taken.toList, q)

/-- The first messages are taken, and the others stay. -/
theorem take_eq (count : Nat) (q : MessageQueue) :
    (q.take count).1 = q.toList.take count ∧ (q.take count).2.toList = q.toList.drop count := by
  simpa [take] using takeInto_eq #[] count q

/-- Take every message. -/
def drain (q : MessageQueue) : List Message × MessageQueue := q.take q.length

/-- All messages are taken, and none stays. -/
theorem drain_eq (q : MessageQueue) : q.drain.1 = q.toList ∧ q.drain.2.toList = [] := by
  have h := q.take_eq q.length
  rw [← length_toList, List.take_length, List.drop_length, length_toList] at h
  exact h

/-- Taking asks for no memory. -/
theorem memory_drain (q : MessageQueue) : q.drain.2.memory = q.memory :=
  memory_takeInto #[] q.length q

end MessageQueue

end ChatRelay
