import ChatRelay.Memory
import ChatRelay.RelayError

/-!
# Byte queues

A byte queue keeps the bytes that wait to be read or sent. Its region has three parts: a prefix that
has already been consumed, the live bytes, and spare room up to the capacity.

When the spare room is too small, the live bytes are first moved to the front. If that is not enough,
the capacity doubles (to at least 1024), or grows to exactly what is needed if that is more. The allocator
may refuse to let it grow; then the region stays as it is, and what needed the room fails.

- `ByteQueue.unconsumed`: the live bytes, the view in which every operation is described.
- `ByteQueue.reserve`: make room, if the memory allows it; the live bytes stay.
- `ByteQueue.tryPush`: append bytes, all or none of them (`tryPush_cases`).
- `ByteQueue.tryPushAll`: append several byte strings, up to the first refusal (`tryPushAll_cases`).
- `ByteQueue.skip`: mark bytes as consumed.
-/

namespace ChatRelay

/-- A growing queue of bytes. -/
structure ByteQueue where
  /-- The valid bytes, the consumed prefix included. -/
  bytes : Array UInt8 := #[]
  /-- The length of the consumed prefix. -/
  consumed : Nat := 0
  /-- The size of the region. -/
  capacity : Nat := 0
  /-- What the allocator answers to the requests of this queue. -/
  memory : Memory := {}
  consumed_le_size : consumed ≤ bytes.size := by simp
  size_le_capacity : bytes.size ≤ capacity := by simp

namespace ByteQueue

/-- The queue without bytes and without a region, whose requests are answered in a given way. -/
def ofMemory (memory : Memory) : ByteQueue := { memory }

/-- The queue without bytes and without a region. -/
def empty : ByteQueue := .ofMemory {}

theorem ample_empty : empty.memory.Ample := Memory.ample_default

/-- The smallest region that is ever allocated. -/
def minCapacity : Nat := 1024

/-- The number of valid bytes, the consumed prefix included. -/
def size (q : ByteQueue) : Nat := q.bytes.size

/-- The number of live bytes. -/
def pending (q : ByteQueue) : Nat := q.size - q.consumed

/-- Whether a byte is live. -/
def hasPending (q : ByteQueue) : Bool := q.consumed < q.size

/-- The room behind the valid bytes. -/
def spare (q : ByteQueue) : Nat := q.capacity - q.size

/-- The live bytes: what has been pushed and not been consumed. -/
def unconsumed (q : ByteQueue) : List UInt8 := q.bytes.toList.drop q.consumed

@[simp] theorem length_unconsumed (q : ByteQueue) : q.unconsumed.length = q.pending := by
  simp [unconsumed, pending, size]

/-- Forget every byte and keep the region. -/
def clear (q : ByteQueue) : ByteQueue := { capacity := q.capacity, memory := q.memory }

@[simp] theorem unconsumed_clear (q : ByteQueue) : q.clear.unconsumed = [] := by
  simp [clear, unconsumed]

/-- Move the live bytes to the front of the region. -/
def compact (q : ByteQueue) : ByteQueue where
  bytes := q.bytes.extract q.consumed
  capacity := q.capacity
  memory := q.memory
  size_le_capacity := by
    have := q.size_le_capacity
    simp only [Array.size_extract]
    omega

@[simp] theorem unconsumed_compact (q : ByteQueue) : q.compact.unconsumed = q.unconsumed := by
  simp [compact, unconsumed, Array.toList_extract, List.take_of_length_le]

@[simp] theorem capacity_compact (q : ByteQueue) : q.compact.capacity = q.capacity := rfl

@[simp] theorem size_compact (q : ByteQueue) : q.compact.size = q.pending := by
  simp [compact, size, pending]

/-- The region that is asked for to hold `room` more bytes: twice the size, at least `minCapacity`, or as
much as is needed if that is more. -/
def grownCapacity (q : ByteQueue) (room : Nat) : Nat :=
  max (max (2 * q.capacity) minCapacity) (q.size + room)

/-- Ask for a larger region. A refusal changes nothing. -/
def grow (q : ByteQueue) (room : Nat) : ByteQueue where
  bytes := q.bytes
  consumed := q.consumed
  capacity := if q.memory.grants then q.grownCapacity room else q.capacity
  memory := q.memory.rest
  consumed_le_size := q.consumed_le_size
  size_le_capacity := by
    have := q.size_le_capacity
    simp only [grownCapacity, size]
    split <;> omega

/-- Make room for `room` bytes behind the valid ones, if the memory allows it. -/
def reserve (q : ByteQueue) (room : Nat) : ByteQueue :=
  if room ≤ q.spare then q
  else if 0 < q.consumed then
    if room ≤ q.compact.spare then q.compact else q.compact.grow room
  else q.grow room

/-- The failure of a request for room. -/
def shortage (q : ByteQueue) (room : Nat) : RelayError := .outOfMemory (q.grownCapacity room)

@[simp] theorem unconsumed_grow (q : ByteQueue) (room : Nat) :
    (q.grow room).unconsumed = q.unconsumed := rfl

@[simp] theorem unconsumed_reserve (q : ByteQueue) (room : Nat) :
    (q.reserve room).unconsumed = q.unconsumed := by
  unfold reserve
  split
  · rfl
  · split
    · split <;> simp
    · simp

theorem capacity_grow (q : ByteQueue) (room : Nat) :
    (q.grow room).capacity = if q.memory.grants then q.grownCapacity room else q.capacity := rfl

theorem le_spare_grow {q : ByteQueue} (h : q.memory.grants) (room : Nat) :
    room ≤ (q.grow room).spare := by
  rw [spare, capacity_grow, if_pos h, grownCapacity]
  show room ≤ max (max (2 * q.capacity) minCapacity) (q.size + room) - q.size
  omega

/-- After reserving, the room is there, unless the allocator refused it. -/
theorem le_spare_reserve {q : ByteQueue} (h : q.memory.grants) (room : Nat) :
    room ≤ (q.reserve room).spare := by
  unfold reserve
  split
  · assumption
  · split
    · split
      · assumption
      · exact le_spare_grow (q := q.compact) h room
    · exact le_spare_grow h room

/-- A queue to which nothing will be refused stays one. -/
theorem ample_reserve {q : ByteQueue} (h : q.memory.Ample) (room : Nat) :
    (q.reserve room).memory.Ample := by
  unfold reserve
  split
  · exact h
  · split
    · split
      · exact h
      · exact h.rest
    · exact h.rest

/-- Append bytes to a region that has room for them. -/
def append (q : ByteQueue) (bs : List UInt8) (h : bs.length ≤ q.spare) : ByteQueue where
  bytes := q.bytes ++ bs.toArray
  consumed := q.consumed
  capacity := q.capacity
  memory := q.memory
  consumed_le_size := by
    have := q.consumed_le_size
    simp only [Array.size_append]
    omega
  size_le_capacity := by
    have := q.size_le_capacity
    simp only [spare, size] at h
    simp only [Array.size_append, List.size_toArray]
    omega

@[simp] theorem unconsumed_append (q : ByteQueue) (bs : List UInt8) (h : bs.length ≤ q.spare) :
    (q.append bs h).unconsumed = q.unconsumed ++ bs := by
  have := q.consumed_le_size
  simp only [append, unconsumed, Array.toList_append]
  rw [List.drop_append_of_le_length (by simpa using this)]

/-- Append bytes, with room made for them. Appending nothing asks for nothing, and without the room
nothing is appended. -/
def tryPush (q : ByteQueue) (bs : List UInt8) : ByteQueue × Except RelayError Unit :=
  if bs.isEmpty then (q, .ok ())
  else
    let ready := q.reserve bs.length
    if h : bs.length ≤ ready.spare then (ready.append bs h, .ok ())
    else (ready, .error (ready.shortage bs.length))

/-- The queue behind an attempt to append bytes. -/
def push (q : ByteQueue) (bs : List UInt8) : ByteQueue := (q.tryPush bs).1

/-- **All bytes are appended, or none** and the attempt fails for lack of memory. -/
theorem tryPush_cases (q : ByteQueue) (bs : List UInt8) :
    ((q.tryPush bs).2 = .ok () ∧ (q.push bs).unconsumed = q.unconsumed ++ bs) ∨
      (bs ≠ [] ∧ (∃ size, (q.tryPush bs).2 = .error (.outOfMemory size)) ∧
        (q.push bs).unconsumed = q.unconsumed) := by
  unfold push tryPush
  split
  · next hempty =>
    rw [List.isEmpty_iff.1 hempty, List.append_nil]
    exact Or.inl ⟨rfl, rfl⟩
  · next hne =>
    simp only
    split
    · exact Or.inl ⟨rfl, by rw [unconsumed_append, unconsumed_reserve]⟩
    · exact Or.inr ⟨mt List.isEmpty_iff.2 hne, ⟨_, rfl⟩, unconsumed_reserve ..⟩

theorem tryPush_of_ample {q : ByteQueue} (h : q.memory.Ample) (bs : List UInt8) :
    q.tryPush bs = (q.push bs, .ok ()) ∧ (q.push bs).memory.Ample := by
  unfold push tryPush
  split
  · exact ⟨rfl, h⟩
  · simp only [dif_pos (le_spare_reserve h.grants bs.length), true_and]
    exact ample_reserve h _

@[simp] theorem unconsumed_push {q : ByteQueue} (h : q.memory.Ample) (bs : List UInt8) :
    (q.push bs).unconsumed = q.unconsumed ++ bs := by
  obtain ⟨-, hpush⟩ | ⟨-, ⟨_, hfailed⟩, -⟩ := q.tryPush_cases bs
  · exact hpush
  · rw [(tryPush_of_ample h bs).1] at hfailed
    cases hfailed

/-- Append byte strings one after the other, up to the first that is refused. -/
def tryPushAll (q : ByteQueue) : List (List UInt8) → ByteQueue × Except RelayError Unit
  | [] => (q, .ok ())
  | piece :: rest =>
    match q.tryPush piece with
    | (q, .ok ()) => q.tryPushAll rest
    | (q, .error cause) => (q, .error cause)

/-- **All of the strings are appended, or those in front of the one that was refused.** -/
theorem tryPushAll_cases (q : ByteQueue) (pieces : List (List UInt8)) :
    ((q.tryPushAll pieces).2 = .ok () ∧
      (q.tryPushAll pieces).1.unconsumed = q.unconsumed ++ pieces.flatten) ∨
    ∃ front piece back size, pieces = front ++ piece :: back ∧ piece ≠ [] ∧
      (q.tryPushAll pieces).2 = .error (.outOfMemory size) ∧
      (q.tryPushAll pieces).1.unconsumed = q.unconsumed ++ front.flatten := by
  induction pieces generalizing q with
  | nil => exact Or.inl ⟨rfl, (List.append_nil _).symm⟩
  | cons piece rest ih =>
    have hsplit := q.tryPush_cases piece
    rw [push] at hsplit
    unfold tryPushAll
    rcases htry : q.tryPush piece with ⟨q', outcome⟩
    rw [htry] at hsplit
    obtain ⟨rfl, hlive⟩ | ⟨hne, ⟨size, rfl⟩, hlive⟩ := hsplit
    · obtain ⟨hok, hall⟩ | ⟨front, refused, back, size, rfl, hne, herror, hfront⟩ := ih q'
      · exact Or.inl ⟨hok, by rw [hall, hlive, List.append_assoc, List.flatten_cons]⟩
      · refine Or.inr ⟨piece :: front, refused, back, size, rfl, hne, herror, ?_⟩
        rw [hfront, hlive, List.append_assoc, List.flatten_cons]
    · exact Or.inr ⟨[], piece, rest, size, rfl, hne, rfl, by rw [hlive, List.flatten_nil, List.append_nil]⟩

/-- More strings follow if none of the earlier ones was refused. -/
theorem tryPushAll_append (q : ByteQueue) (pieces more : List (List UInt8)) :
    q.tryPushAll (pieces ++ more) =
      match q.tryPushAll pieces with
      | (q, .ok ()) => q.tryPushAll more
      | (q, .error cause) => (q, .error cause) := by
  induction pieces generalizing q with
  | nil => rfl
  | cons piece rest ih =>
    rw [List.cons_append, tryPushAll, tryPushAll]
    rcases q.tryPush piece with ⟨q', cause | ⟨⟩⟩
    · rfl
    · exact ih q'

/-- With memory for all of them, the strings are pushed one after the other. -/
theorem tryPushAll_of_ample {q : ByteQueue} (h : q.memory.Ample) (pieces : List (List UInt8)) :
    q.tryPushAll pieces = (pieces.foldl push q, .ok ()) ∧ (pieces.foldl push q).memory.Ample := by
  induction pieces generalizing q with
  | nil => exact ⟨rfl, h⟩
  | cons piece rest ih =>
    obtain ⟨hpush, hample⟩ := tryPush_of_ample h piece
    rw [tryPushAll, hpush, List.foldl_cons]
    exact ih hample

/-- Mark `n` more bytes as consumed. -/
def skip (q : ByteQueue) (n : Nat) : ByteQueue where
  bytes := q.bytes
  consumed := min (q.consumed + n) q.bytes.size
  capacity := q.capacity
  memory := q.memory
  consumed_le_size := Nat.min_le_right ..
  size_le_capacity := q.size_le_capacity

/-- The first `n` live bytes, or all if there are fewer. -/
def peek (q : ByteQueue) (n : Nat) : List UInt8 :=
  (q.bytes.extract q.consumed (q.consumed + n)).toList

@[simp] theorem memory_skip (q : ByteQueue) (n : Nat) : (q.skip n).memory = q.memory := rfl

@[simp] theorem unconsumed_skip (q : ByteQueue) (n : Nat) :
    (q.skip n).unconsumed = q.unconsumed.drop n := by
  simp only [skip, unconsumed, List.drop_drop]
  rw [List.drop_eq_drop_min]
  simp

theorem peek_eq_take (q : ByteQueue) (n : Nat) : q.peek n = q.unconsumed.take n := by
  simp only [peek, unconsumed, Array.toList_extract, List.extract_eq_take_drop]
  rw [Nat.add_sub_cancel_left]

end ByteQueue

end ChatRelay
