import ChatRelay.Proofs.ByteQueue.Fifo

/-!
# Every access is within the region

A byte queue cannot say what would happen if one of its counters were wrong: its differences stop at
zero and its slices at the end. Here the operations work on a bare region instead, with counters that
may be anything, and every slice, every copy and every difference is checked. A region that stands for a
queue passes all the checks, and then stands for the queue that the operation gives. The allocator is taken
to grant what is asked for.

- `Region`, `Region.perform?`: the operations with their checks.
- `Region.StandsFor`: the region has the capacity, the counters and the valid bytes of the queue.
- `StandsFor.perform`, `StandsFor.run`: no check fails.
- `ByteQueue.refines_run`: what a new queue answers and holds after any operations.
-/

namespace ChatRelay

namespace ByteQueue

/-- The place of the first terminator, counted from the live bytes on. -/
theorem findTerminator?_eq (bytes : Array UInt8) (i : Nat) :
    findTerminator? bytes i =
      ((bytes.toList.drop i).findIdx? (· = Frame.terminator)).map (i + ·) := by
  fun_induction findTerminator? bytes i with
  | case1 i hi hb =>
    rw [drop_eq_of_lt hi, List.findIdx?_cons, if_pos (decide_eq_true hb)]
    rfl
  | case2 i hi hb ih =>
    rw [ih, drop_eq_of_lt hi, List.findIdx?_cons, if_neg (by simpa using hb),
      Option.map_map]
    congr 1
    funext n
    simp only [Function.comp_apply]
    omega
  | case3 i hi =>
    rw [List.drop_eq_nil_of_le (by rw [Array.length_toList]; omega)]
    rfl

/-- Taking a frame takes as many bytes as stand before the first terminator, and the terminator. -/
theorem takeFrame?_eq (q : ByteQueue) : q.takeFrame? =
    (q.unconsumed.findIdx? (· = Frame.terminator)).map fun n => (q.peek n, q.skip (n + 1)) := by
  rw [takeFrame?, findTerminator?_eq, unconsumed]
  cases (q.bytes.toList.drop q.consumed).findIdx? (· = Frame.terminator) with
  | none => rfl
  | some n =>
    simp only [Option.map_some, Nat.add_sub_cancel_left]
    rw [show q.consumed + n + 1 - q.consumed = n + 1 by omega]

/-- Making newlines terminators leaves the consumed bytes alone. -/
theorem take_terminateLines (q : ByteQueue) :
    q.terminateLines.bytes.toList.take q.consumed = q.bytes.toList.take q.consumed := by
  apply List.ext_getElem?
  intro i
  simp only [terminateLines, List.getElem?_take, Array.getElem?_toList,
    Array.getElem?_mapIdx]
  split
  · next hlt =>
    simp [Nat.not_le_of_lt hlt]
  · rfl

end ByteQueue

open ByteQueue (Operation Answer)

/-- A region with its two counters. Nothing is promised of them. -/
structure Region where
  /-- All bytes of the region, the spare room included. -/
  data : List UInt8 := []
  /-- The number of valid bytes. -/
  size : Nat := 0
  /-- The number of consumed bytes. -/
  consumed : Nat := 0

namespace Region

/-! ### Checked accesses -/

/-- A difference that must not be negative. -/
def minus? (m n : Nat) : Option Nat := if n ≤ m then some (m - n) else none

/-- The bytes from one place to another, which must both be in the region and in this order. -/
def slice? (r : Region) (first last : Nat) : Option (List UInt8) :=
  if first ≤ last ∧ last ≤ r.data.length then some ((r.data.take last).drop first) else none

/-- Put bytes into the region, where there must be places for all of them. -/
def store? (r : Region) (first : Nat) (bytes : List UInt8) : Option Region :=
  if first + bytes.length ≤ r.data.length then
    some { r with data := r.data.take first ++ bytes ++ r.data.drop (first + bytes.length) }
  else none

/-- The live bytes. -/
def live? (r : Region) : Option (List UInt8) := r.slice? r.consumed r.size

/-- The room behind the valid bytes. -/
def spare? (r : Region) : Option Nat := minus? r.data.length r.size

/-! ### Operations -/

/-- Move the live bytes to the front. -/
def compact? (r : Region) : Option Region := do
  let live ← r.live?
  let size ← minus? r.size r.consumed
  let r ← r.store? 0 live
  return { r with size, consumed := 0 }

/-- The capacity that a region gets to have more room. -/
def enlarged (r : Region) (room : Nat) : Nat :=
  max (max (2 * r.data.length) ByteQueue.minCapacity) (r.size + room)

/-- Enlarge the region. -/
def grow? (r : Region) (room : Nat) : Option Region := do
  let more ← minus? (r.enlarged room) r.data.length
  return { r with data := r.data ++ List.replicate more 0 }

/-- Make room behind the valid bytes. -/
def reserve? (r : Region) (room : Nat) : Option Region := do
  let spare ← r.spare?
  if room ≤ spare then return r
  if 0 < r.consumed then
    let r ← r.compact?
    let spare ← r.spare?
    if room ≤ spare then return r
    r.grow? room
  else r.grow? room

/-- Put bytes behind the valid ones. -/
def append? (r : Region) (bytes : List UInt8) : Option Region := do
  let r ← r.store? r.size bytes
  return { r with size := r.size + bytes.length }

def push? (r : Region) (bytes : List UInt8) : Option Region :=
  if bytes.isEmpty then some r else do
    let r ← r.reserve? bytes.length
    r.append? bytes

def takeFrame? (r : Region) : Option (Region × Option (List UInt8)) := do
  let live ← r.live?
  match live.findIdx? (· = Frame.terminator) with
  | none => return (r, none)
  | some length =>
    let frame ← r.slice? r.consumed (r.consumed + length)
    return ({ r with consumed := r.consumed + (length + 1) }, some frame)

def terminateLines? (r : Region) : Option Region := do
  let live ← r.live?
  r.store? r.consumed (Frame.ofLines live)

def clear (r : Region) : Region := { r with size := 0, consumed := 0 }

def pushRelayed? (r : Region) (author body : List UInt8) : Option Region := do
  let r ← r.push? author
  let r ← r.push? [Frame.separator]
  let r ← r.push? body
  r.push? [Frame.terminator]

def pushHandshake? (r : Region) (name : String) : Option Region := do
  let r ← r.push? (Text.utf8 name)
  r.push? [Frame.terminator]

/-- A pass of reading. Each read fills the room behind the valid bytes. -/
def receive? (r : Region) (source : List ReadEvent) :
    Option (Region × List UInt8 × Except RelayError ReceiveStatus) := do
  let r ← r.reserve? 1
  let room ← r.spare?
  match _h : ReadEvent.read room source with
  | (.ok bytes, rest) =>
    if _hempty : bytes.isEmpty then return (r, [], .ok .closed)
    else
      let r ← r.append? bytes
      let (r, received, outcome) ← r.receive? rest
      return (r, bytes ++ received, outcome)
  | (.error cause, rest) =>
    if _hc : cause.kind = .interrupted then r.receive? rest
    else return (r, [], match cause.kind with
      | .wouldBlock => .ok .inProgress
      | .connectionReset => .ok .closed
      | _ => .error (.system cause))
termination_by ReadEvent.weight source
decreasing_by
  · have hlength := ReadEvent.length_read _h
    have hne : bytes ≠ [] := mt List.isEmpty_iff.2 _hempty
    exact ReadEvent.weight_read_ok (Nat.lt_of_lt_of_le (List.length_pos_iff.2 hne) hlength) _h
  · exact ReadEvent.weight_read_error _h (by simp [_hc])

/-- A pass of writing. Each write is offered the live bytes. -/
def send? (r : Region) (sink : List WriteEvent) :
    Option (Region × List UInt8 × Except RelayError SendStatus) :=
  if r.consumed < r.size then do
    let live ← r.live?
    match sink with
    | [] => return (r, [], .ok .partly)
    | .accept count :: rest =>
      let taken := min count live.length
      if taken = 0 then return (r, [], .error (.system ByteQueue.writeZero))
      else
        let (r, written, outcome) ← send? { r with consumed := r.consumed + taken } rest
        return (r, live.take taken ++ written, outcome)
    | .fault cause :: rest =>
      if cause.kind = .interrupted then r.send? rest
      else return (r, [], match cause.kind with
        | .wouldBlock => .ok .partly
        | _ => .error (.system cause))
  else some (r.clear, [], .ok .complete)

/-- An operation on a region; nothing comes of it if a check fails. -/
def perform? (r : Region) : Operation → Option (Region × Answer)
  | .push bytes => do
    let r ← r.push? bytes
    return (r, .appended (.ok ()))
  | .takeFrame => do
    let (r, frame?) ← r.takeFrame?
    return (r, .frame frame?)
  | .hasFrame => do
    let live ← r.live?
    return (r, .found (Frame.terminator ∈ live))
  | .terminateLines => do
    let r ← r.terminateLines?
    return (r, .done)
  | .clear => some (r.clear, .done)
  | .pushRelayed author body => do
    let r ← r.pushRelayed? author body
    return (r, .appended (.ok ()))
  | .pushHandshake name =>
    match DisplayName.check name with
    | .error cause => some (r, .appended (.error cause))
    | .ok () => do
      let r ← r.pushHandshake? name
      return (r, .appended (.ok ()))
  | .receive source => do
    let (r, received, outcome) ← r.receive? source
    return (r, .received received outcome)
  | .send sink => do
    let (r, written, outcome) ← r.send? sink
    return (r, .sent written outcome)

/-! ### What a region stands for -/

/-- A region stands for a queue of its capacity that has its counters and its valid bytes, and to which
nothing will be refused. The spare room may hold anything. -/
structure StandsFor (r : Region) (q : ByteQueue) : Prop where
  size : r.size = q.size
  consumed : r.consumed = q.consumed
  capacity : r.data.length = q.capacity
  bytes : r.data.take q.size = q.bytes.toList
  granted : q.memory.Ample

variable {r : Region} {q : ByteQueue}

theorem standsFor_empty : ({} : Region).StandsFor .empty := ⟨rfl, rfl, rfl, rfl, ByteQueue.ample_empty⟩

theorem minus?_of_le {m n : Nat} (h : n ≤ m) : minus? m n = some (m - n) := if_pos h

theorem length_stored {first : Nat} {bytes : List UInt8}
    (hfit : first + bytes.length ≤ r.data.length) :
    (r.data.take first ++ bytes ++ r.data.drop (first + bytes.length)).length = r.data.length := by
  simp only [List.length_append, List.length_take, List.length_drop]
  omega

/-- What was stored is found behind what stood before it. -/
theorem take_stored {first : Nat} {bytes : List UInt8} (hfit : first ≤ r.data.length) :
    (r.data.take first ++ bytes ++ r.data.drop (first + bytes.length)).take (first + bytes.length) =
      r.data.take first ++ bytes := by
  have hlength : (r.data.take first ++ bytes).length = first + bytes.length := by
    rw [List.length_append, List.length_take_of_le hfit]
  rw [← hlength, List.take_left]

namespace StandsFor

theorem size_le (h : r.StandsFor q) : q.size ≤ r.data.length := by
  rw [h.capacity]
  exact q.size_le_capacity

theorem spare (h : r.StandsFor q) : r.spare? = some q.spare := by
  rw [spare?, h.size, minus?_of_le h.size_le, h.capacity]
  rfl

/-- A slice of the valid bytes is in the region. -/
theorem slice (h : r.StandsFor q) {first last : Nat} (hle : first ≤ last) (hlast : last ≤ q.size) :
    r.slice? first last = some ((q.bytes.toList.take last).drop first) := by
  rw [slice?, if_pos ⟨hle, Nat.le_trans hlast h.size_le⟩, ← h.bytes, List.take_take,
    Nat.min_eq_left hlast]

theorem live (h : r.StandsFor q) : r.live? = some q.unconsumed := by
  have hall : q.bytes.toList.take q.size = q.bytes.toList :=
    List.take_of_length_le (Nat.le_of_eq Array.length_toList)
  have hle : q.consumed ≤ q.size := q.consumed_le_size
  rw [live?, h.size, h.consumed, h.slice hle (Nat.le_refl _), hall]
  rfl

theorem compact (h : r.StandsFor q) : ∃ r', r.compact? = some r' ∧ r'.StandsFor q.compact := by
  have hle : q.consumed ≤ q.size := q.consumed_le_size
  have hsize := h.size_le
  have hfit : 0 + q.unconsumed.length ≤ r.data.length := by
    rw [q.length_unconsumed, ByteQueue.pending]
    omega
  have hcompact : r.compact? = some {
      data := r.data.take 0 ++ q.unconsumed ++ r.data.drop (0 + q.unconsumed.length)
      size := q.size - q.consumed
      consumed := 0 } := by
    simp only [compact?, h.live, h.size, h.consumed, minus?_of_le hle, store?, if_pos hfit,
      Option.bind_eq_bind, Option.bind_some]
    rfl
  have hpending : q.compact.size = 0 + q.unconsumed.length := by
    rw [q.size_compact, q.length_unconsumed, Nat.zero_add]
  refine ⟨_, hcompact, q.size_compact.symm, rfl, (length_stored hfit).trans h.capacity, ?_, h.granted⟩
  rw [hpending]
  exact (take_stored (Nat.zero_le _)).trans q.unconsumed_compact.symm

theorem grow (h : r.StandsFor q) (room : Nat) :
    ∃ r', r.grow? room = some r' ∧ r'.StandsFor (q.grow room) := by
  have hle : r.data.length ≤ r.enlarged room := by
    unfold enlarged
    omega
  have hgrow : r.grow? room = some
      { r with data := r.data ++ List.replicate (r.enlarged room - r.data.length) 0 } := by
    simp only [grow?, minus?_of_le hle, Option.bind_eq_bind, Option.bind_some]
    rfl
  refine ⟨_, hgrow, h.size, h.consumed, ?capacity, ?bytes, h.granted.rest⟩
  case capacity =>
    rw [List.length_append, List.length_replicate, Nat.add_sub_cancel' hle, enlarged, h.capacity,
      h.size]
    exact (if_pos h.granted.grants).symm
  case bytes => exact (List.take_append_of_le_length h.size_le).trans h.bytes

theorem reserve (h : r.StandsFor q) (room : Nat) :
    ∃ r', r.reserve? room = some r' ∧ r'.StandsFor (q.reserve room) := by
  unfold reserve? ByteQueue.reserve
  simp only [h.spare, h.consumed, Option.bind_eq_bind, Option.bind_some]
  split
  · exact ⟨r, rfl, h⟩
  split
  · obtain ⟨r', hcompact, h'⟩ := h.compact
    simp only [hcompact, h'.spare, Option.bind_some]
    split
    · exact ⟨r', rfl, h'⟩
    · exact h'.grow room
  · exact h.grow room

theorem append (h : r.StandsFor q) {bytes : List UInt8} (hfit : bytes.length ≤ q.spare) :
    ∃ r', r.append? bytes = some r' ∧ r'.StandsFor (q.append bytes hfit) := by
  have hsize := h.size_le
  have hroom : q.size + bytes.length ≤ r.data.length := by
    rw [ByteQueue.spare, ← h.capacity] at hfit
    omega
  have happend : r.append? bytes = some {
      data := r.data.take q.size ++ bytes ++ r.data.drop (q.size + bytes.length)
      size := q.size + bytes.length
      consumed := r.consumed } := by
    simp only [append?, store?, h.size, if_pos hroom, Option.bind_eq_bind, Option.bind_some]
    rfl
  have hlength : (q.append bytes hfit).size = q.size + bytes.length := by
    simp [ByteQueue.append, ByteQueue.size]
  refine ⟨_, happend, hlength.symm, h.consumed, (length_stored hroom).trans h.capacity, ?_, h.granted⟩
  rw [hlength, take_stored hsize, h.bytes]
  simp [ByteQueue.append]

theorem push (h : r.StandsFor q) (bytes : List UInt8) :
    ∃ r', r.push? bytes = some r' ∧ r'.StandsFor (q.push bytes) := by
  have hroom := ByteQueue.le_spare_reserve h.granted.grants bytes.length
  unfold push? ByteQueue.push ByteQueue.tryPush
  split
  · exact ⟨r, rfl, h⟩
  · obtain ⟨r', hreserve, h'⟩ := h.reserve bytes.length
    simp only [hreserve, Option.bind_eq_bind, Option.bind_some, dif_pos hroom]
    exact h'.append hroom

/-- Consuming no more than the live bytes. -/
theorem skip (h : r.StandsFor q) {n : Nat} (hle : n ≤ q.pending) :
    ({ r with consumed := r.consumed + n } : Region).StandsFor (q.skip n) where
  size := h.size
  consumed := by
    have hconsumed := q.consumed_le_size
    rw [ByteQueue.pending, ByteQueue.size] at hle
    show r.consumed + n = min (q.consumed + n) q.bytes.size
    rw [h.consumed]
    omega
  capacity := h.capacity
  bytes := h.bytes
  granted := h.granted

theorem clear (h : r.StandsFor q) : r.clear.StandsFor q.clear where
  size := rfl
  consumed := rfl
  capacity := h.capacity
  bytes := rfl
  granted := h.granted

/-! ### Frames -/

theorem takeFrame (h : r.StandsFor q) :
    ∃ r', r.takeFrame? = some (r', q.takeFrame?.map Prod.fst) ∧
      r'.StandsFor ((q.takeFrame?.map Prod.snd).getD q) := by
  rw [q.takeFrame?_eq]
  unfold takeFrame?
  simp only [h.live, Option.bind_eq_bind, Option.bind_some]
  cases hfind : q.unconsumed.findIdx? (· = Frame.terminator) with
  | none => exact ⟨r, rfl, h⟩
  | some n =>
    -- the terminator itself is live
    obtain ⟨hlt, -⟩ := List.findIdx?_eq_some_iff_getElem.1 hfind
    rw [q.length_unconsumed] at hlt
    have hlast : q.consumed + n ≤ q.size := by
      rw [ByteQueue.pending] at hlt
      omega
    have hslice : r.slice? r.consumed (r.consumed + n) = some (q.peek n) := by
      rw [h.consumed, h.slice (Nat.le_add_right ..) hlast, ByteQueue.peek_eq_take,
        ByteQueue.unconsumed, List.take_drop]
    simp only [hslice, Option.bind_some]
    exact ⟨_, rfl, h.skip hlt⟩

theorem terminateLines (h : r.StandsFor q) :
    ∃ r', r.terminateLines? = some r' ∧ r'.StandsFor q.terminateLines := by
  have hle : q.consumed ≤ q.size := q.consumed_le_size
  have hwhole : q.consumed + (Frame.ofLines q.unconsumed).length = q.size := by
    rw [Frame.length_ofLines, q.length_unconsumed, ByteQueue.pending]
    omega
  have hfit : q.consumed + (Frame.ofLines q.unconsumed).length ≤ r.data.length := by
    rw [hwhole]
    exact h.size_le
  have hterminate : r.terminateLines? = some { r with
      data := r.data.take q.consumed ++ Frame.ofLines q.unconsumed ++
        r.data.drop (q.consumed + (Frame.ofLines q.unconsumed).length) } := by
    simp only [terminateLines?, h.live, h.consumed, store?, if_pos hfit, Option.bind_eq_bind,
      Option.bind_some]
  have hsize : q.terminateLines.size = q.size := Array.size_mapIdx
  refine ⟨_, hterminate, h.size.trans hsize.symm, h.consumed, (length_stored hfit).trans h.capacity, ?_,
    h.granted⟩
  have hfront : r.data.take q.consumed = q.bytes.toList.take q.consumed := by
    rw [← h.bytes, List.take_take, Nat.min_eq_left hle]
  have hback : q.terminateLines.bytes.toList.drop q.consumed = Frame.ofLines q.unconsumed :=
    q.unconsumed_terminateLines
  rw [hsize, ← hwhole, take_stored (Nat.le_trans hle h.size_le), hfront, ← q.take_terminateLines,
    ← hback, List.take_append_drop]

theorem pushRelayed (h : r.StandsFor q) (author body : List UInt8) :
    ∃ r', r.pushRelayed? author body = some r' ∧ r'.StandsFor (q.pushRelayed author body) := by
  obtain ⟨r₁, hauthor, h₁⟩ := h.push author
  obtain ⟨r₂, hseparator, h₂⟩ := h₁.push [Frame.separator]
  obtain ⟨r₃, hbody, h₃⟩ := h₂.push body
  obtain ⟨r₄, hterminator, h₄⟩ := h₃.push [Frame.terminator]
  rw [ByteQueue.pushRelayed_of_ample h.granted]
  refine ⟨r₄, ?_, h₄⟩
  simp only [pushRelayed?, hauthor, hseparator, hbody, hterminator, Option.bind_eq_bind,
    Option.bind_some]

theorem pushHandshake (h : r.StandsFor q) (name : String) :
    ∃ r', r.pushHandshake? name = some r' ∧
      r'.StandsFor ((q.push (Text.utf8 name)).push [Frame.terminator]) := by
  obtain ⟨r₁, hname, h₁⟩ := h.push (Text.utf8 name)
  obtain ⟨r₂, hterminator, h₂⟩ := h₁.push [Frame.terminator]
  refine ⟨r₂, ?_, h₂⟩
  simp only [pushHandshake?, hname, hterminator, Option.bind_eq_bind, Option.bind_some]

/-! ### Passes -/

theorem receive (h : r.StandsFor q) (source : List ReadEvent) :
    ∃ r', r.receive? source =
        some (r', (q.receive source).received, (q.receive source).outcome) ∧
      r'.StandsFor (q.receive source).queue := by
  fun_induction ByteQueue.receive q source generalizing r with
  | case1 q source ready hroom bytes rest hread =>
    rename_i hnil
    obtain ⟨r', hreserve, h'⟩ := h.reserve 1
    rw [receive?]
    simp only [hreserve, h'.spare, Option.bind_eq_bind, Option.bind_some]
    split
    · next hread' =>
      cases hread.symm.trans hread'
      rw [dif_pos hnil]
      exact ⟨r', rfl, h'⟩
    · next hread' => cases hread.symm.trans hread'
  | case2 q source ready hroom bytes rest hread hne more =>
    rename_i ih
    obtain ⟨r', hreserve, h'⟩ := h.reserve 1
    obtain ⟨r'', happend, h''⟩ := h'.append (ReadEvent.length_read hread)
    obtain ⟨rlast, hrest, hlast⟩ := ih h''
    rw [receive?]
    simp only [hreserve, h'.spare, Option.bind_eq_bind, Option.bind_some]
    split
    · next hread' =>
      cases hread.symm.trans hread'
      rw [dif_neg hne]
      simp only [happend, hrest, Option.bind_some]
      exact ⟨rlast, rfl, hlast⟩
    · next hread' => cases hread.symm.trans hread'
  | case3 q source ready hroom cause rest hread hc more =>
    rename_i ih
    obtain ⟨r', hreserve, h'⟩ := h.reserve 1
    obtain ⟨rlast, hrest, hlast⟩ := ih h'
    rw [receive?]
    simp only [hreserve, h'.spare, Option.bind_eq_bind, Option.bind_some]
    split
    · next hread' => cases hread.symm.trans hread'
    · next hread' =>
      cases hread.symm.trans hread'
      rw [dif_pos hc]
      exact ⟨rlast, hrest, hlast⟩
  | case4 q source ready hroom cause rest hread hc =>
    rename_i outcome
    obtain ⟨r', hreserve, h'⟩ := h.reserve 1
    rw [receive?]
    simp only [hreserve, h'.spare, Option.bind_eq_bind, Option.bind_some]
    split
    · next hread' => cases hread.symm.trans hread'
    · next hread' =>
      cases hread.symm.trans hread'
      rw [dif_neg hc]
      exact ⟨r', rfl, h'⟩
  | case5 q source ready =>
    rename_i hroom
    exact absurd (ByteQueue.le_spare_reserve h.granted.grants 1) hroom

theorem send (h : r.StandsFor q) (sink : List WriteEvent) :
    ∃ r', r.send? sink = some (r', (q.send sink).written, (q.send sink).outcome) ∧
      r'.StandsFor (q.send sink).queue := by
  have hwaits {r : Region} {q : ByteQueue} (h : r.StandsFor q) (hpending : q.hasPending) :
      r.consumed < r.size := by
    rw [h.consumed, h.size]
    exact decide_eq_true_iff.1 hpending
  fun_induction ByteQueue.send q sink generalizing r with
  | case1 q hpending =>
    rw [send?, if_pos (hwaits h hpending)]
    simp only [h.live, Option.bind_eq_bind, Option.bind_some]
    exact ⟨r, rfl, h⟩
  | case2 q hpending count rest taken =>
    rename_i hzero
    rw [send?, if_pos (hwaits h hpending)]
    simp only [h.live, q.length_unconsumed, Option.bind_eq_bind, Option.bind_some]
    rw [if_pos hzero]
    exact ⟨r, rfl, h⟩
  | case3 q hpending count rest taken hne more =>
    rename_i ih
    obtain ⟨r', hrest, h'⟩ := ih (h.skip (Nat.min_le_right ..))
    rw [send?, if_pos (hwaits h hpending)]
    simp only [h.live, q.length_unconsumed, Option.bind_eq_bind, Option.bind_some]
    rw [if_neg hne, show min count q.pending = taken from rfl]
    simp only [hrest, Option.bind_some, ← q.peek_eq_take]
    exact ⟨r', rfl, h'⟩
  | case4 q hpending cause rest hc more =>
    rename_i ih
    obtain ⟨r', hrest, h'⟩ := ih h
    rw [send?, if_pos (hwaits h hpending)]
    simp only [h.live, if_pos hc, Option.bind_eq_bind, Option.bind_some]
    exact ⟨r', hrest, h'⟩
  | case5 q hpending cause rest hc =>
    rename_i outcome
    rw [send?, if_pos (hwaits h hpending)]
    simp only [h.live, if_neg hc, Option.bind_eq_bind, Option.bind_some]
    exact ⟨r, rfl, h⟩
  | case6 sink q hpending =>
    have hdone : ¬r.consumed < r.size := by
      rw [h.consumed, h.size]
      exact fun hlt => hpending (decide_eq_true hlt)
    rw [send?, if_neg hdone]
    exact ⟨r.clear, rfl, h.clear⟩

/-! ### All operations -/

/-- **No check of an operation fails**, its answer is that of the queue, and the region then stands for
the queue that it leaves. -/
theorem perform (h : r.StandsFor q) (operation : Operation) :
    ∃ r', r.perform? operation = some (r', (q.perform operation).2) ∧
      r'.StandsFor (q.perform operation).1 := by
  cases operation with
  | push bytes =>
    obtain ⟨r', hpush, h'⟩ := h.push bytes
    refine ⟨r', ?_, h'⟩
    simp only [perform?, hpush, ByteQueue.perform, (ByteQueue.tryPush_of_ample h.granted bytes).1]
    rfl
  | takeFrame =>
    obtain ⟨r', htake, h'⟩ := h.takeFrame
    refine ⟨r', ?_, ?_⟩
    · rw [perform?, htake, ByteQueue.perform]
      cases q.takeFrame? <;> rfl
    · rw [ByteQueue.perform]
      cases htaken : q.takeFrame? <;> rw [htaken] at h' <;> exact h'
  | hasFrame =>
    refine ⟨r, ?_, h⟩
    rw [perform?, h.live, ByteQueue.perform, q.hasFrame_eq_decide]
    rfl
  | terminateLines =>
    obtain ⟨r', hterminate, h'⟩ := h.terminateLines
    exact ⟨r', by rw [perform?, hterminate]; rfl, h'⟩
  | clear => exact ⟨r.clear, rfl, h.clear⟩
  | pushRelayed author body =>
    obtain ⟨r', hpush, h'⟩ := h.pushRelayed author body
    refine ⟨r', ?_, h'⟩
    simp only [perform?, hpush, ByteQueue.perform,
      (ByteQueue.tryPushRelayed_of_ample h.granted author body).1]
    rfl
  | pushHandshake name =>
    simp only [perform?, ByteQueue.perform, ByteQueue.tryPushHandshake]
    cases DisplayName.check name with
    | error cause => exact ⟨r, rfl, h⟩
    | ok _ =>
      obtain ⟨r', hpush, h'⟩ := h.pushHandshake name
      simp only [hpush, (ByteQueue.tryPushAll_of_ample h.granted _).1]
      exact ⟨r', rfl, h'⟩
  | receive source =>
    obtain ⟨r', hreceive, h'⟩ := h.receive source
    exact ⟨r', by rw [perform?, hreceive]; rfl, h'⟩
  | send sink =>
    obtain ⟨r', hsend, h'⟩ := h.send sink
    exact ⟨r', by rw [perform?, hsend]; rfl, h'⟩

end StandsFor

/-- Operations on a region, as long as no check fails. -/
def run? (r : Region) : List Operation → Option (Region × List Answer)
  | [] => some (r, [])
  | operation :: rest => do
    let (r, answer) ← r.perform? operation
    let (r, answers) ← r.run? rest
    return (r, answer :: answers)

/-- No check fails in any sequence of operations. -/
theorem StandsFor.run (h : r.StandsFor q) (operations : List Operation) :
    ∃ r', r.run? operations = some (r', (q.run operations).2) ∧
      r'.StandsFor (q.run operations).1 := by
  induction operations generalizing r q with
  | nil => exact ⟨r, rfl, h⟩
  | cons operation rest ih =>
    obtain ⟨r', hperform, h'⟩ := h.perform operation
    obtain ⟨rlast, hrest, hlast⟩ := ih h'
    refine ⟨rlast, ?_, hlast⟩
    simp only [run?, hperform, hrest, Option.bind_eq_bind, Option.bind_some]
    rfl

end Region

namespace ByteQueue

/-! ### The whole behaviour -/

/-- How a new queue stands after some operations, given what it has answered to them. -/
structure Refines (operations : List Operation) (q : ByteQueue) (answers : List Answer) : Prop where
  consumed_le_size : q.consumed ≤ q.size
  size_le_capacity : q.size ≤ q.capacity
  /-- No slice, copy or difference was out of bounds on the way. -/
  accesses : ∃ r, ({} : Region).run? operations = some (r, answers) ∧ r.StandsFor q
  /-- The live bytes are those of a list to which the same was done, and so were the answers. -/
  content : q.unconsumed = (Fifo.run [] operations).1
  answers : answers = (Fifo.run [] operations).2
  /-- No frame can be taken exactly while no terminator is live, and an attempt then changes nothing. -/
  unframed : q.perform .takeFrame = (q, .frame none) ↔ Frame.terminator ∉ q.unconsumed
  /-- Asking for a frame changes nothing, and tells whether one could be taken. -/
  asked : q.perform .hasFrame = (q, .found q.takeFrame?.isSome)
  /-- Making newlines terminators touches no consumed byte. -/
  untouched : q.terminateLines.consumed = q.consumed ∧
    q.terminateLines.bytes.toList.take q.consumed = q.bytes.toList.take q.consumed
  /-- Any queue with these live bytes and with memory goes on alike, wherever they stand in a region of any
  size. -/
  alike : ∀ other : ByteQueue, other.memory.Ample → other.unconsumed = q.unconsumed → ∀ more,
    (other.run more).2 = (q.run more).2 ∧ (other.run more).1.unconsumed = (q.run more).1.unconsumed

/-- What is left and what is answered depends on the live bytes only. -/
theorem run_congr {q other : ByteQueue} (hq : q.memory.Ample) (hother : other.memory.Ample)
    (h : other.unconsumed = q.unconsumed) (operations : List Operation) :
    (other.run operations).2 = (q.run operations).2 ∧
      (other.run operations).1.unconsumed = (q.run operations).1.unconsumed := by
  have heq := (run_eq hother operations).trans (h ▸ (run_eq hq operations).symm)
  obtain ⟨hcontent, hanswers⟩ := Prod.mk.inj heq
  exact ⟨hanswers, hcontent⟩

theorem perform_takeFrame_eq_none_iff (q : ByteQueue) :
    q.perform .takeFrame = (q, .frame none) ↔ Frame.terminator ∉ q.unconsumed := by
  rw [← takeFrame?_eq_none_iff, perform]
  cases q.takeFrame? with
  | none => exact iff_of_true rfl rfl
  | some taken =>
    refine iff_of_false (fun heq => ?_) (Option.some_ne_none taken)
    cases congrArg Prod.snd heq

/-- **A byte queue is a first-in-first-out list of bytes**, whatever is done to it and in whichever order:
it answers as the list does, and never reaches outside its region. -/
theorem refines_run (operations : List Operation) :
    Refines operations (empty.run operations).1 (empty.run operations).2 where
  consumed_le_size := (empty.run operations).1.consumed_le_size
  size_le_capacity := (empty.run operations).1.size_le_capacity
  accesses := Region.standsFor_empty.run operations
  content := congrArg Prod.fst (run_eq ample_empty operations)
  answers := congrArg Prod.snd (run_eq ample_empty operations)
  unframed := perform_takeFrame_eq_none_iff _
  asked := by rw [perform, hasFrame_eq]
  untouched := ⟨rfl, take_terminateLines _⟩
  alike _ hother h := run_congr (ample_run ample_empty operations) hother h

/-- A frame that came in two parts is taken whole, and then there is none. -/
example : (empty.run [.push [97, 98], .takeFrame, .push [99, 0, 100], .takeFrame, .takeFrame]).2 =
    [.appended (.ok ()), .frame none, .appended (.ok ()), .frame (some [97, 98, 99]), .frame none] := by
  cbv

end ByteQueue

end ChatRelay
