import ChatRelay.ByteQueue.Basic
import ChatRelay.Frame

/-!
# Frames in a byte queue

The live bytes of a queue are a run of frames and a tail that no terminator ends.

- `ByteQueue.takeFrame?`: take the first frame. It fails exactly while no terminator is live, and else
  takes the live bytes up to the first one (`takeFrame?_eq_none_iff`, `unconsumed_of_takeFrame?`).
- `ByteQueue.takeFrames`: take them all, which splits the live bytes (`takeFrames_eq`).
- `ByteQueue.terminateLines`: make the live newlines terminators.
- `ByteQueue.tryPushRelayed`, `ByteQueue.tryPushHandshake`: append a frame, as far as memory reaches.
-/

namespace ChatRelay.ByteQueue

/-- Make every live newline a terminator. Consumed bytes are not touched. -/
def terminateLines (q : ByteQueue) : ByteQueue where
  bytes := q.bytes.mapIdx fun i b => if q.consumed ≤ i then Frame.endLine b else b
  consumed := q.consumed
  capacity := q.capacity
  memory := q.memory
  consumed_le_size := by simpa using q.consumed_le_size
  size_le_capacity := by simpa using q.size_le_capacity

@[simp] theorem unconsumed_terminateLines (q : ByteQueue) :
    q.terminateLines.unconsumed = Frame.ofLines q.unconsumed := by
  apply List.ext_getElem?
  intro i
  simp [terminateLines, unconsumed, Frame.ofLines]

/-- The position of the first terminator at or behind `i`. -/
def findTerminator? (bytes : Array UInt8) (i : Nat) : Option Nat :=
  if h : i < bytes.size then
    if bytes[i] = Frame.terminator then some i else findTerminator? bytes (i + 1)
  else none
termination_by bytes.size - i

theorem findTerminator?_lt {bytes : Array UInt8} {i j : Nat} (h : findTerminator? bytes i = some j) :
    i ≤ j ∧ j < bytes.size := by
  fun_induction findTerminator? bytes i with
  | case1 i hi _ => simp at h; omega
  | case2 i hi _ ih => have := ih h; omega
  | case3 => simp at h

theorem drop_eq_of_lt {bytes : Array UInt8} {i : Nat} (h : i < bytes.size) :
    bytes.toList.drop i = bytes[i] :: bytes.toList.drop (i + 1) := by
  rw [← Array.getElem_toList]
  exact List.drop_eq_getElem_cons (by simpa using h)

/-- A search that finds nothing leaves no terminator. -/
theorem findTerminator?_eq_none {bytes : Array UInt8} {i : Nat} (h : findTerminator? bytes i = none) :
    Frame.terminator ∉ bytes.toList.drop i := by
  fun_induction findTerminator? bytes i with
  | case1 i hi _ => simp at h
  | case2 i hi hb ih =>
    rw [drop_eq_of_lt hi, List.mem_cons, not_or]
    exact ⟨fun he => hb he.symm, ih h⟩
  | case3 i hi =>
    rw [List.drop_eq_nil_of_le (by rw [Array.length_toList]; omega)]
    exact List.not_mem_nil

/-- A search finds the first terminator. -/
theorem findTerminator?_eq_some {bytes : Array UInt8} {i j : Nat} (h : findTerminator? bytes i = some j) :
    bytes.toList.drop i =
      (bytes.toList.drop i).take (j - i) ++ Frame.terminator :: bytes.toList.drop (j + 1) ∧
    Frame.terminator ∉ (bytes.toList.drop i).take (j - i) := by
  fun_induction findTerminator? bytes i with
  | case1 i hi hb =>
    cases h
    rw [Nat.sub_self, List.take_zero, List.nil_append, drop_eq_of_lt hi, hb]
    exact ⟨rfl, List.not_mem_nil⟩
  | case2 i hi hb ih =>
    have hij := (findTerminator?_lt h).1
    obtain ⟨heq, hnot⟩ := ih h
    have hsub : j - i = j - (i + 1) + 1 := by omega
    rw [drop_eq_of_lt hi, hsub, List.take_succ_cons, List.cons_append, List.mem_cons, not_or]
    exact ⟨congrArg _ heq, fun he => hb he.symm, hnot⟩
  | case3 => simp at h

/-- Whether a complete frame is live. -/
def hasFrame (q : ByteQueue) : Bool := (findTerminator? q.bytes q.consumed).isSome

/-- Take the first complete frame, without its terminator. -/
def takeFrame? (q : ByteQueue) : Option (List UInt8 × ByteQueue) :=
  match findTerminator? q.bytes q.consumed with
  | none => none
  | some i => some (q.peek (i - q.consumed), q.skip (i + 1 - q.consumed))

theorem takeFrame?_eq_none_iff (q : ByteQueue) :
    q.takeFrame? = none ↔ Frame.terminator ∉ q.unconsumed := by
  unfold takeFrame?
  split
  · next h => simpa [unconsumed] using findTerminator?_eq_none h
  · next i h =>
    have := (findTerminator?_eq_some h).1
    simp only [reduceCtorEq, false_iff, Decidable.not_not]
    unfold unconsumed
    rw [this]
    simp

/-- Taking a frame takes the live bytes up to the first terminator. -/
theorem unconsumed_of_takeFrame? {q q' : ByteQueue} {frame : List UInt8}
    (h : q.takeFrame? = some (frame, q')) :
    q.unconsumed = frame ++ Frame.terminator :: q'.unconsumed ∧ Frame.terminator ∉ frame := by
  unfold takeFrame? at h
  split at h
  · cases h
  · next i hi =>
    obtain ⟨heq, hnot⟩ := findTerminator?_eq_some hi
    have hle := (findTerminator?_lt hi).1
    cases h
    rw [peek_eq_take, unconsumed_skip]
    refine ⟨?_, hnot⟩
    simp only [unconsumed, List.drop_drop]
    rw [show q.consumed + (i + 1 - q.consumed) = i + 1 by omega]
    exact heq

theorem memory_of_takeFrame? {q q' : ByteQueue} {frame : List UInt8}
    (h : q.takeFrame? = some (frame, q')) : q'.memory = q.memory := by
  unfold takeFrame? at h
  split at h
  · cases h
  · cases h
    rfl

theorem hasFrame_eq (q : ByteQueue) : q.hasFrame = q.takeFrame?.isSome := by
  unfold hasFrame takeFrame?
  split <;> simp_all

theorem pending_takeFrame? {q q' : ByteQueue} {frame : List UInt8}
    (h : q.takeFrame? = some (frame, q')) : q'.pending < q.pending := by
  unfold takeFrame? at h
  split at h
  · simp at h
  · next i hi =>
    have := findTerminator?_lt hi
    simp only [Option.some.injEq, Prod.mk.injEq] at h
    obtain ⟨-, rfl⟩ := h
    simp only [pending, skip, size]
    omega

/-- Take every complete frame in order, behind those already in `taken`. -/
def takeFramesInto (taken : Array (List UInt8)) (q : ByteQueue) : Array (List UInt8) × ByteQueue :=
  match _h : q.takeFrame? with
  | none => (taken, q)
  | some (frame, rest) => takeFramesInto (taken.push frame) rest
termination_by q.pending
decreasing_by exact pending_takeFrame? _h

/-- Take every complete frame in order. -/
def takeFrames (q : ByteQueue) : List (List UInt8) × ByteQueue :=
  let (frames, rest) := takeFramesInto #[] q
  (frames.toList, rest)

theorem takeFramesInto_eq (taken : Array (List UInt8)) (q : ByteQueue) :
    (takeFramesInto taken q).1.toList = taken.toList ++ (Frame.split q.unconsumed).1 ∧
      (takeFramesInto taken q).2.unconsumed = (Frame.split q.unconsumed).2 := by
  fun_induction takeFramesInto taken q with
  | case1 taken q h =>
    rw [Frame.split_of_not_mem (q.takeFrame?_eq_none_iff.1 h)]
    simp
  | case2 taken q frame rest h ih =>
    obtain ⟨heq, hnot⟩ := unconsumed_of_takeFrame? h
    rw [heq, Frame.split_append_terminator hnot]
    simpa using ih

/-- Taking every frame splits the live bytes. -/
theorem takeFrames_eq (q : ByteQueue) :
    q.takeFrames.1 = (Frame.split q.unconsumed).1 ∧
      q.takeFrames.2.unconsumed = (Frame.split q.unconsumed).2 := by
  simpa [takeFrames] using takeFramesInto_eq #[] q

theorem memory_takeFrames (q : ByteQueue) : q.takeFrames.2.memory = q.memory := by
  have hinto (taken : Array (List UInt8)) (q : ByteQueue) :
      (takeFramesInto taken q).2.memory = q.memory := by
    fun_induction takeFramesInto taken q with
    | case1 taken q h => rfl
    | case2 taken q frame rest h ih => rw [ih, memory_of_takeFrame? h]
  exact hinto #[] q

/-- Append a relayed frame, piece by piece. -/
def tryPushRelayed (q : ByteQueue) (author body : List UInt8) : ByteQueue × Except RelayError Unit :=
  q.tryPushAll (Frame.pieces author body)

/-- The queue behind an attempt to append a relayed frame. -/
def pushRelayed (q : ByteQueue) (author body : List UInt8) : ByteQueue :=
  (q.tryPushRelayed author body).1

/-- Append a handshake frame, if the name fits in one: first the name, then the terminator. -/
def tryPushHandshake (q : ByteQueue) (name : String) : ByteQueue × Except RelayError Unit :=
  match DisplayName.check name with
  | .error cause => (q, .error cause)
  | .ok () => q.tryPushAll [Text.utf8 name, [Frame.terminator]]

/-- The queue with a handshake frame, if it could be appended. -/
def pushHandshake (q : ByteQueue) (name : String) : Except RelayError ByteQueue :=
  match q.tryPushHandshake name with
  | (q, .ok ()) => .ok q
  | (_, .error cause) => .error cause

theorem tryPushRelayed_of_ample {q : ByteQueue} (h : q.memory.Ample) (author body : List UInt8) :
    q.tryPushRelayed author body = (q.pushRelayed author body, .ok ()) ∧
      (q.pushRelayed author body).memory.Ample := by
  obtain ⟨htry, hample⟩ := tryPushAll_of_ample h (Frame.pieces author body)
  rw [pushRelayed, tryPushRelayed, htry]
  exact ⟨rfl, hample⟩

/-- With memory, the four pieces are pushed one after the other. -/
theorem pushRelayed_of_ample {q : ByteQueue} (h : q.memory.Ample) (author body : List UInt8) :
    q.pushRelayed author body =
      (((q.push author).push [Frame.separator]).push body).push [Frame.terminator] := by
  rw [pushRelayed, tryPushRelayed, (tryPushAll_of_ample h _).1]
  rfl

/-- A relayed frame that has been appended stands behind the live bytes. -/
theorem unconsumed_of_tryPushRelayed {q : ByteQueue} {author body : List UInt8}
    (h : (q.tryPushRelayed author body).2 = .ok ()) :
    (q.pushRelayed author body).unconsumed = q.unconsumed ++ Frame.relayed author body := by
  obtain ⟨-, hall⟩ | ⟨_, _, _, _, -, -, hfailed, -⟩ :=
    q.tryPushAll_cases (Frame.pieces author body)
  · rw [pushRelayed, tryPushRelayed, hall]
    simp [Frame.relayed, Frame.pieces]
  · cases hfailed.symm.trans h

@[simp] theorem unconsumed_pushRelayed {q : ByteQueue} (h : q.memory.Ample) (author body : List UInt8) :
    (q.pushRelayed author body).unconsumed = q.unconsumed ++ Frame.relayed author body :=
  unconsumed_of_tryPushRelayed (congrArg Prod.snd (tryPushRelayed_of_ample h author body).1)

end ChatRelay.ByteQueue
