import ChatRelay.ByteQueue.Framing
import ChatRelay.ByteQueue.Transfer

/-!
# What a pass over a socket moves

A pass reads or writes in as many steps as the socket makes of it. Seen through the live bytes of the
queue, only what was moved counts:

- `unconsumed_receive`: everything that was read stands behind the live bytes, however the pass ended.
- `receive_cases`: a pass reads what the source gives and ends as the source ends it, or it fails for lack
  of memory on the way.
- `received_receive`: with memory, the room that the queue had does not matter.
- `written_append_unconsumed_send`: what was written and what is left are the live bytes.
- `send_eq`, `unconsumed_send`: how much is written, and how the pass ends, is settled by the sink.
- `hasPending_of_partly`: a pass that has not written all leaves live bytes.
-/

namespace ChatRelay

namespace ReadEvent

/-- The bytes a source gives before the first event that ends a pass. An interrupted read ends none. -/
def delivered : List ReadEvent → List UInt8
  | [] => []
  | .data bytes :: rest => if bytes.isEmpty then [] else bytes ++ delivered rest
  | .endOfStream :: _ => []
  | .fault cause :: rest => if cause.kind = .interrupted then delivered rest else []

/-- How the first event that ends a pass ends it. -/
def ending : List ReadEvent → Except RelayError ReceiveStatus
  | [] => .ok .inProgress
  | .data bytes :: rest => if bytes.isEmpty then .ok .closed else ending rest
  | .endOfStream :: _ => .ok .closed
  | .fault cause :: rest =>
    if cause.kind = .interrupted then ending rest
    else match cause.kind with
      | .wouldBlock => .ok .inProgress
      | .connectionReset => .ok .closed
      | _ => .error (.system cause)

/-- A read that gives bytes leaves what a source gives after them. -/
theorem delivered_of_read_ok {room : Nat} {source rest : List ReadEvent} {bytes : List UInt8}
    (h : read room source = (.ok bytes, rest)) (hne : ¬bytes.isEmpty) :
    delivered source = bytes ++ delivered rest ∧ ending source = ending rest := by
  unfold read at h
  split at h
  · cases h
  · next whole later =>
    split at h
    · cases h
      exact ⟨if_neg hne, if_neg hne⟩
    · next hlong =>
      -- the bytes that do not fit are given by a later read
      cases h
      have hwhole : ¬whole.isEmpty := by
        rw [List.isEmpty_iff]
        rintro rfl
        exact hlong (Nat.zero_le _)
      have hlate : ¬(whole.drop room).isEmpty := by
        rw [List.isEmpty_iff, List.drop_eq_nil_iff]
        exact hlong
      constructor
      · rw [delivered, if_neg hwhole, delivered, if_neg hlate, ← List.append_assoc,
          List.take_append_drop]
      · rw [ending, if_neg hwhole, ending, if_neg hlate]
  · cases h
    exact absurd rfl hne
  · cases h

/-- A read into some room gives nothing only at the end of the stream. -/
theorem delivered_of_read_nil {room : Nat} (hroom : 0 < room) {source rest : List ReadEvent}
    {bytes : List UInt8} (h : read room source = (.ok bytes, rest)) (hnil : bytes.isEmpty) :
    delivered source = [] ∧ ending source = .ok .closed := by
  unfold read at h
  split at h
  · cases h
  · next whole later =>
    split at h
    · cases h
      exact ⟨if_pos hnil, if_pos hnil⟩
    · next hlong =>
      cases h
      rw [List.isEmpty_iff, List.take_eq_nil_iff] at hnil
      rcases hnil with hnil | hnil
      · omega
      · subst hnil
        exact absurd (Nat.zero_le _) hlong
  · cases h
    exact ⟨rfl, rfl⟩
  · cases h

/-- An interrupted read changes nothing. -/
theorem delivered_of_interrupted {room : Nat} {source rest : List ReadEvent} {cause : IoError}
    (h : read room source = (.error cause, rest)) (hc : cause.kind = .interrupted) :
    delivered source = delivered rest ∧ ending source = ending rest := by
  unfold read at h
  split at h
  · cases h
    cases hc
  · split at h <;> cases h
  · cases h
  · cases h
    constructor
    · rw [delivered, if_pos hc]
    · rw [ending, if_pos hc]

/-- Any other fault ends the pass. -/
theorem delivered_of_fault {room : Nat} {source rest : List ReadEvent} {cause : IoError}
    (h : read room source = (.error cause, rest)) (hc : cause.kind ≠ .interrupted) :
    delivered source = [] ∧
      ending source = match cause.kind with
        | .wouldBlock => .ok .inProgress
        | .connectionReset => .ok .closed
        | _ => .error (.system cause) := by
  unfold read at h
  split at h
  · cases h
    exact ⟨rfl, rfl⟩
  · split at h <;> cases h
  · cases h
  · cases h
    constructor
    · rw [delivered, if_neg hc]
    · rw [ending, if_neg hc]

end ReadEvent

namespace WriteEvent

/-- How many of the bytes that wait a sink takes in a pass, and how the pass ends. -/
def accepted (waiting : Nat) (sink : List WriteEvent) : Nat × Except RelayError SendStatus :=
  if waiting = 0 then (0, .ok .complete)
  else match sink with
    | [] => (0, .ok .partly)
    | .accept count :: rest =>
      if count = 0 then (0, .error (.system ByteQueue.writeZero))
      else
        let (later, outcome) := accepted (waiting - count) rest
        (min count waiting + later, outcome)
    | .fault cause :: rest =>
      if cause.kind = .interrupted then accepted waiting rest
      else (0, match cause.kind with
        | .wouldBlock => .ok .partly
        | _ => .error (.system cause))

theorem accepted_zero (sink : List WriteEvent) : accepted 0 sink = (0, .ok .complete) := by
  unfold accepted
  rfl

end WriteEvent

namespace ByteQueue

/-- Something waits in a queue while it has live bytes. -/
theorem hasPending_iff {q : ByteQueue} : q.hasPending ↔ q.unconsumed ≠ [] := by
  unfold hasPending size unconsumed
  rw [decide_eq_true_iff, Ne, List.drop_eq_nil_iff, Array.length_toList]
  exact Nat.not_le.symm

/-- A queue in which nothing waits has no live bytes. -/
theorem unconsumed_eq_nil {q : ByteQueue} (h : ¬q.hasPending) : q.unconsumed = [] :=
  Decidable.not_not.1 (mt hasPending_iff.2 h)

theorem pending_eq_zero_iff {q : ByteQueue} : q.pending = 0 ↔ q.unconsumed = [] := by
  rw [← length_unconsumed, List.length_eq_zero_iff]

/-- Whatever ends a pass, what was read stands behind the live bytes. -/
@[simp] theorem unconsumed_receive (q : ByteQueue) (source : List ReadEvent) :
    (q.receive source).queue.unconsumed = q.unconsumed ++ (q.receive source).received := by
  fun_induction receive q source with
  | case2 q source ready hroom bytes rest hread hne more ih =>
    show more.queue.unconsumed = q.unconsumed ++ (bytes ++ more.received)
    rw [ih, unconsumed_append, unconsumed_reserve, List.append_assoc]
  | case3 q source ready hroom cause rest hread hc more ih =>
    show more.queue.unconsumed = q.unconsumed ++ more.received
    rw [ih, unconsumed_reserve]
  | case1 q source ready | case4 q source ready | case5 q source ready =>
    show ready.unconsumed = q.unconsumed ++ []
    rw [unconsumed_reserve, List.append_nil]

/-- **What a pass reads and how it ends is settled by the source**, unless memory runs out on the way. Then
it has read some of that. -/
theorem receive_cases (q : ByteQueue) (source : List ReadEvent) :
    ((q.receive source).received = ReadEvent.delivered source ∧
      (q.receive source).outcome = ReadEvent.ending source) ∨
    ((q.receive source).received <+: ReadEvent.delivered source ∧
      ¬q.memory.Ample ∧ ∃ size, (q.receive source).outcome = .error (.outOfMemory size)) := by
  fun_induction receive q source with
  | case1 q source ready hroom bytes rest hread hnil =>
    obtain ⟨hd, he⟩ := ReadEvent.delivered_of_read_nil hroom hread hnil
    exact Or.inl ⟨hd.symm, he.symm⟩
  | case2 q source ready hroom bytes rest hread hne more ih =>
    obtain ⟨hd, he⟩ := ReadEvent.delivered_of_read_ok hread hne
    rw [hd, he]
    obtain ⟨hreceived, houtcome⟩ | ⟨hreceived, hmemory, hfailed⟩ := ih
    · exact Or.inl ⟨congrArg (bytes ++ ·) hreceived, houtcome⟩
    · exact Or.inr ⟨List.prefix_append_right_inj _ |>.2 hreceived,
        mt (ample_reserve · 1) hmemory, hfailed⟩
  | case3 q source ready hroom cause rest hread hc more ih =>
    obtain ⟨hd, he⟩ := ReadEvent.delivered_of_interrupted hread hc
    rw [hd, he]
    obtain hended | ⟨hreceived, hmemory, hfailed⟩ := ih
    · exact Or.inl hended
    · exact Or.inr ⟨hreceived, mt (ample_reserve · 1) hmemory, hfailed⟩
  | case4 q source ready hroom cause rest hread hc outcome =>
    obtain ⟨hd, he⟩ := ReadEvent.delivered_of_fault hread hc
    rw [hd, he]
    exact Or.inl ⟨rfl, rfl⟩
  | case5 q source ready hroom =>
    exact Or.inr ⟨List.nil_prefix, fun hmemory => hroom (le_spare_reserve hmemory.grants 1), _, rfl⟩

/-- With memory, what a pass reads and how it ends is settled by the source alone, whatever room the queue
had. -/
theorem received_receive {q : ByteQueue} (h : q.memory.Ample) (source : List ReadEvent) :
    (q.receive source).received = ReadEvent.delivered source ∧
      (q.receive source).outcome = ReadEvent.ending source := by
  obtain hended | ⟨-, hmemory, -⟩ := q.receive_cases source
  · exact hended
  · exact absurd h hmemory

theorem ample_receive {q : ByteQueue} (h : q.memory.Ample) (source : List ReadEvent) :
    (q.receive source).queue.memory.Ample := by
  fun_induction receive q source with
  | case2 q source ready hroom bytes rest hread hne more ih => exact ih (ample_reserve h 1)
  | case3 q source ready hroom cause rest hread hc more ih => exact ih (ample_reserve h 1)
  | case1 | case4 | case5 => exact ample_reserve h 1

/-- A pass of writing asks for no memory. -/
@[simp] theorem memory_send (q : ByteQueue) (sink : List WriteEvent) :
    (q.send sink).queue.memory = q.memory := by
  fun_induction send q sink with
  | case1 | case2 | case5 | case6 => rfl
  | case3 q h count rest taken hne more ih => exact ih
  | case4 q h cause rest hc more ih => exact ih

/-- **Nothing is lost or repeated on the way out**: what was written and what is left are the live
bytes. -/
theorem written_append_unconsumed_send (q : ByteQueue) (sink : List WriteEvent) :
    (q.send sink).written ++ (q.send sink).queue.unconsumed = q.unconsumed := by
  fun_induction send q sink with
  | case1 => rfl
  | case2 => rfl
  | case3 q h count rest taken hne more ih =>
    show q.peek taken ++ more.written ++ more.queue.unconsumed = q.unconsumed
    rw [List.append_assoc, ih, peek_eq_take, unconsumed_skip, List.take_append_drop]
  | case4 q h cause rest hc more ih => exact ih
  | case5 => rfl
  | case6 sink q h =>
    show [] ++ q.clear.unconsumed = q.unconsumed
    rw [unconsumed_clear, unconsumed_eq_nil h]
    rfl

/-- **What a pass writes and how it ends is settled by the sink**, wherever the live bytes stand. -/
theorem send_eq (q : ByteQueue) (sink : List WriteEvent) :
    (q.send sink).written =
        q.unconsumed.take (WriteEvent.accepted q.unconsumed.length sink).1 ∧
      (q.send sink).outcome = (WriteEvent.accepted q.unconsumed.length sink).2 := by
  have hwaiting {q : ByteQueue} (h : q.hasPending) : q.unconsumed.length ≠ 0 :=
    mt List.length_eq_zero_iff.1 (hasPending_iff.1 h)
  fun_induction send q sink with
  | case1 q h =>
    rw [WriteEvent.accepted, if_neg (hwaiting h)]
    exact ⟨rfl, rfl⟩
  | case2 q h count rest taken hzero =>
    have hcount : count = 0 := by
      have := hwaiting h
      rw [length_unconsumed] at this
      omega
    rw [WriteEvent.accepted, if_neg (hwaiting h)]
    simp only [if_pos hcount, List.take_zero, and_self]
  | case3 q h count rest taken hne more ih =>
    have hcount : count ≠ 0 := by omega
    have hleft : (q.skip taken).unconsumed.length = q.unconsumed.length - count := by
      rw [unconsumed_skip, List.length_drop, length_unconsumed]
      omega
    rw [hleft, unconsumed_skip] at ih
    rw [WriteEvent.accepted, if_neg (hwaiting h)]
    simp only [if_neg hcount]
    refine ⟨?_, ih.2⟩
    show q.peek taken ++ more.written = _
    rw [ih.1, peek_eq_take, length_unconsumed, List.take_add]
  | case4 q h cause rest hc more ih =>
    rw [WriteEvent.accepted, if_neg (hwaiting h)]
    simp only [if_pos hc]
    exact ih
  | case5 q h cause rest hc outcome =>
    rw [WriteEvent.accepted, if_neg (hwaiting h)]
    simp only [if_neg hc]
    exact ⟨rfl, rfl⟩
  | case6 sink q h =>
    rw [unconsumed_eq_nil h, List.length_nil, WriteEvent.accepted_zero]
    exact ⟨rfl, rfl⟩

/-- So the live bytes that are left are those behind what the sink took. -/
theorem unconsumed_send (q : ByteQueue) (sink : List WriteEvent) :
    (q.send sink).queue.unconsumed =
      q.unconsumed.drop (WriteEvent.accepted q.unconsumed.length sink).1 := by
  have hwhole := q.written_append_unconsumed_send sink
  rw [(q.send_eq sink).1] at hwhole
  exact List.append_cancel_left (hwhole.trans (List.take_append_drop ..).symm)

/-- A pass that has not written all leaves something waiting where something waited. -/
theorem hasPending_of_partly {q : ByteQueue} {sink : List WriteEvent}
    (h : (q.send sink).outcome = .ok .partly) :
    q.hasPending ∧ (q.send sink).queue.hasPending := by
  fun_induction send q sink with
  | case1 q hpending => exact ⟨hpending, hpending⟩
  | case2 => cases h
  | case3 q hpending count rest taken hne more ih => exact ⟨hpending, (ih h).2⟩
  | case4 q hpending cause rest hc more ih => exact ih h
  | case5 q hpending => exact ⟨hpending, hpending⟩
  | case6 => cases h

end ByteQueue

end ChatRelay
