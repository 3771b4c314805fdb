import ChatRelay.Proofs.ByteQueue.Transfer

/-!
# A byte queue is a list of bytes

Whatever is done to a byte queue, it answers like a plain list that is extended at its end and shortened
at its front. Where the live bytes stand in the region, and how large it is, nobody can tell, as long as the
allocator refuses nothing.

- `ByteQueue.Operation`, `ByteQueue.Answer`: what can be asked of a queue, and what it answers.
- `ByteQueue.perform`: an operation on a queue.
- `Fifo.perform`: the same on a list.
- `perform_eq`, `run_eq`: with memory, the answers agree, and the live bytes of the queue are the list.
-/

namespace ChatRelay

namespace ByteQueue

/-- Something that is asked of a queue. -/
inductive Operation where
  | push (bytes : List UInt8)
  | takeFrame
  | hasFrame
  | terminateLines
  | clear
  | pushRelayed (author body : List UInt8)
  | pushHandshake (name : String)
  | receive (source : List ReadEvent)
  | send (sink : List WriteEvent)

/-- What is answered. -/
inductive Answer where
  | done
  /-- The frame that was taken, if there was one. -/
  | frame (frame? : Option (List UInt8))
  /-- Whether a frame could be taken. -/
  | found (complete : Bool)
  /-- Whether something was appended, and why not otherwise. -/
  | appended (outcome : Except RelayError Unit)
  /-- The bytes that came, and how the pass ended. -/
  | received (bytes : List UInt8) (outcome : Except RelayError ReceiveStatus)
  /-- The bytes that went, and how the pass ended. -/
  | sent (bytes : List UInt8) (outcome : Except RelayError SendStatus)

/-- Perform an operation one after the other, and collect the answers. -/
def Operation.runWith {σ : Type} (perform : σ → Operation → σ × Answer) (s : σ) :
    List Operation → σ × List Answer
  | [] => (s, [])
  | operation :: rest =>
    let (s, answer) := perform s operation
    let (s, answers) := runWith perform s rest
    (s, answer :: answers)

/-- An operation on a queue. -/
def perform (q : ByteQueue) : Operation → ByteQueue × Answer
  | .push bytes =>
    let (q, outcome) := q.tryPush bytes
    (q, .appended outcome)
  | .takeFrame =>
    match q.takeFrame? with
    | none => (q, .frame none)
    | some (frame, rest) => (rest, .frame (some frame))
  | .hasFrame => (q, .found q.hasFrame)
  | .terminateLines => (q.terminateLines, .done)
  | .clear => (q.clear, .done)
  | .pushRelayed author body =>
    let (q, outcome) := q.tryPushRelayed author body
    (q, .appended outcome)
  | .pushHandshake name =>
    let (q, outcome) := q.tryPushHandshake name
    (q, .appended outcome)
  | .receive source =>
    let pass := q.receive source
    (pass.queue, .received pass.received pass.outcome)
  | .send sink =>
    let pass := q.send sink
    (pass.queue, .sent pass.written pass.outcome)

/-- Operations on a queue. -/
def run (q : ByteQueue) (operations : List Operation) : ByteQueue × List Answer :=
  Operation.runWith perform q operations

end ByteQueue

/-! ### The list -/

namespace Fifo

open ByteQueue (Operation Answer)

/-- An operation on a list of bytes. -/
def perform (bytes : List UInt8) : Operation → List UInt8 × Answer
  | .push more => (bytes ++ more, .appended (.ok ()))
  | .takeFrame =>
    -- the shortest front that ends in a terminator goes
    if Frame.terminator ∈ bytes then
      ((bytes.dropWhile (· ≠ Frame.terminator)).tail,
        .frame (some (bytes.takeWhile (· ≠ Frame.terminator))))
    else (bytes, .frame none)
  | .hasFrame => (bytes, .found (Frame.terminator ∈ bytes))
  | .terminateLines =>
    (bytes.map fun b => if b = Frame.separator then Frame.terminator else b, .done)
  | .clear => ([], .done)
  | .pushRelayed author body =>
    (bytes ++ author ++ [Frame.separator] ++ body ++ [Frame.terminator], .appended (.ok ()))
  | .pushHandshake name =>
    match DisplayName.check name with
    | .error cause => (bytes, .appended (.error cause))
    | .ok () => (bytes ++ Text.utf8 name ++ [Frame.terminator], .appended (.ok ()))
  | .receive source =>
    (bytes ++ ReadEvent.delivered source,
      .received (ReadEvent.delivered source) (ReadEvent.ending source))
  | .send sink =>
    let (count, outcome) := WriteEvent.accepted bytes.length sink
    (bytes.drop count, .sent (bytes.take count) outcome)

/-- Operations on a list of bytes. -/
def run (bytes : List UInt8) (operations : List Operation) : List UInt8 × List Answer :=
  Operation.runWith perform bytes operations

/-- The front of a list up to its first terminator. -/
theorem takeWhile_frame {frame : List UInt8} (h : Frame.terminator ∉ frame) (rest : List UInt8) :
    (frame ++ Frame.terminator :: rest).takeWhile (· ≠ Frame.terminator) = frame ∧
      (frame ++ Frame.terminator :: rest).dropWhile (· ≠ Frame.terminator) =
        Frame.terminator :: rest := by
  have hall : ∀ b ∈ frame, decide (b ≠ Frame.terminator) = true := by
    intro b hb
    exact decide_eq_true fun heq => h (heq ▸ hb)
  rw [List.takeWhile_append_of_pos hall, List.dropWhile_append_of_pos hall]
  simp

end Fifo

namespace ByteQueue

/-- There is a frame to take while a terminator is live. -/
theorem hasFrame_eq_decide (q : ByteQueue) :
    q.hasFrame = decide (Frame.terminator ∈ q.unconsumed) := by
  rw [Bool.eq_iff_iff, decide_eq_true_iff, hasFrame_eq, Option.isSome_iff_ne_none, Ne,
    takeFrame?_eq_none_iff, Decidable.not_not]

/-- A queue to which nothing will be refused stays one. -/
theorem ample_perform {q : ByteQueue} (h : q.memory.Ample) (operation : Operation) :
    (q.perform operation).1.memory.Ample := by
  cases operation with
  | push bytes => exact (tryPush_of_ample h bytes).2
  | takeFrame =>
    simp only [perform]
    cases htake : q.takeFrame? with
    | none => exact h
    | some taken => rwa [memory_of_takeFrame? htake]
  | pushRelayed author body => exact (tryPushRelayed_of_ample h author body).2
  | pushHandshake name =>
    simp only [perform, tryPushHandshake]
    cases DisplayName.check name with
    | error cause => exact h
    | ok _ =>
      rw [(tryPushAll_of_ample h _).1]
      exact (tryPushAll_of_ample h _).2
  | receive source => exact ample_receive h source
  | send sink =>
    show (q.send sink).queue.memory.Ample
    rwa [memory_send]
  | hasFrame | terminateLines | clear => exact h

/-- **A queue answers as its live bytes do**, and they change alike. -/
theorem perform_eq {q : ByteQueue} (h : q.memory.Ample) (operation : Operation) :
    ((q.perform operation).1.unconsumed, (q.perform operation).2) =
      Fifo.perform q.unconsumed operation := by
  cases operation with
  | push bytes =>
    simp only [perform, Fifo.perform, (tryPush_of_ample h bytes).1, unconsumed_push h]
  | takeFrame =>
    simp only [perform, Fifo.perform]
    cases htake : q.takeFrame? with
    | none => rw [if_neg (q.takeFrame?_eq_none_iff.1 htake)]
    | some taken =>
      obtain ⟨frame, rest⟩ := taken
      obtain ⟨hbytes, hnot⟩ := unconsumed_of_takeFrame? htake
      obtain ⟨hfront, hback⟩ := Fifo.takeWhile_frame hnot rest.unconsumed
      have hmem : Frame.terminator ∈ q.unconsumed := by
        rw [hbytes]
        exact List.mem_append_right _ List.mem_cons_self
      rw [if_pos hmem, hbytes, hfront, hback]
      rfl
  | hasFrame =>
    show (q.unconsumed, Answer.found q.hasFrame) = (q.unconsumed, Answer.found _)
    rw [hasFrame_eq_decide]
  | terminateLines =>
    show (q.terminateLines.unconsumed, Answer.done) = _
    rw [unconsumed_terminateLines]
    rfl
  | clear =>
    show (q.clear.unconsumed, Answer.done) = _
    rw [unconsumed_clear]
    rfl
  | pushRelayed author body =>
    simp only [perform, Fifo.perform, (tryPushRelayed_of_ample h author body).1,
      unconsumed_pushRelayed h, Frame.relayed, List.append_assoc, List.cons_append,
      List.nil_append]
  | pushHandshake name =>
    simp only [perform, Fifo.perform, tryPushHandshake]
    cases DisplayName.check name with
    | error cause => rfl
    | ok _ =>
      obtain ⟨-, hname⟩ := tryPush_of_ample h (Text.utf8 name)
      rw [(tryPushAll_of_ample h _).1]
      simp only [List.foldl_cons, List.foldl_nil, unconsumed_push hname, unconsumed_push h]
  | receive source =>
    obtain ⟨hreceived, houtcome⟩ := received_receive h source
    simp only [perform, Fifo.perform, unconsumed_receive, hreceived, houtcome]
  | send sink =>
    obtain ⟨hwritten, houtcome⟩ := q.send_eq sink
    simp only [perform, Fifo.perform, unconsumed_send, hwritten, houtcome]

/-- So they do after any operations. -/
theorem run_eq {q : ByteQueue} (h : q.memory.Ample) (operations : List Operation) :
    ((q.run operations).1.unconsumed, (q.run operations).2) = Fifo.run q.unconsumed operations := by
  induction operations generalizing q with
  | nil => rfl
  | cons operation rest ih =>
    have hstep := perform_eq h operation
    have hrest := ih (ample_perform h operation)
    show ((((q.perform operation).1.run rest).1.unconsumed,
      (q.perform operation).2 :: ((q.perform operation).1.run rest).2)) =
      ((Fifo.run (Fifo.perform q.unconsumed operation).1 rest).1,
        (Fifo.perform q.unconsumed operation).2 ::
          (Fifo.run (Fifo.perform q.unconsumed operation).1 rest).2)
    rw [← hstep, ← hrest]

theorem ample_run {q : ByteQueue} (h : q.memory.Ample) (operations : List Operation) :
    (q.run operations).1.memory.Ample := by
  induction operations generalizing q with
  | nil => exact h
  | cons operation rest ih => exact ih (ample_perform h operation)

end ByteQueue

end ChatRelay
