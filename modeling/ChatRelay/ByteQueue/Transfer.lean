import ChatRelay.ByteQueue.Basic

/-!
# Moving bytes between a socket and a queue

A socket is known by what its next reads and writes will give. `ReadEvent` and `WriteEvent` are such
answers; behind the last one every call would block.

- `ByteQueue.receive`: read until the source would block, ends, or fails, or memory does.
- `ByteQueue.send`: write the live bytes until they are gone, or the sink would block or fails.
-/

namespace ChatRelay

/-- What a socket has for the reads to come. -/
inductive ReadEvent where
  /-- Bytes, handed out as far as the reader has room; none at all mean the end of the stream. -/
  | data (bytes : List UInt8)
  | endOfStream
  | fault (cause : IoError)
  deriving DecidableEq, Repr

/-- What a socket answers to the writes to come. -/
inductive WriteEvent where
  /-- Up to this many of the offered bytes are taken. -/
  | accept (count : Nat)
  | fault (cause : IoError)
  deriving DecidableEq, Repr

namespace ReadEvent

/-- One read with room for `room` bytes, and what is left for later reads. Bytes that do not fit
stay. -/
def read (room : Nat) : List ReadEvent → Except IoError (List UInt8) × List ReadEvent
  | [] => (.error .wouldBlock, [])
  | .data bytes :: rest =>
    if bytes.length ≤ room then (.ok bytes, rest)
    else (.ok (bytes.take room), .data (bytes.drop room) :: rest)
  | .endOfStream :: rest => (.ok [], rest)
  | .fault cause :: rest => (.error cause, rest)

/-- A bound on how many reads the events can answer. -/
def weight : List ReadEvent → Nat
  | [] => 0
  | .data bytes :: rest => bytes.length + 1 + weight rest
  | _ :: rest => 1 + weight rest

/-- A read gives at most what the reader has room for. -/
theorem length_read {room : Nat} {script rest : List ReadEvent} {bytes : List UInt8}
    (h : read room script = (.ok bytes, rest)) : bytes.length ≤ room := by
  unfold read at h
  split at h
  · cases h
  · split at h
    · cases h
      assumption
    · cases h
      exact List.length_take_le ..
  · cases h
    exact Nat.zero_le _
  · cases h

theorem weight_read_ok {room : Nat} (hroom : 0 < room) {script rest : List ReadEvent}
    {bytes : List UInt8} (h : read room script = (.ok bytes, rest)) :
    weight rest < weight script := by
  unfold read at h
  split at h
  · cases h
  · split at h
    · cases h
      simp only [weight]
      omega
    · cases h
      simp only [weight, List.length_drop]
      omega
  · cases h
    simp only [weight]
    omega
  · cases h

theorem weight_read_error {room : Nat} {script rest : List ReadEvent} {cause : IoError}
    (h : read room script = (.error cause, rest)) (hc : cause.kind ≠ .wouldBlock) :
    weight rest < weight script := by
  unfold read at h
  split at h
  · cases h
    exact absurd rfl hc
  · split at h <;> cases h
  · cases h
  · cases h
    simp only [weight]
    omega

end ReadEvent

/-- How a pass over a readable source ended. -/
inductive ReceiveStatus where
  /-- The source would block. -/
  | inProgress
  /-- The other side closed. -/
  | closed
  deriving DecidableEq, Repr

/-- How a pass over a writable sink ended. -/
inductive SendStatus where
  /-- Nothing is left to write. -/
  | complete
  /-- The sink would block with bytes left. -/
  | partly
  deriving DecidableEq, Repr

/-- A pass over a readable source. -/
structure Reception where
  /-- The queue afterwards. -/
  queue : ByteQueue
  outcome : Except RelayError ReceiveStatus
  /-- The bytes that arrived. -/
  received : List UInt8 := []
  /-- The room offered to each read. -/
  offered : List Nat := []
  /-- What the source still has. -/
  rest : List ReadEvent := []

/-- A pass over a writable sink. -/
structure Transmission where
  /-- The queue afterwards. -/
  queue : ByteQueue
  outcome : Except RelayError SendStatus
  /-- The bytes the sink took. -/
  written : List UInt8 := []
  /-- The number of bytes offered to each write. -/
  offered : List Nat := []
  /-- What the sink will still answer. -/
  rest : List WriteEvent := []

namespace ByteQueue

/-- The failure of a sink that takes nothing. -/
def writeZero : IoError := .custom .writeZero "write returned 0"

/-- Read from a source until it would block, ends or fails. An interrupted read is repeated, and a
reset ends the stream. Without room for another byte the pass fails before it reads. What arrived before
stays in the queue. -/
def receive (q : ByteQueue) (source : List ReadEvent) : Reception :=
  let ready := q.reserve 1
  if _hroom : 0 < ready.spare then
    match h : ReadEvent.read ready.spare source with
    | (.ok bytes, rest) =>
      if bytes.isEmpty then
        { queue := ready, outcome := .ok .closed, offered := [ready.spare], rest }
      else
        let more := receive (ready.append bytes (ReadEvent.length_read h)) rest
        { more with received := bytes ++ more.received, offered := ready.spare :: more.offered }
    | (.error cause, rest) =>
      if _hc : cause.kind = .interrupted then
        let more := receive ready rest
        { more with offered := ready.spare :: more.offered }
      else
        let outcome := match cause.kind with
          | .wouldBlock => .ok .inProgress
          | .connectionReset => .ok .closed
          | _ => .error (.system cause)
        { queue := ready, outcome, offered := [ready.spare], rest }
  else { queue := ready, outcome := .error (ready.shortage 1), rest := source }
termination_by ReadEvent.weight source
decreasing_by
  · exact ReadEvent.weight_read_ok _hroom h
  · exact ReadEvent.weight_read_error h (by simp [_hc])

/-- Write the live bytes until none is left, or the sink would block or fails. An interrupted write is
repeated. When all is written the region starts afresh. -/
def send (q : ByteQueue) (sink : List WriteEvent) : Transmission :=
  if q.hasPending then
    match sink with
    | [] => { queue := q, outcome := .ok .partly, offered := [q.pending] }
    | .accept count :: rest =>
      let taken := min count q.pending
      if taken = 0 then
        { queue := q, outcome := .error (.system writeZero), offered := [q.pending], rest }
      else
        let more := (q.skip taken).send rest
        { more with written := q.peek taken ++ more.written, offered := q.pending :: more.offered }
    | .fault cause :: rest =>
      if cause.kind = .interrupted then
        let more := q.send rest
        { more with offered := q.pending :: more.offered }
      else
        let outcome := match cause.kind with
          | .wouldBlock => .ok .partly
          | _ => .error (.system cause)
        { queue := q, outcome, offered := [q.pending], rest }
  else { queue := q.clear, outcome := .ok .complete, rest := sink }

end ByteQueue

end ChatRelay
