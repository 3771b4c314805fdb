import ChatRelay.Proofs.ByteQueue.Transfer
import Mathlib.Data.List.Chain

/-!
# A pass of reading from any source

A pass reads until an event of the source ends it, as long as there is memory for what comes. Everything
that came before stays in the queue, whichever event that is, and nothing behind it is touched.

- `ReadEvent.EndsPass`: the events that end a pass. The others give bytes or have the read repeated.
- `ReadEvent.unread`: what a source still has after a pass; `rest_receive`: a pass leaves that.
- `Reading`, `Reading.Next`: a read at the moment it is made, and the read after it.
- `ByteQueue.exists_readings`: the reads of a pass, each offered all the room behind the valid bytes,
  which is never none.
- `ByteQueue.reads_to_end`: what a pass over any source that ends it keeps, answers and offers.
-/

namespace ChatRelay

namespace ReadEvent

/-- An event ends a pass unless it gives bytes or interrupts a read. -/
def EndsPass : ReadEvent → Prop
  | .data bytes => bytes = []
  | .endOfStream => True
  | .fault cause => cause.kind ≠ .interrupted

instance : DecidablePred EndsPass
  | .data bytes => inferInstanceAs (Decidable (bytes = []))
  | .endOfStream => inferInstanceAs (Decidable True)
  | .fault cause => inferInstanceAs (Decidable (cause.kind ≠ .interrupted))

/-- The bytes of an event. -/
def content : ReadEvent → List UInt8
  | .data bytes => bytes
  | _ => []

/-- What a source has behind the first event that ends a pass. -/
def unread : List ReadEvent → List ReadEvent
  | [] => []
  | event :: rest => if event.EndsPass then rest else unread rest

/-- A source with an event that ends a pass has a first one. -/
theorem exists_first_end {source : List ReadEvent} (h : ∃ event ∈ source, event.EndsPass) :
    ∃ front last rest, source = front ++ last :: rest ∧ (∀ event ∈ front, ¬event.EndsPass) ∧
      last.EndsPass := by
  have hfind : (source.find? fun event => decide event.EndsPass).isSome := by simpa using h
  obtain ⟨last, hlast⟩ := Option.isSome_iff_exists.1 hfind
  obtain ⟨hends, front, rest, hsource, hfront⟩ := List.find?_eq_some_iff_append.1 hlast
  exact ⟨front, last, rest, hsource, by simpa using hfront, by simpa using hends⟩

/-- An event that ends the pass gives nothing, says how the pass ends and leaves all behind it. -/
theorem of_endsPass {last : ReadEvent} (h : last.EndsPass) (rest : List ReadEvent) :
    delivered (last :: rest) = [] ∧ ending (last :: rest) = ending [last] ∧
      unread (last :: rest) = rest := by
  refine ⟨?_, ?_, if_pos h⟩
  · cases last with
    | data bytes => exact if_pos (List.isEmpty_iff.2 h)
    | endOfStream => rfl
    | fault cause => exact if_neg h
  · cases last with
    | data bytes =>
      have hnil := List.isEmpty_iff.2 h
      exact (if_pos hnil).trans (if_pos hnil).symm
    | endOfStream => rfl
    | fault cause => exact (if_neg h).trans (if_neg h).symm

/-- Any other event gives its bytes, and the pass goes on. -/
theorem of_not_endsPass {event : ReadEvent} (h : ¬event.EndsPass) (rest : List ReadEvent) :
    delivered (event :: rest) = event.content ++ delivered rest ∧
      ending (event :: rest) = ending rest ∧ unread (event :: rest) = unread rest := by
  refine ⟨?_, ?_, if_neg h⟩
  · cases event with
    | data bytes => exact if_neg (mt List.isEmpty_iff.1 h)
    | endOfStream => exact absurd trivial h
    | fault cause => exact if_pos (Decidable.not_not.1 h)
  · cases event with
    | data bytes => exact if_neg (mt List.isEmpty_iff.1 h)
    | endOfStream => exact absurd trivial h
    | fault cause => exact if_pos (Decidable.not_not.1 h)

/-- So all bytes up to the first event that ends the pass are given, this event says how, and the
source keeps what is behind it. -/
theorem of_first_end {front : List ReadEvent} {last : ReadEvent}
    (hfront : ∀ event ∈ front, ¬event.EndsPass) (hlast : last.EndsPass) (rest : List ReadEvent) :
    delivered (front ++ last :: rest) = front.flatMap content ∧
      ending (front ++ last :: rest) = ending [last] ∧ unread (front ++ last :: rest) = rest := by
  induction front with
  | nil => exact of_endsPass hlast rest
  | cons event front ih =>
    rw [List.forall_mem_cons] at hfront
    obtain ⟨hdelivered, hending, hunread⟩ := of_not_endsPass hfront.1 (front ++ last :: rest)
    obtain ⟨hlater, hsame, hbehind⟩ := ih hfront.2
    refine ⟨?_, hending.trans hsame, hunread.trans hbehind⟩
    rw [List.cons_append, hdelivered, hlater, List.flatMap_cons]

/-- A read that gives bytes leaves what is behind the end of the pass, and one that gives none leaves
only that. -/
theorem unread_of_read_ok {room : Nat} (hroom : 0 < room) {source rest : List ReadEvent}
    {bytes : List UInt8} (h : read room source = (.ok bytes, rest)) :
    unread source = if bytes = [] then rest else unread rest := by
  unfold read at h
  split at h
  · cases h
  · next whole later =>
    split at h
    · cases h
      rfl
    · next hlong =>
      -- the bytes that do not fit are left for a later read
      cases h
      have hwhole : whole ≠ [] := by
        rintro rfl
        exact hlong (Nat.zero_le _)
      have htake : whole.take room ≠ [] := by
        rw [Ne, List.take_eq_nil_iff, not_or]
        exact ⟨Nat.ne_of_gt hroom, hwhole⟩
      have hdrop : whole.drop room ≠ [] := by
        rw [Ne, List.drop_eq_nil_iff]
        exact hlong
      rw [if_neg htake]
      exact (if_neg hwhole).trans (if_neg hdrop).symm
  · cases h
    rfl
  · cases h

theorem unread_of_read_error {room : Nat} {source rest : List ReadEvent} {cause : IoError}
    (h : read room source = (.error cause, rest)) :
    unread source = if cause.kind = .interrupted then unread rest else rest := by
  unfold read at h
  split at h
  · cases h
    rfl
  · split at h <;> cases h
  · cases h
  · cases h
    exact ite_not ..

end ReadEvent

open ReadEvent (EndsPass)

/-- A read at the moment it is made: room has been made in the queue, and the source is to answer. -/
structure Reading where
  queue : ByteQueue
  source : List ReadEvent

namespace Reading

/-- The room that is offered: all of the region behind the valid bytes. -/
def room (r : Reading) : Nat := r.queue.capacity - r.queue.size

/-- What the source answers. -/
def answer (r : Reading) : Except IoError (List UInt8) := (ReadEvent.read r.room r.source).1

/-- The next read of the pass, if there is one. -/
inductive Next (r : Reading) : Reading → Prop
  /-- Bytes came. They are put behind the valid ones, and room is made again. -/
  | came {bytes : List UInt8} {rest : List ReadEvent}
      (h : ReadEvent.read r.room r.source = (.ok bytes, rest)) (hne : bytes ≠ []) :
      Next r ⟨(r.queue.append bytes (ReadEvent.length_read h)).reserve 1, rest⟩
  /-- The read was interrupted and is repeated. -/
  | interrupted {cause : IoError} {rest : List ReadEvent}
      (h : ReadEvent.read r.room r.source = (.error cause, rest)) (hc : cause.kind = .interrupted) :
      Next r ⟨r.queue.reserve 1, rest⟩

/-- A read into some room gives no bytes only at the end of the stream. -/
theorem ends_of_answer_nil {r : Reading} (hroom : 0 < r.room) (h : r.answer = .ok []) :
    ∃ later, r.source = .endOfStream :: later ∨ r.source = .data [] :: later := by
  unfold answer ReadEvent.read at h
  split at h
  · cases h
  · next whole later hsource =>
    split at h
    · cases h
      exact ⟨later, Or.inr hsource⟩
    · next hlong =>
      have htake := Except.ok.inj h
      rw [List.take_eq_nil_iff] at htake
      rcases htake with htake | htake
      · omega
      · subst htake
        exact absurd (Nat.zero_le _) hlong
  · next later hsource => exact ⟨later, Or.inl hsource⟩
  · cases h

end Reading

namespace ByteQueue

/-- A pass leaves the source what is behind its end. -/
theorem rest_receive {q : ByteQueue} (h : q.memory.Ample) (source : List ReadEvent) :
    (q.receive source).rest = ReadEvent.unread source := by
  fun_induction receive q source with
  | case1 q source ready hroom bytes rest hread hnil =>
    rw [ReadEvent.unread_of_read_ok hroom hread, if_pos (List.isEmpty_iff.1 hnil)]
  | case2 q source ready hroom bytes rest hread hne more ih =>
    rw [ReadEvent.unread_of_read_ok hroom hread, if_neg (mt List.isEmpty_iff.2 hne)]
    exact ih (ample_reserve h 1)
  | case3 q source ready hroom cause rest hread hc more ih =>
    rw [ReadEvent.unread_of_read_error hread, if_pos hc]
    exact ih (ample_reserve h 1)
  | case4 q source ready hroom cause rest hread hc outcome =>
    rw [ReadEvent.unread_of_read_error hread, if_neg hc]
  | case5 q source ready hroom => exact absurd (le_spare_reserve h.grants 1) hroom

/-- The reads of a pass. Each of them follows the one before it, and the pass leaves the queue that the
last one was made into. Each is offered some room. -/
structure Reads (first : Reading) (readings : List Reading) (pass : Reception) : Prop where
  first : readings.head? = some first
  follow : readings.IsChain Reading.Next
  last : readings.getLast?.map Reading.queue = some pass.queue
  offered : pass.offered = readings.map Reading.room
  room : ∀ r ∈ readings, 0 < r.room

namespace Reads

variable {r next : Reading} {readings : List Reading} {pass more : Reception}

/-- A read that ends the pass is its last. -/
theorem single (hroom : 0 < r.room) (hqueue : pass.queue = r.queue)
    (hoffered : pass.offered = [r.room]) : Reads r [r] pass where
  first := rfl
  follow := .singleton r
  last := congrArg some hqueue.symm
  offered := hoffered
  room := List.forall_mem_singleton.2 hroom

/-- A read that is followed by others. -/
theorem cons (h : Reads next readings more) (hnext : r.Next next) (hroom : 0 < r.room)
    (hqueue : pass.queue = more.queue) (hoffered : pass.offered = r.room :: more.offered) :
    Reads r (r :: readings) pass where
  first := rfl
  follow := by
    rw [List.isChain_cons, h.first]
    refine ⟨fun s hs => ?_, h.follow⟩
    cases hs
    exact hnext
  last := by
    obtain ⟨last, hlast, heq⟩ := Option.map_eq_some_iff.1 h.last
    rw [List.getLast?_cons, hlast, hqueue, ← heq]
    rfl
  offered := by rw [hoffered, h.offered, List.map_cons]
  room := List.forall_mem_cons.2 ⟨hroom, h.room⟩

end Reads

/-- **A pass is a chain of reads**, each of which is offered all the room behind the valid bytes. -/
theorem exists_readings {q : ByteQueue} (h : q.memory.Ample) (source : List ReadEvent) :
    ∃ readings, Reads ⟨q.reserve 1, source⟩ readings (q.receive source) := by
  fun_induction receive q source with
  | case1 q source ready hroom bytes rest hread hnil => exact ⟨_, .single hroom rfl rfl⟩
  | case2 q source ready hroom bytes rest hread hne more ih =>
    obtain ⟨readings, hreads⟩ := ih (ample_reserve h 1)
    have hnext := Reading.Next.came (r := ⟨ready, source⟩) hread (mt List.isEmpty_iff.2 hne)
    exact ⟨_, hreads.cons hnext hroom rfl rfl⟩
  | case3 q source ready hroom cause rest hread hc more ih =>
    obtain ⟨readings, hreads⟩ := ih (ample_reserve h 1)
    have hnext := Reading.Next.interrupted (r := ⟨ready, source⟩) hread hc
    exact ⟨_, hreads.cons hnext hroom rfl rfl⟩
  | case4 q source ready hroom cause rest hread hc outcome => exact ⟨_, .single hroom rfl rfl⟩
  | case5 q source ready hroom => exact absurd (le_spare_reserve h.grants 1) hroom

/-! ### The whole pass -/

/-- What a pass does over a source in which `last` is the first event that ends it. -/
structure Receives (q : ByteQueue) (front : List ReadEvent) (last : ReadEvent)
    (behind : List ReadEvent) (pass : Reception) : Prop where
  /-- All bytes before the end stand behind the live ones, in order and however the pass ended. -/
  received : pass.received = front.flatMap ReadEvent.content
  kept : pass.queue.unconsumed = q.unconsumed ++ front.flatMap ReadEvent.content
  /-- Nothing behind the end is asked for. -/
  untouched : pass.rest = behind
  /-- The end of the stream and a reset close. -/
  closed : pass.outcome = .ok .closed ↔ last = .endOfStream ∨ last = .data [] ∨
    ∃ cause, last = .fault cause ∧ cause.kind = .connectionReset
  /-- The pass is to go on once the source would no longer block. -/
  inProgress : pass.outcome = .ok .inProgress ↔
    ∃ cause, last = .fault cause ∧ cause.kind = .wouldBlock
  /-- Any other fault is the answer. -/
  failed : ∀ error, pass.outcome = .error error ↔
    ∃ cause, last = .fault cause ∧ cause.kind ≠ .wouldBlock ∧ cause.kind ≠ .connectionReset ∧
      error = .system cause
  /-- Every read is offered all the room behind the valid bytes, and there is some; so it gives no bytes
  only at the end of the stream. -/
  reads : ∃ readings, Reads ⟨q.reserve 1, front ++ last :: behind⟩ readings pass ∧
    ∀ r ∈ readings, r.answer = .ok [] →
      ∃ later, r.source = .endOfStream :: later ∨ r.source = .data [] :: later
  /-- Any queue with these live bytes and with memory receives alike, wherever they stand in a region of any
  size. -/
  alike : ∀ other : ByteQueue, other.memory.Ample → other.unconsumed = q.unconsumed →
    (other.receive (front ++ last :: behind)).queue.unconsumed = pass.queue.unconsumed ∧
      (other.receive (front ++ last :: behind)).outcome = pass.outcome

/-- The event that ends a pass settles how. -/
theorem ending_of_endsPass {last : ReadEvent} (h : last.EndsPass) :
    (ReadEvent.ending [last] = .ok .closed ↔ last = .endOfStream ∨ last = .data [] ∨
      ∃ cause, last = .fault cause ∧ cause.kind = .connectionReset) ∧
    (ReadEvent.ending [last] = .ok .inProgress ↔
      ∃ cause, last = .fault cause ∧ cause.kind = .wouldBlock) ∧
    ∀ error, ReadEvent.ending [last] = .error error ↔
      ∃ cause, last = .fault cause ∧ cause.kind ≠ .wouldBlock ∧ cause.kind ≠ .connectionReset ∧
        error = .system cause := by
  cases last with
  | data bytes =>
    cases h
    simp [ReadEvent.ending]
  | endOfStream => simp [ReadEvent.ending]
  | fault cause =>
    rw [ReadEvent.ending, if_neg h]
    split
    · next hkind => simp [hkind]
    · next hkind => simp [hkind]
    · next hblock hreset =>
      have hkind : cause.kind ≠ .wouldBlock ∧ cause.kind ≠ .connectionReset := ⟨hblock, hreset⟩
      refine ⟨by simp [hkind.2], by simp [hkind.1], fun error => ⟨?_, ?_⟩⟩
      · intro herror
        exact ⟨cause, rfl, hkind.1, hkind.2, (Except.error.inj herror).symm⟩
      · rintro ⟨_, hcause, -, -, rfl⟩
        cases hcause
        rfl

/-- **Whatever a source gives before it ends a pass is kept, and the end is answered**, if the allocator grants
the queue what it needs. -/
theorem reads_to_end {q : ByteQueue} (hgranted : q.memory.Ample) {source : List ReadEvent}
    (h : ∃ event ∈ source, event.EndsPass) :
    ∃ front last behind, source = front ++ last :: behind ∧ (∀ event ∈ front, ¬event.EndsPass) ∧
      last.EndsPass ∧ Receives q front last behind (q.receive source) := by
  obtain ⟨front, last, behind, rfl, hfront, hlast⟩ := ReadEvent.exists_first_end h
  refine ⟨front, last, behind, rfl, hfront, hlast, ?_⟩
  obtain ⟨hdelivered, hending, hunread⟩ := ReadEvent.of_first_end hfront hlast behind
  obtain ⟨hreceived, houtcome⟩ := received_receive hgranted (front ++ last :: behind)
  rw [hdelivered] at hreceived
  rw [hending] at houtcome
  obtain ⟨hclosed, hinProgress, hfailed⟩ := ending_of_endsPass hlast
  rw [← houtcome] at hclosed hinProgress hfailed
  constructor
  case received => exact hreceived
  case kept => rw [unconsumed_receive, hreceived]
  case untouched => rw [rest_receive hgranted, hunread]
  case closed => exact hclosed
  case inProgress => exact hinProgress
  case failed => exact hfailed
  case reads =>
    obtain ⟨readings, hreads⟩ := exists_readings hgranted (front ++ last :: behind)
    exact ⟨readings, hreads, fun r hr => Reading.ends_of_answer_nil (hreads.room r hr)⟩
  case alike =>
    intro other hmemory hother
    obtain ⟨hreceived', houtcome'⟩ := received_receive hmemory (front ++ last :: behind)
    rw [unconsumed_receive, unconsumed_receive, hother, hreceived', hdelivered, hreceived,
      houtcome', hending, houtcome]
    exact ⟨rfl, rfl⟩

/-- A full queue of which three bytes have been consumed. -/
def fullQueue : ByteQueue where
  bytes := #[97, 98, 99, 100, 101, 102, 103, 104]
  consumed := 3
  capacity := 8

/-- A source that gives five bytes, interrupts a read and is then reset. -/
def resetSource : List ReadEvent :=
  [.data [1, 2, 3, 4, 5], .fault (.os 4), .fault (.os 104), .data [6]]

/-- The first read fills what the consumed bytes took up. The others come once the region has grown, and
what was read before the reset is kept. -/
theorem reads_to_end_full :
    let pass := fullQueue.receive resetSource
    fullQueue.memory.Ample ∧ (∃ event ∈ resetSource, event.EndsPass) ∧
      (∃ front last behind, resetSource = front ++ last :: behind ∧
        (∀ event ∈ front, ¬event.EndsPass) ∧ last.EndsPass ∧
        Receives fullQueue front last behind pass) ∧
      pass.offered = [3, 1016, 1014, 1014] ∧ pass.outcome = .ok .closed ∧
      pass.queue.unconsumed = [100, 101, 102, 103, 104, 1, 2, 3, 4, 5] ∧ pass.rest = [.data [6]] := by
  intro pass
  have hends : ∃ event ∈ resetSource, event.EndsPass :=
    ⟨.fault (.os 104), by decide, by decide⟩
  have hrun : pass.offered = [3, 1016, 1014, 1014] ∧ pass.outcome = .ok .closed ∧
      pass.queue.unconsumed = [100, 101, 102, 103, 104, 1, 2, 3, 4, 5] ∧
      pass.rest = [.data [6]] := by
    decide +kernel
  have hgranted : fullQueue.memory.Ample := by decide
  exact ⟨hgranted, hends, reads_to_end hgranted hends, hrun⟩

end ByteQueue

end ChatRelay
