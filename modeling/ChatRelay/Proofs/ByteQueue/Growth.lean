import ChatRelay.Proofs.ByteQueue.Region
import ChatRelay.Proofs.ByteQueue.Transmission

/-!
# How far a byte queue grows

Room is made in two stages, and each of them looks at the valid bytes, the consumed ones included. Still
consumed bytes never make a region grow: they are moved out of the way before. What counts are the bytes
that wait and the room that is asked for. Where the allocator refuses to let it grow, a region stays as large
as it is.

- `enlarge`: the capacity that a demand leads to.
- `Grows`, `grows`: what a request does, in numbers of any size and in words of 64 bits.
- `Request`, `requests`: the requests that an operation makes, each with the queue it is made to.
- `Chain`, `chain_run`: nothing else changes the capacity. All bounds follow by induction on the chain.
- `bounded_growth`: the law of every request, and the bounds after any operations.
-/

namespace ChatRelay

namespace ByteQueue

/-! ### One request -/

/-- The capacity that a region gets when it is to hold `demand` bytes. -/
def enlarge (capacity demand : Nat) : Nat :=
  if demand ≤ capacity then capacity else max (2 * capacity) (max minCapacity demand)

/-- The two stages together look at what waits and at what is asked for. If both fit, the region stays,
and else it grows, with no consumed bytes in it. -/
theorem reserve_cases (q : ByteQueue) (room : Nat) :
    (q.pending + room ≤ q.capacity ∧ (q.reserve room = q ∨ q.reserve room = q.compact)) ∨
    (q.capacity < q.pending + room ∧
      ∃ q' : ByteQueue, q.reserve room = q'.grow room ∧ q'.size = q.pending ∧
        q'.capacity = q.capacity ∧ q'.memory = q.memory) := by
  have hconsumed : q.consumed ≤ q.size := q.consumed_le_size
  have hsize : q.size ≤ q.capacity := q.size_le_capacity
  have hpending : q.pending = q.size - q.consumed := rfl
  have hspare : q.spare = q.capacity - q.size := rfl
  have hcompact : q.compact.spare = q.capacity - q.pending := by
    rw [spare, q.size_compact, q.capacity_compact]
  unfold reserve
  by_cases hfits : room ≤ q.spare
  · exact Or.inl ⟨by omega, Or.inl (if_pos hfits)⟩
  rw [if_neg hfits]
  by_cases hused : 0 < q.consumed
  · rw [if_pos hused]
    by_cases hmoved : room ≤ q.compact.spare
    · exact Or.inl ⟨by omega, Or.inr (if_pos hmoved)⟩
    · exact Or.inr ⟨by omega, q.compact, if_neg hmoved, q.size_compact, q.capacity_compact, rfl⟩
  · exact Or.inr ⟨by omega, q, if_neg hused, by omega, rfl, rfl⟩

/-- **What counts are the bytes that wait**, wherever they stand. -/
theorem capacity_reserve {q : ByteQueue} (h : q.memory.grants) (room : Nat) :
    (q.reserve room).capacity = enlarge q.capacity (q.pending + room) := by
  unfold enlarge
  obtain ⟨hfits, heq | heq⟩ | ⟨hfull, q', heq, hsize, hcapacity, hmemory⟩ := q.reserve_cases room
  · rw [heq, if_pos hfits]
  · rw [heq, if_pos hfits, q.capacity_compact]
  · rw [heq, if_neg (Nat.not_le.2 hfull), capacity_grow, hmemory, if_pos h, grownCapacity, hsize,
      hcapacity, Nat.max_assoc]

/-- A refusal leaves the region as large as it is, so that the room is not there. -/
theorem reserve_of_refused {q : ByteQueue} (h : ¬q.memory.grants) {room : Nat}
    (hfull : q.capacity < q.pending + room) :
    (q.reserve room).capacity = q.capacity ∧ (q.reserve room).spare < room := by
  have hsize : q.size ≤ q.capacity := q.size_le_capacity
  have hpending : q.pending ≤ q.size := Nat.sub_le ..
  obtain ⟨hfits, -⟩ | ⟨-, q', heq, hsize, hcapacity, hmemory⟩ := q.reserve_cases room
  · omega
  · have hsame : (q.reserve room).capacity = q.capacity := by
      rw [heq, capacity_grow, hmemory, if_neg h, hcapacity]
    refine ⟨hsame, ?_⟩
    have hvalid : (q.reserve room).size = q.pending := by
      rw [heq, ← hsize]
      rfl
    rw [spare, hsame, hvalid]
    omega

end ByteQueue

/-! ### In words of 64 bits -/

namespace Region

/-- The largest number of a word. -/
def maxWord : Nat := Nat.pow 2 64 - 1

/-- Enlarge the region. The sum must fit into a word, and twice the size is cut off at the largest. -/
def growInWords? (r : Region) (room : Nat) : Option Region := do
  let needed ← if r.size + room ≤ maxWord then some (r.size + room) else none
  let doubled := max (min (2 * r.data.length) maxWord) ByteQueue.minCapacity
  let more ← minus? (max doubled needed) r.data.length
  return { r with data := r.data ++ List.replicate more 0 }

/-- Make room behind the valid bytes. -/
def reserveInWords? (r : Region) (room : Nat) : Option Region := do
  let spare ← r.spare?
  if room ≤ spare then return r
  if 0 < r.consumed then
    let r ← r.compact?
    let spare ← r.spare?
    if room ≤ spare then return r
    r.growInWords? room
  else r.growInWords? room

/-- Small numbers are not cut off. -/
theorem growInWords?_eq {r : Region} {room : Nat} (hneeded : r.size + room < Nat.pow 2 64)
    (hdoubled : 2 * r.data.length < Nat.pow 2 64) : r.growInWords? room = r.grow? room := by
  have hword : Nat.pow 2 64 = maxWord + 1 := rfl
  rw [growInWords?, if_pos (by omega), Nat.min_eq_left (by omega)]
  rfl

variable {r : Region} {q : ByteQueue} {room : Nat}

/-- What a region that grows holds waits or is asked for, so that only this must fit into a word. -/
theorem StandsFor.reserveInWords (h : r.StandsFor q)
    (hneeded : q.pending + room < Nat.pow 2 64) (hdoubled : 2 * q.capacity < Nat.pow 2 64) :
    ∃ r', r.reserveInWords? room = some r' ∧ r'.StandsFor (q.reserve room) := by
  suffices heq : r.reserveInWords? room = r.reserve? room by
    rw [heq]
    exact h.reserve room
  obtain ⟨r', hcompact, h'⟩ := h.compact
  have hmoved : r'.growInWords? room = r'.grow? room := by
    apply growInWords?_eq
    · rwa [h'.size, q.size_compact]
    · rwa [h'.capacity, q.capacity_compact]
  have hunused (hnone : ¬0 < q.consumed) : r.growInWords? room = r.grow? room := by
    have hpending : q.pending = q.size - q.consumed := rfl
    apply growInWords?_eq
    · rw [h.size]
      omega
    · rwa [h.capacity]
  simp only [reserveInWords?, reserve?, h.spare, h.consumed, hcompact, h'.spare, hmoved,
    Option.bind_eq_bind, Option.bind_some]
  by_cases hused : 0 < q.consumed
  · simp only [if_pos hused]
  · simp only [if_neg hused, hunused hused]

end Region

namespace ByteQueue

/-- What is known of a queue that is asked for room. -/
structure Grows (q : ByteQueue) (room : Nat) : Prop where
  /-- The region stays if what waits and what is asked for fit. -/
  stays : q.pending + room ≤ q.capacity →
    (q.reserve room).capacity = q.capacity ∧ room ≤ (q.reserve room).spare
  /-- Else it doubles at least, if the allocator grants it, and the room is there. -/
  grows : q.memory.grants → q.capacity < q.pending + room →
    (q.reserve room).capacity = max (2 * q.capacity) (max minCapacity (q.pending + room)) ∧
      room ≤ (q.reserve room).spare
  /-- If not, it stays, and the room is not there. -/
  refused : ¬q.memory.grants → q.capacity < q.pending + room →
    (q.reserve room).capacity = q.capacity ∧ (q.reserve room).spare < room
  live : (q.reserve room).unconsumed = q.unconsumed
  /-- Bytes that are pushed ask for as much room as they take, and stand behind the live bytes if it is
  there. -/
  pushed : ∀ bytes, bytes.length = room → (q.push bytes).capacity = (q.reserve room).capacity ∧
    (room ≤ (q.reserve room).spare → (q.push bytes).unconsumed = q.unconsumed ++ bytes)
  /-- In words of 64 bits no sum is refused and no double is cut off, as long as the numbers fit. -/
  words : q.pending + room < Nat.pow 2 64 → 2 * q.capacity < Nat.pow 2 64 →
    ∀ r : Region, r.StandsFor q →
      ∃ r', r.reserveInWords? room = some r' ∧ r'.StandsFor (q.reserve room)

/-- Bytes that are pushed ask for room once. -/
theorem capacity_push {q : ByteQueue} {bytes : List UInt8} (h : bytes ≠ []) :
    (q.push bytes).capacity = (q.reserve bytes.length).capacity := by
  rw [push, tryPush, if_neg (mt List.isEmpty_iff.1 h)]
  simp only
  split <;> rfl

/-- A push succeeds if the room is there. -/
theorem unconsumed_push_of_room {q : ByteQueue} {bytes : List UInt8}
    (h : bytes.length ≤ (q.reserve bytes.length).spare) :
    (q.push bytes).unconsumed = q.unconsumed ++ bytes := by
  obtain ⟨-, hlive⟩ | ⟨hne, ⟨size, hfailed⟩, -⟩ := q.tryPush_cases bytes
  · exact hlive
  · rw [tryPush, if_neg (mt List.isEmpty_iff.1 hne)] at hfailed
    simp only [dif_pos h] at hfailed
    cases hfailed

/-- What fits has its room, whatever the allocator says. -/
theorem le_spare_reserve_of_fits {q : ByteQueue} {room : Nat} (h : q.pending + room ≤ q.capacity) :
    (q.reserve room).capacity = q.capacity ∧ room ≤ (q.reserve room).spare := by
  have hsize : q.size ≤ q.capacity := q.size_le_capacity
  have hconsumed : q.consumed ≤ q.size := q.consumed_le_size
  have hpending : q.pending = q.size - q.consumed := rfl
  have hspare : q.spare = q.capacity - q.size := rfl
  have hcompact : q.compact.spare = q.capacity - q.pending := by
    rw [spare, q.size_compact, q.capacity_compact]
  unfold reserve
  by_cases hfits : room ≤ q.spare
  · rw [if_pos hfits]
    exact ⟨rfl, hfits⟩
  · have hmoved : room ≤ q.compact.spare := by omega
    rw [if_neg hfits, if_pos (by omega), if_pos hmoved]
    exact ⟨q.capacity_compact, hmoved⟩

theorem grows_of_pos (q : ByteQueue) {room : Nat} (hroom : 0 < room) : Grows q room where
  stays := le_spare_reserve_of_fits
  grows hgranted hfull := by
    refine ⟨?_, le_spare_reserve hgranted room⟩
    rw [capacity_reserve hgranted, enlarge, if_neg (Nat.not_le.2 hfull)]
  refused hrefused := reserve_of_refused hrefused
  live := q.unconsumed_reserve room
  pushed bytes hlength := by
    have hne : bytes ≠ [] := by
      rintro rfl
      rw [List.length_nil] at hlength
      omega
    rw [← hlength]
    exact ⟨capacity_push hne, unconsumed_push_of_room⟩
  words hneeded hdoubled _ h := h.reserveInWords hneeded hdoubled

/-! ### All requests of an operation -/

/-- A request for room, and the queue to which it is made. -/
structure Request where
  queue : ByteQueue
  room : Nat

namespace Request

/-- What waits and what is asked for. -/
def demand (r : Request) : Nat := r.queue.pending + r.room

/-- The capacity to which a request leads. -/
def capacity (r : Request) : Nat := (r.queue.reserve r.room).capacity

variable (r : Request)

/-- The region grows for the demand, or stays. -/
theorem capacity_cases : r.capacity = r.queue.capacity ∨
    (r.queue.capacity < r.demand ∧
      r.capacity = max (2 * r.queue.capacity) (max minCapacity r.demand)) := by
  rcases Nat.lt_or_ge r.queue.capacity r.demand with hfull | hfits
  · by_cases hgranted : r.queue.memory.grants
    · refine Or.inr ⟨hfull, ?_⟩
      exact (capacity_reserve hgranted r.room).trans (if_neg (Nat.not_le.2 hfull))
    · exact Or.inl (reserve_of_refused hgranted hfull).1
  · exact Or.inl (le_spare_reserve_of_fits hfits).1

theorem queue_le_capacity : r.queue.capacity ≤ r.capacity := by
  rcases r.capacity_cases with h | h <;> omega

theorem none_or_least (h : r.queue.capacity = 0 ∨ minCapacity ≤ r.queue.capacity) :
    r.capacity = 0 ∨ minCapacity ≤ r.capacity := by
  rcases r.capacity_cases with h | h <;> omega

/-- A region that is too small is less than the demand, and at most doubles. -/
theorem capacity_le : r.capacity ≤ max r.queue.capacity (max minCapacity (2 * r.demand)) := by
  rcases r.capacity_cases with h | h <;> omega

end Request

/-- Byte strings that are pushed one after the other. Nothing is asked for an empty one, and nothing any more
after a refusal. -/
def pushRequests (q : ByteQueue) : List (List UInt8) → List Request
  | [] => []
  | bytes :: rest =>
    (if bytes.isEmpty then [] else [⟨q, bytes.length⟩]) ++
      match q.tryPush bytes with
      | (q, .ok ()) => q.pushRequests rest
      | (_, .error _) => []

/-- A pass of reading. Before each read some room is asked for, and a refusal ends the pass. -/
def receiveRequests (q : ByteQueue) (source : List ReadEvent) : List Request :=
  let ready := q.reserve 1
  if _hroom : 0 < ready.spare then
    match h : ReadEvent.read ready.spare source with
    | (.ok bytes, rest) =>
      if bytes.isEmpty then [⟨q, 1⟩]
      else ⟨q, 1⟩ :: receiveRequests (ready.append bytes (ReadEvent.length_read h)) rest
    | (.error cause, rest) =>
      if _hc : cause.kind = .interrupted then ⟨q, 1⟩ :: receiveRequests ready rest
      else [⟨q, 1⟩]
  else [⟨q, 1⟩]
termination_by ReadEvent.weight source
decreasing_by
  · exact ReadEvent.weight_read_ok _hroom h
  · exact ReadEvent.weight_read_error h (by simp [_hc])

/-- The requests that an operation makes, in order. -/
def requests (q : ByteQueue) : Operation → List Request
  | .push bytes => q.pushRequests [bytes]
  | .pushRelayed author body =>
    q.pushRequests [author, [Frame.separator], body, [Frame.terminator]]
  | .pushHandshake name =>
    match DisplayName.check name with
    | .error _ => []
    | .ok () => q.pushRequests [Text.utf8 name, [Frame.terminator]]
  | .receive source => q.receiveRequests source
  | .takeFrame | .hasFrame | .terminateLines | .clear | .send _ => []

/-- The requests that operations make, in order. -/
def requestsIn (q : ByteQueue) : List Operation → List Request
  | [] => []
  | operation :: rest => q.requests operation ++ (q.perform operation).1.requestsIn rest

/-- The largest demand, and 0 if there was none. -/
def peak (requests : List Request) : Nat := (requests.map Request.demand).foldr max 0

theorem peak_cons (request : Request) (rest : List Request) :
    peak (request :: rest) = max request.demand (peak rest) := rfl

/-! ### Nothing else changes the capacity -/

/-- Requests one after the other, from one capacity to another: each is made to a queue of the capacity
to which the one before it led. -/
inductive Chain : Nat → List Request → Nat → Prop
  | done (capacity : Nat) : Chain capacity [] capacity
  | step (request : Request) {rest : List Request} {last : Nat}
      (h : Chain request.capacity rest last) : Chain request.queue.capacity (request :: rest) last

namespace Chain

variable {first middle last : Nat} {requests more : List Request}

theorem append (h : Chain first requests middle) (hmore : Chain middle more last) :
    Chain first (requests ++ more) last := by
  induction h with
  | done => exact hmore
  | step request _ ih => exact .step request (ih hmore)

/-- A request in a chain leads from the capacity before it to that behind it. -/
theorem between {front back : List Request} {request : Request}
    (h : Chain first (front ++ request :: back) last) :
    Chain first front request.queue.capacity ∧ Chain request.capacity back last := by
  induction front generalizing first with
  | nil =>
    cases h with
    | step _ h => exact ⟨.done _, h⟩
  | cons other front ih =>
    cases h with
    | step _ h =>
      obtain ⟨hfront, hback⟩ := ih h
      exact ⟨.step other hfront, hback⟩

/-- A region never shrinks. -/
theorem le (h : Chain first requests last) : first ≤ last := by
  induction h with
  | done => exact Nat.le_refl _
  | step request _ ih => exact Nat.le_trans request.queue_le_capacity ih

/-- There is no region, or it is not a small one. -/
theorem none_or_least (h : Chain first requests last) (hfirst : first = 0 ∨ minCapacity ≤ first) :
    last = 0 ∨ minCapacity ≤ last := by
  induction h with
  | done => exact hfirst
  | step request _ ih => exact ih (request.none_or_least hfirst)

/-- **A region is at most twice as large as the largest demand**, unless it was larger already or is the
smallest there is. -/
theorem le_peak (h : Chain first requests last) :
    last ≤ max first (max minCapacity (2 * peak requests)) := by
  induction h with
  | done => exact Nat.le_max_left ..
  | step request _ ih =>
    have hstep := request.capacity_le
    rw [peak_cons]
    omega

end Chain

theorem chain_push (q : ByteQueue) (pieces : List (List UInt8)) :
    Chain q.capacity (q.pushRequests pieces) (q.tryPushAll pieces).1.capacity := by
  induction pieces generalizing q with
  | nil => exact .done _
  | cons bytes rest ih =>
    have hrest : Chain (q.push bytes).capacity
        (match q.tryPush bytes with
          | (q, .ok ()) => q.pushRequests rest
          | (_, .error _) => [])
        (q.tryPushAll (bytes :: rest)).1.capacity := by
      rw [push, tryPushAll]
      rcases q.tryPush bytes with ⟨q', cause | ⟨⟩⟩
      · exact .done _
      · exact ih q'
    rw [pushRequests]
    by_cases hempty : bytes.isEmpty
    · have hsame : q.push bytes = q := by rw [push, tryPush, if_pos hempty]
      rw [hsame] at hrest
      rwa [if_pos hempty, List.nil_append]
    · rw [capacity_push (mt List.isEmpty_iff.2 hempty)] at hrest
      rw [if_neg hempty]
      exact .step ⟨q, bytes.length⟩ hrest

/-- The room that is there after a request of a pass. -/
def Request.offer (r : Request) : Nat := (r.queue.reserve r.room).spare

/-- Before each read some room is asked for, and the read is offered all that is there then. Without any
there is no read. -/
theorem receiveRequests_spec (q : ByteQueue) (source : List ReadEvent) :
    Chain q.capacity (q.receiveRequests source) (q.receive source).queue.capacity ∧
      (q.receive source).offered =
        ((q.receiveRequests source).map Request.offer).filter (0 < ·) := by
  have hoffered (q : ByteQueue) (hroom : 0 < (q.reserve 1).spare) (requests : List Request) :
      ((⟨q, 1⟩ :: requests).map Request.offer).filter (0 < ·) =
        (q.reserve 1).spare :: (requests.map Request.offer).filter (0 < ·) := by
    rw [List.map_cons]
    exact List.filter_cons_of_pos (decide_eq_true hroom)
  fun_induction receive q source with
  | case1 q source ready hroom bytes rest hread hnil =>
    rw [receiveRequests, dif_pos hroom]
    split
    · next hread' =>
      cases hread.symm.trans hread'
      rw [if_pos hnil]
      exact ⟨.step ⟨q, 1⟩ (.done _), (hoffered q hroom []).symm⟩
    · next hread' => cases hread.symm.trans hread'
  | case2 q source ready hroom bytes rest hread hne more ih =>
    rw [receiveRequests, dif_pos hroom]
    split
    · next hread' =>
      cases hread.symm.trans hread'
      rw [if_neg hne]
      refine ⟨.step ⟨q, 1⟩ ih.1, ?_⟩
      rw [hoffered q hroom, ← ih.2]
    · next hread' => cases hread.symm.trans hread'
  | case3 q source ready hroom cause rest hread hc more ih =>
    rw [receiveRequests, dif_pos hroom]
    split
    · next hread' => cases hread.symm.trans hread'
    · next hread' =>
      cases hread.symm.trans hread'
      rw [dif_pos hc]
      refine ⟨.step ⟨q, 1⟩ ih.1, ?_⟩
      rw [hoffered q hroom, ← ih.2]
  | case4 q source ready hroom cause rest hread hc outcome =>
    rw [receiveRequests, dif_pos hroom]
    split
    · next hread' => cases hread.symm.trans hread'
    · next hread' =>
      cases hread.symm.trans hread'
      rw [dif_neg hc]
      exact ⟨.step ⟨q, 1⟩ (.done _), (hoffered q hroom []).symm⟩
  | case5 q source ready hroom =>
    rw [receiveRequests, dif_neg hroom]
    refine ⟨.step ⟨q, 1⟩ (.done _), ?_⟩
    have hnone : ¬0 < Request.offer ⟨q, 1⟩ := hroom
    simp only [List.map_singleton, List.filter_cons, hnone, decide_false]
    rfl

/-- **Only requests change the capacity.** -/
theorem chain_perform (q : ByteQueue) (operation : Operation) :
    Chain q.capacity (q.requests operation) (q.perform operation).1.capacity := by
  cases operation with
  | push bytes =>
    have hone : (q.tryPushAll [bytes]).1 = (q.perform (.push bytes)).1 := by
      rw [tryPushAll, perform]
      rcases q.tryPush bytes with ⟨q', cause | ⟨⟩⟩ <;> rfl
    rw [← hone]
    exact q.chain_push [bytes]
  | pushRelayed author body =>
    exact q.chain_push [author, [Frame.separator], body, [Frame.terminator]]
  | pushHandshake name =>
    simp only [requests, perform, tryPushHandshake]
    cases DisplayName.check name with
    | error cause => exact .done _
    | ok _ => exact q.chain_push [Text.utf8 name, [Frame.terminator]]
  | receive source => exact (q.receiveRequests_spec source).1
  | takeFrame =>
    simp only [requests, perform, takeFrame?_eq]
    cases q.unconsumed.findIdx? (· = Frame.terminator) with
    | none => exact .done _
    | some n => exact .done _
  | send sink =>
    show Chain q.capacity [] (q.send sink).queue.capacity
    rw [capacity_send]
    exact .done _
  | hasFrame | terminateLines | clear => exact .done _

theorem chain_run (q : ByteQueue) (operations : List Operation) :
    Chain q.capacity (q.requestsIn operations) (q.run operations).1.capacity := by
  induction operations generalizing q with
  | nil => exact .done _
  | cons operation rest ih => exact (q.chain_perform operation).append (ih _)

theorem room_pos_of_mem_push {q : ByteQueue} {pieces : List (List UInt8)} {request : Request}
    (h : request ∈ q.pushRequests pieces) : 0 < request.room := by
  induction pieces generalizing q with
  | nil => cases h
  | cons bytes rest ih =>
    rcases List.mem_append.1 h with h | h
    · split at h
      · cases h
      · next hne =>
        obtain rfl := List.mem_singleton.1 h
        exact List.length_pos_iff.2 (mt List.isEmpty_iff.2 hne)
    · split at h
      · exact ih h
      · cases h

theorem room_eq_one_of_mem_receive {q : ByteQueue} {source : List ReadEvent} {request : Request}
    (h : request ∈ q.receiveRequests source) : request.room = 1 := by
  fun_induction receiveRequests q source with
  | case1 | case4 | case5 => rw [List.mem_singleton.1 h]
  | case2 q source ready hroom bytes rest hread hne ih =>
    rcases List.mem_cons.1 h with rfl | h
    · rfl
    · exact ih h
  | case3 q source ready hroom cause rest hread hc ih =>
    rcases List.mem_cons.1 h with rfl | h
    · rfl
    · exact ih h

/-- Every request asks for some room. -/
theorem room_pos_of_mem {q : ByteQueue} {operations : List Operation} {request : Request}
    (h : request ∈ q.requestsIn operations) : 0 < request.room := by
  induction operations generalizing q with
  | nil => cases h
  | cons operation rest ih =>
    rcases List.mem_append.1 h with h | h
    · cases operation with
      | push | pushRelayed => exact room_pos_of_mem_push h
      | pushHandshake name =>
        rw [requests] at h
        split at h
        · cases h
        · exact room_pos_of_mem_push h
      | receive source =>
        rw [room_eq_one_of_mem_receive h]
        decide
      | takeFrame | hasFrame | terminateLines | clear | send => cases h
    · exact ih h

/-! ### After any operations -/

/-- What is known of the capacity that a chain of requests has led to. -/
structure Bounded (requests : List Request) (capacity : Nat) : Prop where
  /-- There is no region before the first request, and then never a small one. -/
  none_or_least : capacity = 0 ∨ minCapacity ≤ capacity
  /-- What has been consumed does not count. -/
  le_peak : capacity ≤ max minCapacity (2 * peak requests)

theorem Chain.bounded {requests : List Request} {capacity : Nat} (h : Chain 0 requests capacity) :
    Bounded requests capacity where
  none_or_least := h.none_or_least (Or.inl rfl)
  le_peak := by
    have hpeak := h.le_peak
    omega

/-- What is known of the region of a new queue after some operations. -/
structure GrowsBounded (memory : Memory) (operations : List Operation) : Prop where
  bounded : Bounded ((ofMemory memory).requestsIn operations)
    ((ofMemory memory).run operations).1.capacity
  /-- The region never shrinks. -/
  never_less : ∀ more, ((ofMemory memory).run operations).1.capacity ≤
    (((ofMemory memory).run operations).1.run more).1.capacity
  /-- The bounds hold within an operation as well, right after every request. -/
  within : ∀ front request back,
    (ofMemory memory).requestsIn operations = front ++ request :: back →
      Grows request.queue request.room ∧ request.queue.capacity ≤ request.capacity ∧
        Bounded (front ++ [request]) request.capacity

theorem growsBounded (memory : Memory) (operations : List Operation) :
    GrowsBounded memory operations where
  bounded := (chain_run (ofMemory memory) operations).bounded
  never_less more := (chain_run _ more).le
  within front request back hrequests := by
    have hmem : request ∈ (ofMemory memory).requestsIn operations := by
      rw [hrequests]
      exact List.mem_append_right _ List.mem_cons_self
    have hchain := chain_run (ofMemory memory) operations
    rw [hrequests] at hchain
    obtain ⟨hfront, -⟩ := hchain.between
    exact ⟨request.queue.grows_of_pos (room_pos_of_mem hmem), request.queue_le_capacity,
      (hfront.append (.step request (.done _))).bounded⟩

/-- **A queue grows with what waits in it, not with what has passed through it.** Every request for room
follows one law, before each read there is one, and after any operations the region is at most twice as
large as the largest demand, or as large as the smallest region. -/
theorem bounded_growth :
    (∀ (q : ByteQueue) (room : Nat), 0 < room → Grows q room) ∧
      (∀ (q : ByteQueue) (source : List ReadEvent), (q.receive source).offered =
        ((q.receiveRequests source).map Request.offer).filter (0 < ·)) ∧
      ∀ memory operations, GrowsBounded memory operations :=
  ⟨fun q _ => q.grows_of_pos, fun q source => (q.receiveRequests_spec source).2, growsBounded⟩

/-- A line that comes in two reads and is taken makes room for the next one. -/
def passing : List Operation :=
  [.receive [.data [97, 98], .fault (.os 4), .data [99, 0], .fault .wouldBlock], .takeFrame,
    .pushRelayed [97] [98, 99]]

/-- The line that was taken does not count any more. -/
theorem bounded_growth_passing :
    0 < 30 ∧ Grows (empty.run passing).1 30 ∧ GrowsBounded {} passing ∧
      (empty.requestsIn passing).map Request.demand = [1, 3, 3, 5, 1, 2, 4, 5] ∧
      (empty.run passing).1.capacity = 1024 := by
  obtain ⟨hlaw, -, hbounds⟩ := bounded_growth
  exact ⟨by decide, hlaw _ 30 (by decide), hbounds {} passing, by decide +kernel, by decide +kernel⟩

end ByteQueue

end ChatRelay
