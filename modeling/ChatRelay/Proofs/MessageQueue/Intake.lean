import ChatRelay.MessageQueue

/-!
# Messages on their way into a queue

A broker and an endpoint both queue the messages that they decode, and write down of each whether it has
been queued. One for which there is no memory is lost.

- `keptOf`: those of some messages that have been queued.
- `TakesIn`: what a party comes to when some messages come to it (`TakesIn.trans`, `TakesIn.of_tryPush`).
-/

namespace ChatRelay

/-- Those of some messages that have been queued, if it is told of each whether it was. -/
def keptOf (intake : List (Message × Bool)) : List Message := (intake.filter Prod.snd).map Prod.fst

theorem keptOf_append (intake more : List (Message × Bool)) :
    keptOf (intake ++ more) = keptOf intake ++ keptOf more := by
  simp [keptOf]

/-- If all have been queued, it is these. -/
theorem keptOf_eq {intake : List (Message × Bool)} (h : ∀ entry ∈ intake, entry.2 = true) :
    keptOf intake = intake.map Prod.fst := by
  rw [keptOf, List.filter_eq_self.2 h]

variable {α : Type} (messages : α → MessageQueue) (intake : α → List (Message × Bool))

/-- The second party is the first when some more messages have come. Those for which there was memory wait
behind the others, and if all memory is granted this is all of them. -/
structure TakesIn (came : List (Message × Bool)) (first second : α) : Prop where
  intake : intake second = intake first ++ came
  queued : (messages second).toList = (messages first).toList ++ keptOf came
  whole : (messages first).memory.Ample → ∀ entry ∈ came, entry.2 = true
  granted : (messages first).memory.Ample → (messages second).memory.Ample

namespace TakesIn

variable {messages intake} {came more : List (Message × Bool)} {first second third : α}

/-- Nothing has come to a party that has the same queue and has written down the same. -/
theorem of_eq (hintake : intake second = intake first) (hmessages : messages second = messages first) :
    TakesIn messages intake [] first second where
  intake := by rw [hintake, List.append_nil]
  queued := by
    rw [hmessages]
    exact (List.append_nil _).symm
  whole _ _ h := nomatch h
  granted h := hmessages ▸ h

theorem trans (h : TakesIn messages intake came first second)
    (h' : TakesIn messages intake more second third) :
    TakesIn messages intake (came ++ more) first third where
  intake := by rw [h'.intake, h.intake, List.append_assoc]
  queued := by rw [h'.queued, h.queued, keptOf_append, List.append_assoc]
  whole hgranted entry hentry :=
    (List.mem_append.1 hentry).elim (h.whole hgranted entry) (h'.whole (h.granted hgranted) entry)
  granted := h'.granted ∘ h.granted

/-- **One message comes**, and is queued if there is memory. -/
theorem of_tryPush {message : Message} {queue : MessageQueue} {outcome : Except RelayError Unit}
    (htry : (messages first).tryPush message = (queue, outcome)) (hmessages : messages second = queue)
    (hintake : intake second = intake first ++ [(message, outcome.isOk)]) :
    TakesIn messages intake [(message, outcome.isOk)] first second := by
  have hpush := (messages first).tryPush_cases message
  have hample (h : (messages first).memory.Ample) : outcome = .ok () ∧ queue.memory.Ample := by
    obtain ⟨hok, hmore⟩ := MessageQueue.tryPush_of_ample h message
    rw [htry] at hok
    obtain ⟨rfl, rfl⟩ := Prod.mk.inj hok
    exact ⟨rfl, hmore⟩
  rw [htry] at hpush
  refine ⟨hintake, ?_, fun h entry hentry => ?_, fun h => hmessages.symm ▸ (hample h).2⟩
  · rw [hmessages]
    obtain ⟨hok, hlist⟩ | ⟨⟨size, hfailed⟩, hlist⟩ := hpush
    · obtain rfl : outcome = .ok () := hok
      exact hlist
    · obtain rfl : outcome = .error (.outOfMemory size) := hfailed
      exact hlist.trans (List.append_nil _).symm
  · rw [List.mem_singleton.1 hentry, (hample h).1]
    rfl

end TakesIn

end ChatRelay
