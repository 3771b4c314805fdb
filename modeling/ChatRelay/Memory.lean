/-!
# Memory

A buffer that must grow asks the allocator for a larger region, and the allocator may refuse. As the
answers of an operating system to other requests, its answers are listed beforehand, for each buffer
those to the requests that this buffer will make.

- `Memory.grants`, `Memory.rest`: the answer to the next request, and those behind it.
- `Memory.Ample`: no request will be refused.
-/

namespace ChatRelay

/-- What the allocator answers to the coming requests of one buffer: for each whether it is granted.
Behind the last answer all are granted. -/
structure Memory where
  verdicts : List Bool := []
  deriving DecidableEq, Repr

namespace Memory

/-- Whether the next request is granted. -/
def grants (m : Memory) : Bool := m.verdicts.headD true

/-- The answers to the requests behind the next one. -/
def rest (m : Memory) : Memory := ⟨m.verdicts.tail⟩

/-- No request will be refused. -/
def Ample (m : Memory) : Prop := ∀ verdict ∈ m.verdicts, verdict = true

instance (m : Memory) : Decidable m.Ample :=
  inferInstanceAs (Decidable (∀ verdict ∈ m.verdicts, verdict = true))

@[simp] theorem ample_default : Ample {} := fun _ h => nomatch h

variable {m : Memory}

theorem Ample.grants (h : m.Ample) : m.grants = true := by
  obtain ⟨verdicts⟩ := m
  cases verdicts with
  | nil => rfl
  | cons verdict rest => exact h verdict List.mem_cons_self

theorem Ample.rest (h : m.Ample) : m.rest.Ample :=
  fun verdict hmem => h verdict (List.mem_of_mem_tail hmem)

end Memory

end ChatRelay
