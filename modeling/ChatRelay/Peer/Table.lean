import ChatRelay.Peer.Id

/-!
# The table of live peers

The table keeps an entry per live peer in a slot. A new entry takes the slot vacated last, or the next
unused one. Every insertion gets the next generation number modulo 256, and an identity resolves only
while its slot holds an entry of its generation.

- `PeerTable.insert?`: add an entry, unless the table is full.
- `PeerTable.get?`, `PeerTable.modify`, `PeerTable.remove?`: work on the entry of an identity.
- `PeerTable.toList`: all entries by ascending slot.
-/

namespace ChatRelay

/-- A table of entries known by generation-checked identities. -/
structure PeerTable (α : Type) where
  /-- The entries by slot, each with its generation. -/
  slots : Array (Option (UInt8 × α)) := #[]
  /-- The vacant slots, the one vacated last first. -/
  vacated : List Nat := []
  /-- The generation of the next insertion. -/
  nextGeneration : UInt8 := 0
  /-- How many entries the table may hold. -/
  limit : Nat
  limit_le : limit ≤ PeerId.maxSlot
  slots_le : slots.size ≤ limit := by simp
  vacated_nodup : vacated.Nodup := by simp
  mem_vacated_iff : ∀ i, i ∈ vacated ↔ slots[i]? = some none := by simp

namespace PeerTable

variable {α : Type}

/-- An empty table for at most `limit` entries, or as many as have tokens if that is less. -/
def ofLimit (limit : Nat) : PeerTable α where
  limit := min limit PeerId.maxSlot
  limit_le := Nat.min_le_right ..

/-- The number of entries. -/
def size (t : PeerTable α) : Nat := t.slots.size - t.vacated.length

/-- Whether there is no entry. -/
def isEmpty (t : PeerTable α) : Bool := t.size == 0

/-- The entry of an identity, if its slot holds one of its generation. -/
def get? (t : PeerTable α) (id : PeerId) : Option α :=
  match t.slots[id.slot]? with
  | some (some (generation, a)) => if generation = id.generation then some a else none
  | _ => none

/-- Whether an identity resolves. -/
def contains (t : PeerTable α) (id : PeerId) : Bool := (t.get? id).isSome

theorem lt_size_of_get? {t : PeerTable α} {id : PeerId} {a : α} (h : t.get? id = some a) :
    id.slot < t.slots.size := by
  unfold get? at h
  split at h
  · next heq => exact (Array.getElem?_eq_some_iff.1 heq).1
  · simp at h

theorem slots_of_get? {t : PeerTable α} {id : PeerId} {a : α} (h : t.get? id = some a) :
    t.slots[id.slot]? = some (some (id.generation, a)) := by
  unfold get? at h
  split at h
  · next heq =>
    split at h
    · next hg =>
      simp only [Option.some.injEq] at h
      rw [heq, hg, h]
    · simp at h
  · simp at h

/-- Every vacant slot is a slot. -/
theorem lt_of_mem_vacated {t : PeerTable α} {i : Nat} (h : i ∈ t.vacated) : i < t.slots.size :=
  (Array.getElem?_eq_some_iff.1 ((t.mem_vacated_iff i).1 h)).1

/-- Change the entry of a live identity. -/
def modify (t : PeerTable α) (id : PeerId) (f : α → α) : PeerTable α :=
  if t.contains id then
    { t with
      slots := t.slots.modify id.slot (Option.map fun entry => (entry.1, f entry.2))
      slots_le := by simpa using t.slots_le
      mem_vacated_iff := by
        intro i
        rw [t.mem_vacated_iff, Array.getElem?_modify]
        split
        · cases h : t.slots[i]? with
          | none => simp
          | some entry => cases entry <;> simp
        · rfl }
  else t

/-- Take out the entry of an identity. Its slot is the first to be used again. -/
def remove? (t : PeerTable α) (id : PeerId) : Option (α × PeerTable α) :=
  match h : t.get? id with
  | none => none
  | some a =>
    some (a, { t with
      slots := t.slots.set id.slot none (lt_size_of_get? h)
      vacated := id.slot :: t.vacated
      slots_le := by simpa using t.slots_le
      vacated_nodup := by
        refine List.nodup_cons.2 ⟨?_, t.vacated_nodup⟩
        rw [t.mem_vacated_iff, slots_of_get? h]
        simp
      mem_vacated_iff := by
        intro i
        rw [List.mem_cons, t.mem_vacated_iff, Array.getElem?_set]
        split
        · next hi => simp [hi]
        · next hi =>
          constructor
          · rintro (rfl | h')
            · exact absurd rfl hi
            · exact h'
          · exact Or.inr })

/-- Add an entry, unless the table is full. It gets the next generation. -/
def insert? (t : PeerTable α) (a : α) : Option (PeerId × PeerTable α) :=
  if hfull : t.limit ≤ t.size then none
  else
    match h : t.vacated with
    | slot :: rest =>
      have hslot : slot < t.slots.size := lt_of_mem_vacated (h ▸ List.mem_cons_self)
      some (⟨slot, t.nextGeneration⟩, { t with
        slots := t.slots.set slot (some (t.nextGeneration, a)) hslot
        vacated := rest
        nextGeneration := t.nextGeneration + 1
        slots_le := by simpa using t.slots_le
        vacated_nodup := (List.nodup_cons.1 (h ▸ t.vacated_nodup)).2
        mem_vacated_iff := by
          intro i
          have hi := t.mem_vacated_iff i
          have hnot := (List.nodup_cons.1 (h ▸ t.vacated_nodup)).1
          rw [h, List.mem_cons] at hi
          rw [Array.getElem?_set]
          split
          · next heq =>
            subst heq
            simp [hnot]
          · next heq =>
            rw [← hi]
            exact ⟨Or.inr, fun h' => h'.resolve_left (fun h'' => heq h''.symm)⟩ })
    | [] =>
      some (⟨t.slots.size, t.nextGeneration⟩, { t with
        slots := t.slots.push (some (t.nextGeneration, a))
        vacated := []
        nextGeneration := t.nextGeneration + 1
        slots_le := by
          simp only [size, h, List.length_nil, Nat.sub_zero] at hfull
          simp only [Array.size_push]
          omega
        vacated_nodup := List.nodup_nil
        mem_vacated_iff := by
          intro i
          have hi := t.mem_vacated_iff i
          rw [h] at hi
          rw [Array.getElem?_push]
          split
          · simp
          · exact hi })

/-- The entry in a slot, with its identity. -/
def entry? (t : PeerTable α) (slot : Nat) : Option (PeerId × α) :=
  match t.slots[slot]? with
  | some (some (generation, a)) => some (⟨slot, generation⟩, a)
  | _ => none

/-- All entries with their identities, by ascending slot. -/
def toList (t : PeerTable α) : List (PeerId × α) :=
  (List.range t.slots.size).filterMap t.entry?

/-- All live identities, by ascending slot. -/
def ids (t : PeerTable α) : List PeerId := t.toList.map (·.1)

end PeerTable

end ChatRelay
