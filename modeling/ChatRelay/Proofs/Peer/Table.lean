import ChatRelay.Peer.Table

/-!
# The peer table by identities

The table is known by what each identity resolves to. Each operation works on one slot
(`slots_modify`, `slots_of_remove?`, `slots_of_insert?`), and so changes that for one identity only:
`get?_modify`, `get?_of_remove?`, `get?_of_insert?`. The list of identities holds those that resolve,
each once: `mem_ids_iff`, `nodup_ids`. The size of the table is its length: `length_toList`.
-/

namespace ChatRelay.PeerTable

variable {α : Type} {t t' : PeerTable α} {id other : PeerId} {a : α}

/-! ### Slots -/

/-- What an identity resolves to depends on its slot only. -/
theorem get?_congr (h : t'.slots[id.slot]? = t.slots[id.slot]?) : t'.get? id = t.get? id := by
  unfold get?
  rw [h]

theorem get?_of_vacant (h : t.slots[id.slot]? = some none) : t.get? id = none := by
  unfold get?
  rw [h]

theorem get?_of_occupied {generation : UInt8}
    (h : t.slots[id.slot]? = some (some (generation, a))) :
    t.get? id = if generation = id.generation then some a else none := by
  unfold get?
  rw [h]

/-- An identity resolves to the entry of its slot that has its generation. -/
theorem get?_eq_some_iff : t.get? id = some a ↔
    t.slots[id.slot]? = some (some (id.generation, a)) := by
  refine ⟨slots_of_get?, fun h => ?_⟩
  rw [get?_of_occupied h, if_pos rfl]

theorem generation_eq_iff (h : other.slot = id.slot) :
    id.generation = other.generation ↔ other = id := by
  obtain ⟨slot, generation⟩ := id
  obtain ⟨slot', generation'⟩ := other
  cases h
  constructor
  · rintro rfl
    rfl
  · rintro ⟨⟩
    rfl

/-- Live slots are below the limit, so they have tokens. -/
theorem slot_lt_limit (h : t.get? id = some a) : id.slot < t.limit :=
  Nat.lt_of_lt_of_le (lt_size_of_get? h) t.slots_le

theorem contains_iff : t.contains id ↔ ∃ a, t.get? id = some a := Option.isSome_iff_exists

/-! ### Operations -/

/-- Nothing resolves in a new table. -/
@[simp] theorem get?_ofLimit (limit : Nat) (id : PeerId) :
    (ofLimit limit : PeerTable α).get? id = none := by
  simp [get?, ofLimit]

/-- Changing an entry changes its slot only. -/
theorem slots_modify (ha : t.get? id = some a) (f : α → α) (i : Nat) :
    (t.modify id f).slots[i]? =
      if i = id.slot then some (some (id.generation, f a)) else t.slots[i]? := by
  have hslots : (t.modify id f).slots =
      t.slots.modify id.slot (Option.map fun entry => (entry.1, f entry.2)) := by
    rw [modify, if_pos (contains_iff.2 ⟨a, ha⟩)]
  rw [hslots, Array.getElem?_modify]
  by_cases hslot : i = id.slot
  · rw [if_pos hslot.symm, if_pos hslot, hslot, slots_of_get? ha]
    rfl
  · rw [if_neg (Ne.symm hslot), if_neg hslot]

/-- There is nothing to change where nothing resolves. -/
theorem modify_of_get?_eq_none (h : t.get? id = none) (f : α → α) : t.modify id f = t :=
  if_neg (Option.not_isSome_iff_eq_none.2 h)

@[simp] theorem limit_modify (t : PeerTable α) (id : PeerId) (f : α → α) :
    (t.modify id f).limit = t.limit := by
  unfold modify
  split <;> rfl

@[simp] theorem nextGeneration_modify (t : PeerTable α) (id : PeerId) (f : α → α) :
    (t.modify id f).nextGeneration = t.nextGeneration := by
  unfold modify
  split <;> rfl

/-- Changing an entry changes what its identity resolves to. -/
theorem get?_modify (t : PeerTable α) (id : PeerId) (f : α → α) (other : PeerId) :
    (t.modify id f).get? other = if other = id then (t.get? other).map f else t.get? other := by
  cases ha : t.get? id with
  | none =>
    rw [modify_of_get?_eq_none ha]
    split
    · next heq => rw [heq, ha, Option.map_none]
    · rfl
  | some a =>
    have hslots := slots_modify ha f other.slot
    by_cases hslot : other.slot = id.slot
    · rw [if_pos hslot] at hslots
      have hold : t.slots[other.slot]? = some (some (id.generation, a)) := hslot ▸ slots_of_get? ha
      rw [get?_of_occupied hslots, get?_of_occupied hold]
      simp only [generation_eq_iff hslot]
      split <;> rfl
    · have hne : other ≠ id := fun heq => hslot (congrArg PeerId.slot heq)
      rw [if_neg hslot] at hslots
      rw [if_neg hne]
      exact get?_congr hslots

/-- Whoever resolves goes on to do so. -/
@[simp] theorem contains_modify (t : PeerTable α) (id : PeerId) (f : α → α) (other : PeerId) :
    (t.modify id f).contains other = t.contains other := by
  unfold contains
  rw [get?_modify]
  split
  · exact Option.isSome_map
  · rfl

/-- Every entry is found as before, changed or not. -/
theorem get?_modify_eq_some_iff {f : α → α} {b : α} : (t.modify id f).get? other = some b ↔
    ∃ a, t.get? other = some a ∧ b = if other = id then f a else a := by
  rw [get?_modify]
  split
  · rw [Option.map_eq_some_iff]
    exact exists_congr fun a => and_congr_right fun _ => eq_comm
  · simp

/-- Taking out an entry empties its slot, and touches no other. -/
theorem slots_of_remove? (h : t.remove? id = some (a, t')) :
    t.get? id = some a ∧ (∀ i, t'.slots[i]? = if i = id.slot then some none else t.slots[i]?) ∧
      t'.nextGeneration = t.nextGeneration ∧ t'.limit = t.limit := by
  unfold remove? at h
  split at h
  · cases h
  · next b hb =>
    cases h
    refine ⟨hb, fun i => ?_, rfl, rfl⟩
    simp only [Array.getElem?_set, eq_comm]

/-- Taking out an entry takes it from its identity only. -/
theorem get?_of_remove? (h : t.remove? id = some (a, t')) (other : PeerId) :
    t'.get? other = if other = id then none else t.get? other := by
  obtain ⟨ha, hslots, -⟩ := slots_of_remove? h
  have hother := hslots other.slot
  by_cases hslot : other.slot = id.slot
  · rw [if_pos hslot] at hother
    have hold : t.slots[other.slot]? = some (some (id.generation, a)) := hslot ▸ slots_of_get? ha
    rw [get?_of_vacant hother, get?_of_occupied hold]
    simp only [generation_eq_iff hslot]
    split <;> rfl
  · have hne : other ≠ id := fun heq => hslot (congrArg PeerId.slot heq)
    rw [if_neg hslot] at hother
    rw [if_neg hne]
    exact get?_congr hother

theorem get?_self_of_remove? (h : t.remove? id = some (a, t')) : t.get? id = some a :=
  (slots_of_remove? h).1

theorem remove?_eq_none_iff : t.remove? id = none ↔ t.get? id = none := by
  unfold remove?
  split
  · next h => simp [h]
  · next a h => simp [h]

/-- An entry put where none was is found under its identity only. -/
theorem get?_of_placed (hbefore : ∀ generation, t.get? ⟨id.slot, generation⟩ = none)
    (hslots : ∀ i, t'.slots[i]? =
      if i = id.slot then some (some (id.generation, a)) else t.slots[i]?)
    (other : PeerId) : t'.get? other = if other = id then some a else t.get? other := by
  by_cases hslot : other.slot = id.slot
  · have hplaced : t'.slots[other.slot]? = some (some (id.generation, a)) := by
      rw [hslots, if_pos hslot]
    have hnone : t.get? other = none := by
      have := hbefore other.generation
      rwa [← hslot] at this
    rw [get?_of_occupied hplaced, hnone]
    simp only [generation_eq_iff hslot]
  · have hne : other ≠ id := fun heq => hslot (congrArg PeerId.slot heq)
    rw [if_neg hne]
    exact get?_congr (by rw [hslots, if_neg hslot])

/-- An insertion fills a slot that held no entry, under the next generation, and touches no other. -/
theorem slots_of_insert? (h : t.insert? a = some (id, t')) :
    (∀ generation, t.get? ⟨id.slot, generation⟩ = none) ∧
      (∀ i, t'.slots[i]? = if i = id.slot then some (some (id.generation, a)) else t.slots[i]?) ∧
      id.generation = t.nextGeneration ∧ t'.nextGeneration = t.nextGeneration + 1 ∧
      t'.limit = t.limit := by
  unfold insert? at h
  split at h
  · cases h
  split at h
  · next slot rest hvacated =>
    cases h
    have hvacant : t.slots[slot]? = some none :=
      (t.mem_vacated_iff slot).1 (hvacated ▸ List.mem_cons_self)
    refine ⟨fun _ => get?_of_vacant hvacant, fun i => ?_, rfl, rfl, rfl⟩
    simp only [Array.getElem?_set, eq_comm]
  · cases h
    refine ⟨fun _ => by simp [get?], fun i => ?_, rfl, rfl, rfl⟩
    simp only [Array.getElem?_push]

/-- A new entry is found under its identity, under which none was before. -/
theorem get?_of_insert? (h : t.insert? a = some (id, t')) :
    t.get? id = none ∧ ∀ other, t'.get? other = if other = id then some a else t.get? other := by
  obtain ⟨hvacant, hslots, -⟩ := slots_of_insert? h
  exact ⟨hvacant _, get?_of_placed hvacant hslots⟩

/-- An insertion fails when the table is full, and only then. -/
theorem insert?_eq_none_iff : t.insert? a = none ↔ t.limit ≤ t.size := by
  unfold insert?
  split
  · next hfull => simp [hfull]
  · next hfull => split <;> simp [hfull]

/-! ### Listing -/

theorem entry?_eq_some_iff {slot : Nat} :
    t.entry? slot = some (id, a) ↔ slot = id.slot ∧ t.get? id = some a := by
  rw [get?_eq_some_iff]
  obtain ⟨slot', generation⟩ := id
  unfold entry?
  constructor
  · intro h
    split at h
    · next hslot =>
      cases h
      exact ⟨rfl, hslot⟩
    · cases h
  · rintro ⟨rfl, h⟩
    rw [h]

/-- The list of entries holds what the identities resolve to. -/
theorem mem_toList_iff : (id, a) ∈ t.toList ↔ t.get? id = some a := by
  simp only [toList, List.mem_filterMap, List.mem_range, entry?_eq_some_iff]
  constructor
  · rintro ⟨slot, -, -, h⟩
    exact h
  · intro h
    exact ⟨id.slot, lt_size_of_get? h, rfl, h⟩

theorem mem_ids_iff : id ∈ t.ids ↔ ∃ a, t.get? id = some a := by
  simp [ids, mem_toList_iff]

/-- The list of entries ascends by slot. -/
theorem pairwise_toList (t : PeerTable α) : t.toList.Pairwise fun x y => x.1.slot < y.1.slot := by
  refine List.Pairwise.filterMap _ ?_ List.pairwise_lt_range
  rintro i j hij ⟨id, a⟩ hi ⟨other, b⟩ hj
  rw [(entry?_eq_some_iff.1 hi).1, (entry?_eq_some_iff.1 hj).1] at hij
  exact hij

theorem nodup_ids (t : PeerTable α) : t.ids.Nodup := by
  refine List.pairwise_map.2 (t.pairwise_toList.imp ?_)
  intro x y hlt heq
  rw [heq] at hlt
  exact Nat.lt_irrefl _ hlt

/-- Changing an entry changes no identity. -/
@[simp] theorem ids_modify (t : PeerTable α) (id : PeerId) (f : α → α) :
    (t.modify id f).ids = t.ids := by
  cases ha : t.get? id with
  | none => rw [modify_of_get?_eq_none ha]
  | some a =>
    have hsize : (t.modify id f).slots.size = t.slots.size := by
      rw [modify, if_pos (contains_iff.2 ⟨a, ha⟩)]
      exact Array.size_modify
    have hentry (i : Nat) :
        (PeerTable.entry? (t.modify id f) i).map (·.1) = (t.entry? i).map (·.1) := by
      unfold entry?
      rw [slots_modify ha]
      by_cases hslot : i = id.slot
      · rw [if_pos hslot, hslot, slots_of_get? ha]
        rfl
      · rw [if_neg hslot]
    simp only [ids, toList, List.map_filterMap, hsize, hentry]

/-- Only a vacant slot lists no entry. -/
theorem entry?_eq_none_iff {i : Nat} (h : i < t.slots.size) :
    t.entry? i = none ↔ t.slots[i]? = some none := by
  unfold entry?
  rw [Array.getElem?_eq_getElem h]
  cases t.slots[i] <;> simp

/-- **Every slot that is not vacant is listed**, so the size is the number of entries. -/
theorem length_toList (t : PeerTable α) : t.toList.length = t.size := by
  have hvacated : t.vacated.Perm
      ((List.range t.slots.size).filter fun i => ¬(t.entry? i).isSome) := by
    refine (List.perm_ext_iff_of_nodup t.vacated_nodup (List.nodup_range.filter _)).2 fun i => ?_
    rw [t.mem_vacated_iff, List.mem_filter, List.mem_range]
    simp only [Option.not_isSome_iff_eq_none, decide_eq_true_eq]
    constructor
    · intro h
      have hlt := (Array.getElem?_eq_some_iff.1 h).1
      exact ⟨hlt, (entry?_eq_none_iff hlt).2 h⟩
    · rintro ⟨hlt, h⟩
      exact (entry?_eq_none_iff hlt).1 h
  have hslots := List.length_eq_countP_add_countP (l := List.range t.slots.size)
    fun i => (t.entry? i).isSome
  rw [List.length_range] at hslots
  rw [toList, List.length_filterMap_eq_countP, size, hvacated.length_eq,
    ← List.countP_eq_length_filter]
  omega

end ChatRelay.PeerTable
