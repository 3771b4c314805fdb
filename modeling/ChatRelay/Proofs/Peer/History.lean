import ChatRelay.Proofs.Peer.Table
import Mathlib.Logic.Function.Basic

/-!
# Histories of a peer table

The successful insertions into a table are numbered from zero. A history keeps, beside the table, the
identities that were given out and the number of the insertion that filled each slot. What an identity
resolves to is told by the history alone: a slot is found under the number of its insertion modulo 256.

- `History.step`, `History.run`: the operations on a table, in any order.
- `History.resolve`: what an identity is to resolve to.
- `Numbered`: the table does what its history tells; every operation keeps that (`numbered_step`), and
  every run has it (`numbered_run`).
- `occupant_run`: whoever is found in a slot later was there before, or was inserted in between.
-/

namespace ChatRelay.PeerTable

variable {α : Type}

/-- Offer an entry to a table. A full table hands it back. -/
def offer (t : PeerTable α) (a : α) : Except α (PeerId × PeerTable α) :=
  match t.insert? a with
  | none => .error a
  | some placed => .ok placed

theorem offer_eq_ok_iff {t : PeerTable α} {a : α} {placed : PeerId × PeerTable α} :
    t.offer a = .ok placed ↔ t.insert? a = some placed := by
  unfold offer
  cases t.insert? a <;> simp

/-- Something that is done to a table. Looking up and listing leave a table as it is. -/
inductive Operation (α : Type) where
  | insert (a : α)
  | remove (id : PeerId)
  /-- The entry of an identity is changed where it is. -/
  | modify (id : PeerId) (f : α → α)

/-- A table and the history of its insertions. -/
structure History (α : Type) where
  table : PeerTable α
  /-- The identities that were given out: the one at place `n` by insertion number `n`. -/
  issued : List PeerId := []
  /-- The occupant of each slot, with the number of its insertion. -/
  occupant : Nat → Option (Nat × α) := fun _ => none

namespace History

/-- A new table. -/
def start (limit : Nat) : History α where
  table := .ofLimit limit

/-- What an operation does. The history follows what the table answers. -/
def step (h : History α) : Operation α → History α
  | .insert a =>
    match h.table.offer a with
    | .error _ => h
    | .ok (id, table) =>
      { table
        issued := h.issued ++ [id]
        occupant := Function.update h.occupant id.slot (some (h.issued.length, a)) }
  | .remove id =>
    match h.table.remove? id with
    | none => h
    | some (_, table) => { h with table, occupant := Function.update h.occupant id.slot none }
  | .modify id f =>
    match h.table.get? id with
    | none => { h with table := h.table.modify id f }
    | some _ =>
      { h with
        table := h.table.modify id f
        occupant := Function.update h.occupant id.slot
          ((h.occupant id.slot).map fun (number, a) => (number, f a)) }

/-- What a run of operations does. -/
def run (h : History α) (operations : List (Operation α)) : History α := operations.foldl step h

@[simp] theorem run_nil (h : History α) : h.run [] = h := rfl

@[simp] theorem run_cons (h : History α) (operation : Operation α) (rest : List (Operation α)) :
    h.run (operation :: rest) = (h.step operation).run rest := rfl

theorem run_append (h : History α) (operations more : List (Operation α)) :
    h.run (operations ++ more) = (h.run operations).run more :=
  List.foldl_append

/-- What an identity is to resolve to: the occupant of its slot, if the number of its insertion is the
generation modulo 256. -/
def resolve (h : History α) (id : PeerId) : Option α :=
  (h.occupant id.slot).bind fun (number, a) =>
    if number % 256 = id.generation.toNat then some a else none

variable {h : History α} {id other : PeerId} {a : α} {limit number : Nat}

theorem resolve_eq_some_iff : h.resolve id = some a ↔
    ∃ number, h.occupant id.slot = some (number, a) ∧ number % 256 = id.generation.toNat := by
  unfold resolve
  cases h.occupant id.slot with
  | none => simp
  | some occupant =>
    obtain ⟨number, b⟩ := occupant
    by_cases hnumber : number % 256 = id.generation.toNat <;> simp [hnumber, and_assoc]

theorem resolve_of_vacant (hslot : h.occupant id.slot = none) : h.resolve id = none := by
  rw [resolve, hslot, Option.bind_none]

theorem resolve_of_occupied (hslot : h.occupant id.slot = some (number, a)) :
    h.resolve id = if number % 256 = id.generation.toNat then some a else none := by
  rw [resolve, hslot, Option.bind_some]

/-- What an identity is to resolve to depends on the occupant of its slot only. -/
theorem resolve_congr {h' : History α} (hslot : h'.occupant id.slot = h.occupant id.slot) :
    h'.resolve id = h.resolve id := by
  rw [resolve, hslot, resolve]

/-- A generation is the number of an insertion modulo 256. -/
theorem toNat_ofNat (number : Nat) : (UInt8.ofNat number).toNat = number % 256 :=
  UInt8.toNat_ofNat'

/-! ### Steps -/

section Step

variable {table : PeerTable α} {back : α}

/-- A full table changes nothing, the numbering included. -/
theorem step_insert_of_refused (hoffer : h.table.offer a = .error back) :
    h.step (.insert a) = h := by
  simp only [step, hoffer]

theorem step_insert_of_placed (hoffer : h.table.offer a = .ok (id, table)) :
    h.step (.insert a) =
      { table
        issued := h.issued ++ [id]
        occupant := Function.update h.occupant id.slot (some (h.issued.length, a)) } := by
  simp only [step, hoffer]

/-- An identity that does not resolve removes nothing. -/
theorem step_remove_of_none (hremove : h.table.remove? id = none) : h.step (.remove id) = h := by
  simp only [step, hremove]

theorem step_remove_of_some (hremove : h.table.remove? id = some (a, table)) :
    h.step (.remove id) =
      { h with table, occupant := Function.update h.occupant id.slot none } := by
  simp only [step, hremove]

/-- An identity that does not resolve changes nothing. -/
theorem step_modify_of_none (hget : h.table.get? id = none) (f : α → α) :
    h.step (.modify id f) = h := by
  simp only [step, hget, modify_of_get?_eq_none hget]

theorem step_modify_of_some (hget : h.table.get? id = some a) (f : α → α) :
    h.step (.modify id f) =
      { h with
        table := h.table.modify id f
        occupant := Function.update h.occupant id.slot
          ((h.occupant id.slot).map fun (number, a) => (number, f a)) } := by
  simp only [step, hget]

end Step

/-! ### The invariant -/

/-- The table does what its history tells, and every occupant was given an identity for its slot. -/
structure Numbered (limit : Nat) (h : History α) : Prop where
  limit : h.table.limit = min limit PeerId.maxSlot
  next : h.table.nextGeneration = UInt8.ofNat h.issued.length
  lookup : ∀ id, h.table.get? id = h.resolve id
  issued : ∀ slot number a, h.occupant slot = some (number, a) →
    h.issued[number]? = some ⟨slot, UInt8.ofNat number⟩

theorem numbered_start (limit : Nat) : (start limit : History α).Numbered limit where
  limit := rfl
  next := rfl
  lookup := get?_ofLimit limit
  issued := by
    intro slot number a h
    cases h

/-- An insertion that succeeds gives out the next generation, for a slot that was vacant. -/
theorem Numbered.offer (hn : h.Numbered limit) {table : PeerTable α}
    (hoffer : h.table.offer a = .ok (id, table)) :
    h.occupant id.slot = none ∧ id.generation = UInt8.ofNat h.issued.length ∧
      ∀ other, table.get? other = if other = id then some a else h.table.get? other := by
  have hinsert := offer_eq_ok_iff.1 hoffer
  obtain ⟨hvacant, -, hgeneration, -⟩ := slots_of_insert? hinsert
  refine ⟨?_, hgeneration.trans hn.next, (get?_of_insert? hinsert).2⟩
  -- an occupant would be found under its own generation
  cases hslot : h.occupant id.slot with
  | none => rfl
  | some occupant =>
    obtain ⟨number, b⟩ := occupant
    have hfound : h.table.get? ⟨id.slot, UInt8.ofNat number⟩ = some b := by
      rw [hn.lookup, resolve_eq_some_iff]
      exact ⟨number, hslot, (toNat_ofNat number).symm⟩
    rw [hvacant] at hfound
    cases hfound

/-- The one identity of an occupied slot that resolves. -/
theorem Numbered.occupant_of_get? (hn : h.Numbered limit) (hget : h.table.get? id = some a) :
    ∃ number, h.occupant id.slot = some (number, a) ∧ id.generation = UInt8.ofNat number := by
  rw [hn.lookup, resolve_eq_some_iff] at hget
  obtain ⟨number, hoccupant, hnumber⟩ := hget
  refine ⟨number, hoccupant, ?_⟩
  rw [← UInt8.toNat_inj, toNat_ofNat, hnumber]

/-- In an occupied slot only that identity resolves. -/
theorem Numbered.get?_of_occupied (hn : h.Numbered limit)
    (hoccupied : h.occupant id.slot = some (number, a)) (hid : id.generation = UInt8.ofNat number)
    (hslot : other.slot = id.slot) : h.table.get? other = if other = id then some a else none := by
  rw [hn.lookup, resolve_of_occupied (hslot ▸ hoccupied)]
  simp only [← toNat_ofNat number, ← hid, UInt8.toNat_inj, generation_eq_iff hslot]

/-- An operation that works on one slot keeps the numbering if it is right about that slot. -/
theorem Numbered.update (hn : h.Numbered limit) {h' : History α} {slot : Nat}
    {occupant : Option (Nat × α)} (hlimit : h'.table.limit = h.table.limit)
    (hnext : h'.table.nextGeneration = UInt8.ofNat h'.issued.length)
    (hissued : h.issued <+: h'.issued)
    (hoccupant : h'.occupant = Function.update h.occupant slot occupant)
    (hothers : ∀ other : PeerId, other.slot ≠ slot → h'.table.get? other = h.table.get? other)
    (hlookup : ∀ other : PeerId, other.slot = slot → h'.table.get? other = h'.resolve other)
    (hnumber : ∀ number a, occupant = some (number, a) →
      h'.issued[number]? = some ⟨slot, UInt8.ofNat number⟩) : h'.Numbered limit where
  limit := hlimit.trans hn.limit
  next := hnext
  lookup := by
    intro other
    by_cases hslot : other.slot = slot
    · exact hlookup other hslot
    · rw [hothers other hslot, hn.lookup]
      exact (resolve_congr (by rw [hoccupant, Function.update_of_ne hslot])).symm
  issued := by
    intro other number a hother
    rw [hoccupant] at hother
    by_cases hslot : other = slot
    · subst hslot
      rw [Function.update_self] at hother
      exact hnumber number a hother
    · rw [Function.update_of_ne hslot] at hother
      have hold := hn.issued other number a hother
      obtain ⟨more, hmore⟩ := hissued
      rw [← hmore, List.getElem?_append_left (List.getElem?_eq_some_iff.1 hold).1, hold]

theorem Numbered.insert (hn : h.Numbered limit) (a : α) : (h.step (.insert a)).Numbered limit := by
  cases hoffer : h.table.offer a with
  | error back => rwa [step_insert_of_refused hoffer]
  | ok placed =>
    obtain ⟨id, table⟩ := placed
    obtain ⟨hvacant, hgeneration, hget⟩ := hn.offer hoffer
    obtain ⟨-, -, -, hnext, hlimit⟩ := slots_of_insert? (offer_eq_ok_iff.1 hoffer)
    rw [step_insert_of_placed hoffer]
    refine hn.update hlimit ?_ (List.prefix_append ..) rfl (fun other hslot => ?_)
      (fun other hslot => ?_) ?_
    · rw [hnext, hn.next, List.length_append, UInt8.ofNat_add]
      rfl
    · exact (hget other).trans (if_neg fun heq => hslot (congrArg PeerId.slot heq))
    · rw [hget, hn.lookup, resolve_of_vacant (hslot ▸ hvacant),
        resolve_of_occupied (by rw [hslot]; exact Function.update_self ..)]
      simp only [← toNat_ofNat, ← hgeneration, UInt8.toNat_inj, generation_eq_iff hslot]
    · rintro number b ⟨⟩
      rw [List.getElem?_concat_length, ← hgeneration]

theorem Numbered.remove (hn : h.Numbered limit) (id : PeerId) :
    (h.step (.remove id)).Numbered limit := by
  cases hremove : h.table.remove? id with
  | none => rwa [step_remove_of_none hremove]
  | some removed =>
    obtain ⟨a, table⟩ := removed
    obtain ⟨hfound, -, hnext, hlimit⟩ := slots_of_remove? hremove
    obtain ⟨number, hoccupied, hgeneration⟩ := hn.occupant_of_get? hfound
    have hget := get?_of_remove? hremove
    rw [step_remove_of_some hremove]
    refine hn.update hlimit (hnext.trans hn.next) (List.prefix_refl _) rfl (fun other hslot => ?_)
      (fun other hslot => ?_) nofun
    · exact (hget other).trans (if_neg fun heq => hslot (congrArg PeerId.slot heq))
    · rw [hget, hn.get?_of_occupied hoccupied hgeneration hslot,
        resolve_of_vacant (by rw [hslot]; exact Function.update_self ..)]
      split <;> rfl

theorem Numbered.modify (hn : h.Numbered limit) (id : PeerId) (f : α → α) :
    (h.step (.modify id f)).Numbered limit := by
  cases hfound : h.table.get? id with
  | none => rwa [step_modify_of_none hfound]
  | some a =>
    obtain ⟨number, hoccupied, hgeneration⟩ := hn.occupant_of_get? hfound
    have hget := h.table.get?_modify id f
    rw [step_modify_of_some hfound, hoccupied]
    refine hn.update (limit_modify ..) ?_ (List.prefix_refl _) rfl (fun other hslot => ?_)
      (fun other hslot => ?_) ?_
    · exact (nextGeneration_modify ..).trans hn.next
    · exact (hget other).trans (if_neg fun heq => hslot (congrArg PeerId.slot heq))
    · rw [hget, hn.get?_of_occupied hoccupied hgeneration hslot,
        resolve_of_occupied (by rw [hslot]; exact Function.update_self ..)]
      simp only [← toNat_ofNat number, ← hgeneration, UInt8.toNat_inj, generation_eq_iff hslot]
      split <;> rfl
    · rintro number' b ⟨⟩
      exact hn.issued id.slot number a hoccupied

/-- **Every operation keeps the numbering.** -/
theorem numbered_step (hn : h.Numbered limit) (operation : Operation α) :
    (h.step operation).Numbered limit := by
  cases operation with
  | insert a => exact hn.insert a
  | remove id => exact hn.remove id
  | modify id f => exact hn.modify id f

/-- **Every history has it.** -/
theorem numbered_run (limit : Nat) (operations : List (Operation α)) :
    ((start limit).run operations).Numbered limit := by
  have hrun : ∀ h : History α, h.Numbered limit → (h.run operations).Numbered limit := by
    induction operations with
    | nil => exact fun h hn => hn
    | cons operation rest ih => exact fun h hn => ih (h.step operation) (numbered_step hn operation)
  exact hrun _ (numbered_start limit)

/-! ### Later occupants -/

/-- The second history goes on from the first in one slot: whoever occupies that slot was there before,
or has a number that was not used yet. -/
def GoesOn (h h' : History α) : Prop :=
  h.issued <+: h'.issued ∧ ∃ slot occupant, h'.occupant = Function.update h.occupant slot occupant ∧
    ∀ number a, occupant = some (number, a) →
      h.issued.length ≤ number ∨ ∃ b, h.occupant slot = some (number, b)

theorem GoesOn.refl (h : History α) : GoesOn h h :=
  ⟨List.prefix_refl _, 0, h.occupant 0, (Function.update_eq_self ..).symm,
    fun _ a ha => Or.inr ⟨a, ha⟩⟩

/-- No operation works on more than one slot. -/
theorem goesOn_step (h : History α) (operation : Operation α) : GoesOn h (h.step operation) := by
  cases operation with
  | insert a =>
    cases hoffer : h.table.offer a with
    | error back =>
      rw [step_insert_of_refused hoffer]
      exact GoesOn.refl h
    | ok placed =>
      rw [step_insert_of_placed hoffer]
      refine ⟨List.prefix_append .., _, _, rfl, ?_⟩
      rintro number b ⟨⟩
      exact Or.inl (Nat.le_refl _)
  | remove id =>
    cases hremove : h.table.remove? id with
    | none =>
      rw [step_remove_of_none hremove]
      exact GoesOn.refl h
    | some removed =>
      rw [step_remove_of_some hremove]
      exact ⟨List.prefix_refl _, _, _, rfl, nofun⟩
  | modify id f =>
    cases hget : h.table.get? id with
    | none =>
      rw [step_modify_of_none hget]
      exact GoesOn.refl h
    | some a =>
      rw [step_modify_of_some hget]
      refine ⟨List.prefix_refl _, _, _, rfl, fun number b hchanged => Or.inr ?_⟩
      obtain ⟨occupant, hoccupant, ⟨⟩⟩ := Option.map_eq_some_iff.1 hchanged
      exact ⟨occupant.2, hoccupant⟩

theorem GoesOn.occupant {h h' : History α} (hgoes : GoesOn h h') {slot : Nat}
    (hslot : h'.occupant slot = some (number, a)) :
    h.issued.length ≤ number ∨ ∃ b, h.occupant slot = some (number, b) := by
  obtain ⟨-, changed, occupant, heq, hchanged⟩ := hgoes
  rw [heq, Function.update_apply] at hslot
  split at hslot
  · next hsame =>
    rw [hsame]
    exact hchanged number a hslot
  · exact Or.inr ⟨a, hslot⟩

/-- **Whoever is found in a slot later was there before**, or was inserted in between. -/
theorem occupant_run {operations : List (Operation α)} {slot : Nat}
    (hslot : (h.run operations).occupant slot = some (number, a)) :
    h.issued.length ≤ number ∨ ∃ b, h.occupant slot = some (number, b) := by
  induction operations generalizing h with
  | nil => exact Or.inr ⟨a, hslot⟩
  | cons operation rest ih =>
    have hgoes := goesOn_step h operation
    rcases ih hslot with hlater | ⟨b, hb⟩
    · exact Or.inl (Nat.le_trans hgoes.1.length_le hlater)
    · exact hgoes.occupant hb

end History

end ChatRelay.PeerTable
