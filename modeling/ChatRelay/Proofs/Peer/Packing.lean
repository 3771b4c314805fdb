import ChatRelay.Proofs.Peer.Occupancy
import Mathlib.Data.List.Induction

/-!
# Every peer has a token

Packing an identity into a token is exact up to `PeerId.maxSlot`: no bit is lost, and the token names this
identity alone (`PeerId.Packs`). A table makes no identity beyond that, however large the limit it was
asked for: neither an insertion nor a listing comes to such a slot (`PeerTable.History.MakesPackable`).

- `Numbered.slot_lt_of_mem_step`: an operation gives out an identity for a slot below the limit, or none.
- `slot_lt_of_mem_issued`: so does every history, for as long as it goes on.
- `packing_exact`: both together, and that every token but the listener's can be unpacked and packed again.
-/

namespace ChatRelay

/-! ### Identities -/

namespace PeerId

variable {id : PeerId}

/-- An identity and its token stand for each other. -/
structure Packs (id : PeerId) : Prop where
  /-- The word shifts the slot as a number is shifted, so that no bit is lost at the top. -/
  shifted : (UInt64.ofNat id.slot <<< UInt64.ofNat generationBits).toNat = id.slot <<< generationBits
  /-- The generation comes into the bits that were left free. -/
  joined : id.token.toNat = id.slot * 256 + id.generation.toNat
  named : ofToken? id.token = some id
  not_listener : id.token ≠ Token.listener
  alone : ∀ other : PeerId, other.slot ≤ maxSlot → other ≠ id → other.token ≠ id.token

theorem packs (h : id.slot ≤ maxSlot) : id.Packs where
  shifted := toNat_shiftLeft_slot (lt_of_le_maxSlot h)
  joined := toNat_token (lt_of_le_maxSlot h)
  named := ofToken?_token h
  not_listener := token_ne_listener h
  alone := by
    intro other hother hne heq
    exact hne (token_injective hother h heq)

end PeerId

/-! ### Tables -/

namespace PeerTable.History

variable {α : Type} {h : History α} {limit : Nat}

/-- No identity that a table makes has a slot above the largest that fits into a token. -/
structure MakesPackable (limit : Nat) (h : History α) : Prop where
  /-- The identities that were given out, whether they still resolve or not. -/
  issued : ∀ id ∈ h.issued, id.slot < min limit PeerId.maxSlot
  /-- The identity that one more insertion gives out. -/
  placed : ∀ a id table, h.table.offer a = .ok (id, table) → id.slot < min limit PeerId.maxSlot
  /-- The identities that entries are listed with. -/
  listed : ∀ id ∈ h.table.ids, id.slot < min limit PeerId.maxSlot
  /-- Entries that are changed while they are listed keep their identities. -/
  changed : ∀ id f, (h.table.modify id f).ids = h.table.ids

/-- An operation gives out at most one identity, for a slot below the limit. -/
theorem Numbered.slot_lt_of_mem_step (hn : h.Numbered limit) {operation : Operation α} {id : PeerId}
    (hid : id ∈ (h.step operation).issued) : id ∈ h.issued ∨ id.slot < min limit PeerId.maxSlot := by
  cases operation with
  | insert a =>
    cases hoffer : h.table.offer a with
    | error back =>
      rw [step_insert_of_refused hoffer] at hid
      exact Or.inl hid
    | ok placed =>
      rw [step_insert_of_placed hoffer] at hid
      rcases List.mem_append.1 hid with hold | hnew
      · exact Or.inl hold
      · obtain rfl := List.mem_singleton.1 hnew
        exact Or.inr (hn.slot_lt_of_offer hoffer)
  | remove other =>
    refine Or.inl ?_
    cases hremove : h.table.remove? other with
    | none => rwa [step_remove_of_none hremove] at hid
    | some removed => rwa [step_remove_of_some hremove] at hid
  | modify other f =>
    refine Or.inl ?_
    cases hget : h.table.get? other with
    | none => rwa [step_modify_of_none hget] at hid
    | some a => rwa [step_modify_of_some hget] at hid

/-- **Every identity that was ever given out is for a slot below the limit.** -/
theorem slot_lt_of_mem_issued {operations : List (Operation α)} {id : PeerId}
    (hid : id ∈ ((start limit).run operations).issued) : id.slot < min limit PeerId.maxSlot := by
  -- from the last operation back, so that the table in front of it is one after a history
  induction operations using List.reverseRecOn with
  | nil => cases hid
  | append_singleton operations operation ih =>
    rw [run_append] at hid
    rcases (numbered_run limit operations).slot_lt_of_mem_step hid with hold | hlt
    · exact ih hold
    · exact hlt

theorem makesPackable_run (limit : Nat) (operations : List (Operation α)) :
    ((start limit).run operations).MakesPackable limit where
  issued _ hid := slot_lt_of_mem_issued hid
  placed _ _ _ hoffer := (numbered_run limit operations).slot_lt_of_offer hoffer
  listed := by
    intro id hid
    obtain ⟨a, hget⟩ := mem_ids_iff.1 hid
    have hlt := slot_lt_limit hget
    rwa [(numbered_run limit operations).limit] at hlt
  changed id f := ids_modify _ id f

end PeerTable.History

namespace PeerId

open PeerTable.History (start MakesPackable)

/-- **Tokens and identities stand for each other.** An identity up to the largest slot is packed without
loss, into a token that is neither the listener's nor another's. Every token but the listener's names an
identity whose token it is, and the listener's names none. A table, whatever limit it is asked for, makes
only identities that can be packed, also while it is listed. -/
theorem packing_exact :
    maxSlot = Nat.pow 2 56 - 2 ∧
      (∀ id : PeerId, id.slot ≤ maxSlot → id.Packs) ∧
      (∀ token, token ≠ Token.listener → ∃ id, ofToken? token = some id ∧ id.token = token) ∧
      ofToken? Token.listener = none ∧
      ∀ (α : Type) (limit : Nat) (operations : List (PeerTable.Operation α)),
        MakesPackable limit ((start limit).run operations) := by
  refine ⟨rfl, ?_, ?_, ?_, ?_⟩
  · intro id hslot
    exact packs hslot
  · intro token htoken
    exact exists_ofToken? htoken
  · exact if_pos rfl
  · intro α limit operations
    exact PeerTable.History.makesPackable_run limit operations

/-- The last identity that fits, the first token behind those of the identities that fit, and a table that
was asked for as many peers as a word can count. -/
theorem packing_exact_last :
    Nat.pow 2 56 - 2 ≤ maxSlot ∧ Packs ⟨Nat.pow 2 56 - 2, 255⟩ ∧
      token ⟨Nat.pow 2 56 - 2, 255⟩ + 1 = 0xFFFFFFFFFFFFFF00 ∧
      0xFFFFFFFFFFFFFF00 ≠ Token.listener ∧
      (∃ id, ofToken? 0xFFFFFFFFFFFFFF00 = some id ∧ id.token = 0xFFFFFFFFFFFFFF00) ∧
      MakesPackable (Nat.pow 2 64 - 1)
        ((start (Nat.pow 2 64 - 1)).run [.insert 'a', .remove ⟨0, 0⟩, .insert 'b', .insert 'c']) := by
  obtain ⟨-, hpacks, htokens, -, htables⟩ := packing_exact
  exact ⟨Nat.le_refl _, hpacks ⟨_, 255⟩ (Nat.le_refl _), by decide +kernel, by decide,
    htokens _ (by decide), htables Char _ _⟩

end PeerId

end ChatRelay
