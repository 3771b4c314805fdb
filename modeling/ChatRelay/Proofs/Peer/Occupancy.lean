import ChatRelay.Proofs.Peer.History
import ChatRelay.Proofs.Peer.Token

/-!
# What a peer table answers

After any history the answers of a table follow from that history: which identities resolve and to
whom, when an insertion is refused, and what is listed (`History.Exact`, `occupancy`). Live peers have
tokens of their own, since no slot of a table is above the largest that a token can hold.
-/

namespace ChatRelay.PeerTable.History

variable {α : Type} {h : History α} {limit : Nat}

/-- The answers of a table by its history. -/
structure Exact (limit : Nat) (h : History α) : Prop where
  /-- An identity resolves if its slot is occupied and the number of the occupant's insertion is the
  generation modulo 256; it then resolves to that occupant. -/
  lookup : ∀ id, h.table.get? id = h.resolve id
  contains : ∀ id, h.table.contains id = (h.resolve id).isSome
  /-- An entry is changed under the same condition, and no other is. -/
  changed : ∀ id f other, (h.table.modify id f).get? other =
    if other = id then (h.resolve id).map f else h.table.get? other
  /-- An entry is taken out under the same condition. -/
  removed : ∀ id, (h.table.remove? id).map Prod.fst = h.resolve id
  /-- Nothing else is taken out. -/
  remaining : ∀ id a table, h.table.remove? id = some (a, table) →
    ∀ other, table.get? other = if other = id then none else h.table.get? other
  /-- An entry is refused when the table is full, and only then. It is handed back, and neither the
  table nor the numbering changes. -/
  refused : ∀ a back, h.table.offer a = .error back ↔
    back = a ∧ min limit (Nat.pow 2 56 - 2) ≤ h.table.toList.length
  unchanged : ∀ a back, h.table.offer a = .error back → h.step (.insert a) = h
  /-- Any other entry is put into a vacant slot below the capacity. It is found under the identity that
  is given out, whose generation is the number of the insertion modulo 256. -/
  placed : ∀ a id table, h.table.offer a = .ok (id, table) →
    h.occupant id.slot = none ∧ id.slot < min limit (Nat.pow 2 56 - 2) ∧
      id.generation.toNat = h.issued.length % 256 ∧
      ∀ other, table.get? other = if other = id then some a else h.table.get? other
  /-- The list goes up the slots, so nothing is listed twice. -/
  ascending : h.table.toList.Pairwise fun x y => x.1.slot < y.1.slot
  /-- What is listed is found under the identity it is listed with. -/
  listed : ∀ id a, (id, a) ∈ h.table.toList ↔ h.table.get? id = some a
  /-- Every occupant is listed. -/
  occupied : ∀ slot number a, h.occupant slot = some (number, a) →
    (⟨slot, UInt8.ofNat number⟩, a) ∈ h.table.toList
  size : h.table.size = h.table.toList.length
  isEmpty : h.table.isEmpty ↔ h.table.toList = []
  /-- Live peers have different tokens, none of them the listener's, and each names its peer. -/
  tokens : (h.table.ids.map PeerId.token).Nodup
  listener : Token.listener ∉ h.table.ids.map PeerId.token
  named : ∀ id ∈ h.table.ids, PeerId.ofToken? id.token = some id

/-- A live peer has a slot that fits into a token. -/
theorem slot_le_of_mem_ids {t : PeerTable α} {id : PeerId} (hid : id ∈ t.ids) :
    id.slot ≤ PeerId.maxSlot := by
  obtain ⟨a, ha⟩ := mem_ids_iff.1 hid
  exact Nat.le_of_lt (Nat.lt_of_lt_of_le (slot_lt_limit ha) t.limit_le)

/-- Live peers have different tokens. -/
theorem nodup_tokens (t : PeerTable α) : (t.ids.map PeerId.token).Nodup := by
  refine List.pairwise_map.2 (t.nodup_ids.imp_of_mem ?_)
  intro id other hid hother hne heq
  exact hne (PeerId.token_injective (slot_le_of_mem_ids hid) (slot_le_of_mem_ids hother) heq)

/-- An entry is refused when as many are listed as the table may hold. -/
theorem offer_eq_error_iff {t : PeerTable α} {a back : α} :
    t.offer a = .error back ↔ back = a ∧ t.limit ≤ t.toList.length := by
  rw [length_toList, ← insert?_eq_none_iff (a := a), offer]
  cases t.insert? a with
  | none => simp [eq_comm]
  | some placed => simp

/-- An entry is put into a slot below the limit. -/
theorem Numbered.slot_lt_of_offer (hn : h.Numbered limit) {a : α} {id : PeerId} {table : PeerTable α}
    (hoffer : h.table.offer a = .ok (id, table)) : id.slot < min limit PeerId.maxSlot := by
  obtain ⟨-, -, hget⟩ := hn.offer hoffer
  obtain ⟨-, -, -, -, hlimit⟩ := slots_of_insert? (offer_eq_ok_iff.1 hoffer)
  have hlt : id.slot < table.limit := slot_lt_limit ((hget id).trans (if_pos rfl))
  rwa [hlimit, hn.limit] at hlt

theorem Numbered.exact (hn : h.Numbered limit) : h.Exact limit := by
  have hlimit : h.table.limit = min limit (Nat.pow 2 56 - 2) := hn.limit
  constructor
  case lookup => exact hn.lookup
  case contains =>
    intro id
    rw [PeerTable.contains, hn.lookup]
  case changed =>
    intro id f other
    rw [get?_modify]
    split
    · next heq => rw [heq, hn.lookup]
    · rfl
  case removed =>
    intro id
    rw [← hn.lookup]
    cases hremove : h.table.remove? id with
    | none => exact (remove?_eq_none_iff.1 hremove).symm
    | some removed => exact (get?_self_of_remove? hremove).symm
  case remaining =>
    intro id a table hremove other
    exact get?_of_remove? hremove other
  case refused =>
    intro a back
    rw [offer_eq_error_iff, hlimit]
  case unchanged =>
    intro a back hoffer
    exact step_insert_of_refused hoffer
  case placed =>
    intro a id table hoffer
    obtain ⟨hvacant, hgeneration, hget⟩ := hn.offer hoffer
    exact ⟨hvacant, hn.slot_lt_of_offer hoffer, by rw [hgeneration, toNat_ofNat], hget⟩
  case ascending => exact h.table.pairwise_toList
  case listed =>
    intro id a
    exact mem_toList_iff
  case occupied =>
    intro slot number a hoccupant
    rw [mem_toList_iff, hn.lookup, resolve_eq_some_iff]
    exact ⟨number, hoccupant, (toNat_ofNat number).symm⟩
  case size => exact (length_toList h.table).symm
  case isEmpty => rw [PeerTable.isEmpty, ← length_toList, beq_iff_eq, List.length_eq_zero_iff]
  case tokens => exact nodup_tokens h.table
  case listener =>
    intro hmem
    obtain ⟨id, hid, heq⟩ := List.mem_map.1 hmem
    exact PeerId.token_ne_listener (slot_le_of_mem_ids hid) heq
  case named =>
    intro id hid
    exact PeerId.ofToken?_token (slot_le_of_mem_ids hid)

/-- **After any history the answers of a table follow from that history.** -/
theorem occupancy (limit : Nat) (operations : List (Operation α)) :
    ((start limit).run operations).Exact limit :=
  (numbered_run limit operations).exact

/-- In a table for one, the slot is used again under the next generation. -/
example : ((start 1).run [.insert 'a', .remove ⟨0, 0⟩, .insert 'b', .insert 'c']).table.toList =
    [(⟨0, 1⟩, 'b')] := by
  decide +kernel

end ChatRelay.PeerTable.History
