import ChatRelay.Broker.Basic
import ChatRelay.Proofs.Peer.History
import ChatRelay.Proofs.Peer.Token

/-!
# Identities of removed peers

An identity whose peer was removed is stale. A slot is used again at once, under another generation, so
a stale identity does not resolve; but generations come round after 256 insertions. A stale identity
resolves again when its slot is held by a peer that was inserted a multiple of 256 insertions later, and
only then (`resolves_iff_reused`). Fewer insertions than that keep its token from being served.

- `serve_stale`: a token whose identity does not resolve is not served.
- `stale_resolves`: in a table for one peer, 256 insertions bring a stale identity back.
-/

namespace ChatRelay

/-- **A token of nobody changes nothing.** -/
theorem Broker.serve_stale {b : Broker} {id : PeerId} (hslot : id.slot ≤ PeerId.maxSlot)
    (hnone : b.peers.get? id = none) (accepts : List AcceptEvent) {ready : Readiness}
    (htoken : ready.token = id.token) : b.serve accepts ready = (b, .ok ()) := by
  have hread : b.serveReadable id ready.traffic.reads = (b, .ok ()) := by
    simp only [serveReadable, hnone]
  have hwrite : b.serveWritable id ready.traffic.writes = b := by simp only [serveWritable, hnone]
  rw [serve, htoken, if_neg (PeerId.token_ne_listener hslot), PeerId.ofToken?_token hslot]
  simp only [hread, hwrite, ite_self]

namespace PeerTable.History

open PeerTable (Operation)

variable {α : Type} {h : History α} {id : PeerId} {a : α} {limit number : Nat}

/-- Two numbers give the same generation if the larger is some rounds of 256 after the smaller. -/
theorem mod_eq_iff {number later : Nat} (h : number < later) :
    later % 256 = number % 256 ↔ ∃ rounds > 0, later = number + 256 * rounds := by
  constructor
  · intro heq
    exact ⟨(later - number) / 256, by omega, by omega⟩
  · rintro ⟨rounds, -, rfl⟩
    omega

/-- After an entry was taken out, its identity resolves to whoever was put into its slot some rounds of
256 insertions later. -/
theorem Numbered.get?_run_remove (hn : h.Numbered limit) {table : PeerTable α}
    (hremove : h.table.remove? id = some (a, table)) {after : List (Operation α)}
    (hafter : ((h.step (.remove id)).run after).Numbered limit) :
    ∃ number, h.occupant id.slot = some (number, a) ∧ h.issued[number]? = some id ∧ ∀ b,
      ((h.step (.remove id)).run after).table.get? id = some b ↔
        ∃ rounds > 0, ((h.step (.remove id)).run after).occupant id.slot =
          some (number + 256 * rounds, b) := by
  obtain ⟨number, hoccupant, hgeneration⟩ := hn.occupant_of_get? (get?_self_of_remove? hremove)
  have hissued : h.issued[number]? = some id := by
    rw [hn.issued id.slot number a hoccupant, ← hgeneration]
  have hlt : number < h.issued.length := (List.getElem?_eq_some_iff.1 hissued).1
  refine ⟨number, hoccupant, hissued, fun b => ?_⟩
  rw [hafter.lookup, resolve_eq_some_iff, hgeneration, toNat_ofNat]
  constructor
  · rintro ⟨later, hlater, hmod⟩
    -- the slot was emptied, so its later occupant has a number that was not used yet
    have hnew : h.issued.length ≤ later := by
      have hstep := step_remove_of_some hremove
      rcases occupant_run hlater with hnew | ⟨c, hold⟩
      · rwa [hstep] at hnew
      · rw [hstep] at hold
        simp only [Function.update_self] at hold
        cases hold
    obtain ⟨rounds, hpositive, rfl⟩ := (mod_eq_iff (Nat.lt_of_lt_of_le hlt hnew)).1 hmod
    exact ⟨rounds, hpositive, hlater⟩
  · rintro ⟨rounds, -, hlater⟩
    exact ⟨_, hlater, by omega⟩

/-- **A stale identity resolves again after some rounds of 256 insertions, and not before.** Let
`remove` have taken out the peer that insertion `number` was given `id` for. Whatever happens then, `id`
resolves when its slot is held by a peer whose insertion was a positive multiple of 256 later, and to
that peer; all ways of looking it up agree. Until 256 insertions later it does not resolve at all, and
its token is served by no broker with that table. -/
theorem resolves_iff_reused (limit : Nat) (before after : List (Operation Peer)) {id : PeerId}
    {p : Peer} {table : PeerTable Peer}
    (hremove : ((start limit).run before).table.remove? id = some (p, table)) :
    let h := (start limit).run before
    let h' := (h.step (.remove id)).run after
    ∃ number, h.occupant id.slot = some (number, p) ∧ h.issued[number]? = some id ∧
      (∀ q, h'.table.get? id = some q ↔
        ∃ rounds > 0, h'.occupant id.slot = some (number + 256 * rounds, q)) ∧
      (h'.table.contains id ↔ ∃ q, h'.table.get? id = some q) ∧
      (∀ f, (h'.table.modify id f).get? id = (h'.table.get? id).map f) ∧
      (h'.table.remove? id).map Prod.fst = h'.table.get? id ∧
      (h'.issued.length ≤ number + 256 → h'.table.get? id = none ∧
        ∀ b : Broker, b.peers = h'.table → ∀ accepts ready, ready.token = id.token →
          b.serve accepts ready = (b, .ok ())) := by
  intro h h'
  have hn : h.Numbered limit := numbered_run limit before
  have hn' : h'.Numbered limit := by
    have hrun := numbered_run limit (before ++ .remove id :: after)
    rwa [run_append] at hrun
  obtain ⟨number, hoccupant, hissued, hresolves⟩ := hn.get?_run_remove hremove hn'
  have hslot : id.slot ≤ PeerId.maxSlot :=
    Nat.le_of_lt (Nat.lt_of_lt_of_le (slot_lt_limit (get?_self_of_remove? hremove)) h.table.limit_le)
  refine ⟨number, hoccupant, hissued, hresolves, contains_iff, fun f => ?_, ?_, fun hfew => ?_⟩
  · rw [get?_modify, if_pos rfl]
  · cases hlater : h'.table.remove? id with
    | none => exact (remove?_eq_none_iff.1 hlater).symm
    | some removed => exact (get?_self_of_remove? hlater).symm
  · have hnone : h'.table.get? id = none := by
      rw [Option.eq_none_iff_forall_ne_some]
      intro q hq
      -- an occupant that late would have been given an identity
      obtain ⟨rounds, hpositive, hlater⟩ := (hresolves q).1 hq
      have hlt := (List.getElem?_eq_some_iff.1 (hn'.issued _ _ _ hlater)).1
      omega
    refine ⟨hnone, ?_⟩
    rintro b hb accepts ready htoken
    exact Broker.serve_stale hslot (hb ▸ hnone) accepts htoken

/-! ### A full round -/

/-- A table for one, whose only slot has been vacated. -/
def vacant (generation : UInt8) : PeerTable Peer where
  slots := #[none]
  vacated := [0]
  nextGeneration := generation
  limit := 1
  limit_le := by decide
  mem_vacated_iff := by
    intro i
    cases i <;> simp

theorem not_vacant_occupied (generation : UInt8) (p : Peer) (i : Nat) :
    i ∈ ([] : List Nat) ↔ #[some (generation, p)][i]? = some none := by
  cases i <;> simp

/-- The same table with a peer in it. -/
def occupied (generation : UInt8) (p : Peer) : PeerTable Peer where
  slots := #[some (generation, p)]
  nextGeneration := generation + 1
  limit := 1
  limit_le := by decide
  slots_le := Nat.le_refl 1
  vacated_nodup := List.nodup_nil
  mem_vacated_iff := not_vacant_occupied generation p

theorem insert?_vacant (generation : UInt8) (p : Peer) :
    (vacant generation).insert? p = some (⟨0, generation⟩, occupied generation p) := rfl

theorem get?_occupied (generation : UInt8) (p : Peer) :
    (occupied generation p).get? ⟨0, generation⟩ = some p := if_pos rfl

theorem remove?_occupied (generation : UInt8) (p : Peer) :
    (occupied generation p).remove? ⟨0, generation⟩ = some (p, vacant (generation + 1)) := by
  unfold remove?
  split
  · next hnone => cases (get?_occupied generation p).symm.trans hnone
  · next q hq =>
    cases (get?_occupied generation p).symm.trans hq
    rfl

/-- A peer enters the table for one, and leaves it. -/
def visit (number : Nat) : List (Operation Peer) :=
  [.insert { connection := number }, .remove ⟨0, UInt8.ofNat number⟩]

theorem table_insert {g : UInt8} {h : History Peer} (htable : h.table = vacant g) (p : Peer) :
    (h.step (.insert p)).table = occupied g p := by
  have hoffer : h.table.offer p = .ok (⟨0, g⟩, occupied g p) :=
    offer_eq_ok_iff.2 (htable ▸ insert?_vacant g p)
  rw [step_insert_of_placed hoffer]

/-- A visit leaves the table as it was, under the next generation. -/
theorem table_visit {h : History Peer} (htable : h.table = vacant (UInt8.ofNat number)) :
    (h.run (visit number)).table = vacant (UInt8.ofNat (number + 1)) := by
  have hinserted := table_insert htable { connection := number }
  have hremove := remove?_occupied (UInt8.ofNat number) { connection := number }
  rw [← hinserted] at hremove
  rw [visit, run_cons, run_cons, run_nil, step_remove_of_some hremove, UInt8.ofNat_add]
  rfl

/-- Peers 1 to `visits` come and go, and one more comes. -/
def visits (count : Nat) : List (Operation Peer) :=
  ((List.range count).flatMap fun earlier => visit (earlier + 1)) ++
    [.insert { connection := count + 1 }]

/-- The last of them is found under its number modulo 256. -/
theorem get?_visits {h : History Peer} (htable : h.table = vacant 1) (count : Nat) :
    (h.run (visits count)).table.get? ⟨0, UInt8.ofNat (count + 1)⟩ =
      some { connection := count + 1 } := by
  have hgone : (h.run ((List.range count).flatMap fun earlier => visit (earlier + 1))).table =
      vacant (UInt8.ofNat (count + 1)) := by
    induction count with
    | zero => exact htable
    | succ count ih =>
      rw [List.range_succ, List.flatMap_append, run_append, List.flatMap_singleton]
      exact table_visit ih
  rw [visits, run_append, run_cons, run_nil, table_insert hgone, get?_occupied]

/-- After 256 peers the generations have come round. -/
theorem get?_round {h : History Peer} (htable : h.table = vacant 1) :
    (h.run (visits 255)).table.get? ⟨0, 0⟩ = some { connection := 256 } := by
  have hround : UInt8.ofNat (255 + 1) = 0 := rfl
  rw [← hround, get?_visits htable]

/-- The first peer of a table for one comes and goes. -/
theorem remove?_first :
    ((start 1).run [.insert { connection := 0 }]).table.remove? ⟨0, 0⟩ =
      some (({ connection := 0 } : Peer), vacant 1) :=
  remove?_occupied 0 { connection := 0 }

theorem table_first :
    (((start 1).run [.insert { connection := 0 }]).step (.remove ⟨0, 0⟩)).table = vacant 1 := by
  rw [step_remove_of_some remove?_first]

/-- **A stale identity can come to name another peer**: in a table for one, the first identity resolves
again when 256 more peers have been inserted. -/
theorem stale_resolves :
    ¬∀ (limit : Nat) (before after : List (Operation Peer)) (id : PeerId) (p : Peer)
      (table : PeerTable Peer),
      ((start limit).run before).table.remove? id = some (p, table) →
      ∀ q, ((((start limit).run before).step (.remove id)).run after).table.get? id = some q →
        q = p := by
  intro hnever
  have hsame := hnever 1 _ (visits 255) _ _ _ remove?_first _ (get?_round table_first)
  exact absurd (congrArg Peer.connection hsame) (by decide)

/-- In that table the first identity resolves after some rounds of 256 insertions. -/
theorem resolves_iff_reused_first :
    ((start 1).run [.insert { connection := 0 }]).table.remove? ⟨0, 0⟩ =
        some ({ connection := 0 }, vacant 1) ∧
      ∃ rounds > 0, ((((start 1).run [.insert { connection := 0 }]).step (.remove ⟨0, 0⟩)).run
        (visits 255)).occupant 0 = some (256 * rounds, { connection := 256 }) := by
  obtain ⟨number, hoccupant, -, hresolves, -⟩ :=
    resolves_iff_reused 1 [.insert { connection := 0 }] (visits 255) remove?_first
  have hzero : ((start 1).run [.insert { connection := 0 }]).occupant 0 =
      some (0, ({ connection := 0 } : Peer)) := rfl
  cases hzero.symm.trans hoccupant
  have hget := get?_round table_first
  rw [hresolves] at hget
  obtain ⟨rounds, hpositive, hlater⟩ := hget
  simp only [Nat.zero_add] at hlater
  exact ⟨remove?_first, rounds, hpositive, hlater⟩

end PeerTable.History

end ChatRelay
