import ChatRelay.Peer.Id

/-!
# Tokens of peers

A token is the number whose last base-256 digit is the generation and whose other digits are the slot
(`toNat_token`). That holds of every slot that a word has room for, and a token names exactly the
identity that it is put together from (`ofToken?_eq_some_iff`). The listener's token is all ones, which
is what the last of these slots would get under the last generation (`token_eq_listener_iff`). So up to
`maxSlot` tokens name their peers (`ofToken?_token`), and none of them is the listener's
(`token_ne_listener`).
-/

namespace ChatRelay.PeerId

variable {id other : PeerId} {token : Token}

/-- The largest slot is two less than the number of slots that a word has room for. -/
theorem maxSlot_eq : maxSlot = 0x100000000000000 - 2 := rfl

theorem lt_of_le_maxSlot {slot : Nat} (h : slot ≤ maxSlot) : slot < 0x100000000000000 := by
  rw [maxSlot_eq] at h
  omega

/-! ### Packing -/

/-- Of a slot that a word has room for nothing is shifted out. -/
theorem toNat_shiftLeft_slot {slot : Nat} (h : slot < 0x100000000000000) :
    (UInt64.ofNat slot <<< UInt64.ofNat generationBits).toNat = slot <<< generationBits := by
  have hsize : UInt64.size = 0x10000000000000000 := rfl
  have hslot : (UInt64.ofNat slot).toNat = slot := UInt64.toNat_ofNat_of_lt' (by omega)
  have hfits : slot <<< 8 < UInt64.size := by
    rw [Nat.shiftLeft_eq]
    omega
  rw [UInt64.toNat_shiftLeft, hslot]
  show slot <<< 8 % UInt64.size = slot <<< 8
  exact Nat.mod_eq_of_lt hfits

/-- The slot is shifted over the generation, and neither loses a bit. -/
theorem toNat_token (h : id.slot < 0x100000000000000) :
    id.token.toNat = id.slot * 256 + id.generation.toNat := by
  have hgeneration : id.generation.toNat < 2 ^ 8 := id.generation.toNat_lt
  rw [PeerId.token, UInt64.toNat_or, toNat_shiftLeft_slot h, UInt8.toNat_toUInt64]
  show id.slot <<< 8 ||| id.generation.toNat = _
  rw [← Nat.shiftLeft_add_eq_or_of_lt hgeneration, Nat.shiftLeft_eq]

/-- Only the very last identity that a word has room for would get the listener's token. -/
theorem token_eq_listener_iff (h : id.slot < 0x100000000000000) :
    id.token = Token.listener ↔ id = ⟨0x100000000000000 - 1, 255⟩ := by
  constructor
  · intro heq
    have hnat : id.slot * 256 + id.generation.toNat = 0x10000000000000000 - 1 := by
      rw [← toNat_token h, heq]
      rfl
    have hgeneration := id.generation.toNat_lt
    have hslot : id.slot = 0x100000000000000 - 1 := by omega
    have hlast : id.generation = 255 := by
      apply UInt8.toNat_inj.1
      show id.generation.toNat = 255
      omega
    calc id = ⟨id.slot, id.generation⟩ := rfl
      _ = ⟨0x100000000000000 - 1, 255⟩ := by rw [hslot, hlast]
  · rintro rfl
    rfl

/-- No peer has the listener's token. -/
theorem token_ne_listener (h : id.slot ≤ maxSlot) : id.token ≠ Token.listener := by
  intro heq
  have hid := (token_eq_listener_iff (lt_of_le_maxSlot h)).1 heq
  rw [hid, maxSlot_eq] at h
  exact absurd h (by decide)

/-! ### Unpacking -/

/-- What is above the generation is the slot. -/
theorem toNat_shiftRight (token : Token) :
    (token >>> UInt64.ofNat generationBits).toNat = token.toNat / 256 := by
  rw [UInt64.toNat_shiftRight]
  exact Nat.shiftRight_eq_div_pow ..

/-- **A token names the identity that it is put together from**, and the listener's names none. -/
theorem ofToken?_eq_some_iff : ofToken? token = some id ↔
    token ≠ Token.listener ∧ id.slot < 0x100000000000000 ∧ id.token = token := by
  rw [ofToken?]
  constructor
  · intro h
    split at h
    · cases h
    · next hne =>
      obtain rfl := Option.some.inj h
      have hlt := token.toNat_lt
      have hslot : (token >>> UInt64.ofNat generationBits).toNat < 0x100000000000000 := by
        rw [toNat_shiftRight]
        omega
      refine ⟨hne, hslot, UInt64.toNat_inj.1 ?_⟩
      rw [toNat_token hslot, UInt64.toNat_toUInt8, toNat_shiftRight]
      show token.toNat / 256 * 256 + token.toNat % 256 = token.toNat
      omega
  · rintro ⟨hne, hslot, rfl⟩
    have hnat := toNat_token hslot
    have hgeneration := id.generation.toNat_lt
    have hupper : (id.token >>> UInt64.ofNat generationBits).toNat = id.slot := by
      rw [toNat_shiftRight, hnat]
      omega
    have hlow : id.token.toUInt8 = id.generation := by
      apply UInt8.toNat_inj.1
      rw [UInt64.toNat_toUInt8, hnat]
      omega
    rw [if_neg hne, hupper, hlow]

/-- Every token but the listener's names a peer, whose token it is. -/
theorem exists_ofToken? (h : token ≠ Token.listener) :
    ∃ id, ofToken? token = some id ∧ id.token = token := by
  have hsome : ofToken? token =
      some ⟨(token >>> UInt64.ofNat generationBits).toNat, token.toUInt8⟩ := if_neg h
  exact ⟨_, hsome, (ofToken?_eq_some_iff.1 hsome).2.2⟩

/-- **A token names its peer.** -/
theorem ofToken?_token (h : id.slot ≤ maxSlot) : ofToken? id.token = some id :=
  ofToken?_eq_some_iff.2 ⟨token_ne_listener h, lt_of_le_maxSlot h, rfl⟩

/-- Different peers have different tokens. -/
theorem token_injective (h : id.slot ≤ maxSlot) (h' : other.slot ≤ maxSlot)
    (heq : id.token = other.token) : id = other := by
  have hsome : some id = some other := by
    rw [← ofToken?_token h, ← ofToken?_token h', heq]
  exact Option.some.inj hsome

end ChatRelay.PeerId
