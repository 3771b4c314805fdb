import ChatRelay.Text.Utf8

/-!
# Lossy text

Reading bytes as text loses what is not UTF-8 and nothing else.

- `decodeLossy_utf8`, `utf8_decodeLossy`: a text that was written comes back when it is read, and bytes
  that are UTF-8 come back when they are read and written.
- `mem_utf8_decodeLossy_iff`: reading and writing again keeps every ASCII byte and adds none, so that
  no framing byte can come out of bytes that hold none.

The first statement follows the three shapes of a character of several bytes. The second needs that a
character of several bytes is never ASCII, whatever its bytes are: `Decoder.OnlyWide` says so of the
bounds that the reader sets on the bytes to come, and `Decoder.sound_step` is its invariant.
-/

namespace ChatRelay.Text

namespace Decoder

/-! ### Characters that were written -/

/-- The first byte of a character, by its number. -/
theorem start_ofNat (text : String) {n : Nat} (hn : n < 256) :
    start text (UInt8.ofNat n) =
      if n < 0x80 then ⟨text.push (Char.ofNat n), none⟩
      else if n < 0xC2 then ⟨text.push replacement, none⟩
      else if n < 0xE0 then ⟨text, some ⟨0, n - 0xC0, 0x80, 0xBF⟩⟩
      else if n = 0xE0 then ⟨text, some ⟨1, 0, 0xA0, 0xBF⟩⟩
      else if n = 0xED then ⟨text, some ⟨1, 0xD, 0x80, 0x9F⟩⟩
      else if n < 0xF0 then ⟨text, some ⟨1, n - 0xE0, 0x80, 0xBF⟩⟩
      else if n = 0xF0 then ⟨text, some ⟨2, 0, 0x90, 0xBF⟩⟩
      else if n < 0xF4 then ⟨text, some ⟨2, n - 0xF0, 0x80, 0xBF⟩⟩
      else if n = 0xF4 then ⟨text, some ⟨2, 4, 0x80, 0x8F⟩⟩
      else ⟨text.push replacement, none⟩ := by
  have hmod : (UInt8.ofNat n).toNat = n := by simp; omega
  simp only [start, UInt8.lt_iff_toNat_lt, ← UInt8.toNat_inj, hmod]
  rfl

/-- A byte that continues the unfinished character, by its number. -/
theorem step_ofNat (text : String) {further value n : Nat} {low high : UInt8} (hn : n < 64)
    (hlow : low.toNat ≤ n + 0x80) (hhigh : n + 0x80 ≤ high.toNat) :
    step ⟨text, some ⟨further, value, low, high⟩⟩ (UInt8.ofNat (n + 0x80)) =
      match further with
      | 0 => ⟨text.push (Char.ofNat (value * 64 + n)), none⟩
      | further + 1 => ⟨text, some ⟨further, value * 64 + n, 0x80, 0xBF⟩⟩ := by
  have hmod : (UInt8.ofNat (n + 0x80)).toNat = n + 0x80 := by simp; omega
  cases further <;>
    simp only [step, UInt8.le_iff_toNat_le, hmod, hlow, hhigh, and_self, if_true,
      Nat.add_sub_cancel]

/-- The first byte of a three-byte character bounds the second as its number needs. -/
theorem start_three (text : String) {v : Nat} (hlow : 0x7FF < v) (hhigh : v ≤ 0xFFFF)
    (hvalid : v < 0xD800 ∨ 0xDFFF < v) :
    ∃ low high, start text (UInt8.ofNat (v / 4096 % 16 + 0xE0)) =
      ⟨text, some ⟨1, v / 4096, low, high⟩⟩ ∧
      low.toNat ≤ v / 64 % 64 + 0x80 ∧ v / 64 % 64 + 0x80 ≤ high.toNat := by
  rw [start_ofNat text (by omega), if_neg (by omega), if_neg (by omega), if_neg (by omega)]
  by_cases h0 : v / 4096 = 0
  · rw [if_pos (by omega), h0]
    exact ⟨_, _, rfl, by simp; omega, by simp; omega⟩
  rw [if_neg (by omega)]
  by_cases h13 : v / 4096 = 0xD
  · rw [if_pos (by omega), h13]
    exact ⟨_, _, rfl, by simp, by simp; omega⟩
  rw [if_neg (by omega), if_pos (by omega), show v / 4096 % 16 + 0xE0 - 0xE0 = v / 4096 by omega]
  exact ⟨_, _, rfl, by simp, by simp; omega⟩

/-- The first byte of a four-byte character bounds the second as its number needs. -/
theorem start_four (text : String) {v : Nat} (hlow : 0xFFFF < v) (hhigh : v < 0x110000) :
    ∃ low high,
      start text (UInt8.ofNat (v / 262144 % 8 + 0xF0)) = ⟨text, some ⟨2, v / 262144, low, high⟩⟩ ∧
      low.toNat ≤ v / 4096 % 64 + 0x80 ∧ v / 4096 % 64 + 0x80 ≤ high.toNat := by
  rw [start_ofNat text (by omega), if_neg (by omega), if_neg (by omega), if_neg (by omega),
    if_neg (by omega), if_neg (by omega), if_neg (by omega)]
  by_cases h0 : v / 262144 = 0
  · rw [if_pos (by omega), h0]
    exact ⟨_, _, rfl, by simp; omega, by simp; omega⟩
  rw [if_neg (by omega)]
  by_cases h4 : v / 262144 = 4
  · rw [if_neg (by omega), if_pos (by omega), h4]
    exact ⟨_, _, rfl, by simp, by simp; omega⟩
  rw [if_pos (by omega), show v / 262144 % 8 + 0xF0 - 0xF0 = v / 262144 by omega]
  exact ⟨_, _, rfl, by simp, by simp; omega⟩

/-- Reading the bytes of a character reads the character. -/
theorem foldl_step_utf8EncodeChar (text : String) (c : Char) :
    (String.utf8EncodeChar c).foldl step ⟨text, none⟩ = ⟨text.push c, none⟩ := by
  -- one case for each number of bytes; in each the pieces of the number are put together again
  have hc : Char.ofNat c.val.toNat = c := Char.ofNat_toNat c
  have hvalid : c.val.toNat < 0xD800 ∨ 0xDFFF < c.val.toNat ∧ c.val.toNat < 0x110000 := c.valid
  have hstart (b : UInt8) : step ⟨text, none⟩ b = start text b := rfl
  unfold String.utf8EncodeChar
  generalize c.val.toNat = v at hc hvalid
  simp only
  split
  · rw [List.foldl_cons, List.foldl_nil, hstart, start_ofNat text (by omega), if_pos (by omega), hc]
  split
  · rw [List.foldl_cons, List.foldl_cons, List.foldl_nil, hstart, start_ofNat text (by omega),
      if_neg (by omega), if_neg (by omega), if_pos (by omega),
      step_ofNat _ (by omega) (by simp) (by simp; omega)]
    simp only
    rw [show (v / 64 % 32 + 0xC0 - 0xC0) * 64 + v % 64 = v by omega, hc]
  split
  · obtain ⟨low, high, hs, hl, hh⟩ := start_three text (v := v) (by omega) (by omega) (by omega)
    rw [List.foldl_cons, List.foldl_cons, List.foldl_cons, List.foldl_nil, hstart, hs,
      step_ofNat _ (by omega) hl hh]
    simp only
    rw [step_ofNat _ (by omega) (by simp) (by simp; omega)]
    simp only
    rw [show (v / 4096 * 64 + v / 64 % 64) * 64 + v % 64 = v by omega, hc]
  · obtain ⟨low, high, hs, hl, hh⟩ := start_four text (v := v) (by omega) (by omega)
    rw [List.foldl_cons, List.foldl_cons, List.foldl_cons, List.foldl_cons,
      List.foldl_nil, hstart, hs, step_ofNat _ (by omega) hl hh]
    simp only
    rw [step_ofNat _ (by omega) (by simp) (by simp; omega)]
    simp only
    rw [step_ofNat _ (by omega) (by simp) (by simp; omega)]
    simp only
    rw [show ((v / 262144 * 64 + v / 4096 % 64) * 64 + v / 64 % 64) * 64 + v % 64 = v by omega, hc]

/-! ### What an unfinished character can become -/

/-- The number of a character beyond ASCII. -/
def IsWide (n : Nat) : Prop := 0x80 ≤ n ∧ n.isValidChar

/-- Whatever bytes within the bounds follow, a character beyond ASCII comes out. -/
def OnlyWide : (further value : Nat) → (low high : UInt8) → Prop
  | 0, value, low, high => ∀ b, low ≤ b → b ≤ high → IsWide (value * 64 + (b.toNat - 0x80))
  | further + 1, value, low, high =>
    ∀ b, low ≤ b → b ≤ high → OnlyWide further (value * 64 + (b.toNat - 0x80)) 0x80 0xBF

/-- A reader whose unfinished character, if any, takes no ASCII byte and can only become one beyond
ASCII. -/
def Sound (d : Decoder) : Prop :=
  ∀ u, d.unfinished = some u → 0x80 ≤ u.low ∧ OnlyWide u.further u.value u.low u.high

theorem sound_none (text : String) : Sound ⟨text, none⟩ := fun _ h => nomatch h

theorem sound_some {text : String} {further value : Nat} {low high : UInt8} (hlow : 0x80 ≤ low)
    (hwide : OnlyWide further value low high) : Sound ⟨text, some ⟨further, value, low, high⟩⟩ := by
  intro _ hu
  cases hu
  exact ⟨hlow, hwide⟩

/-- The first byte of a character sets bounds that let only characters beyond ASCII come out. -/
theorem sound_start (text : String) (b : UInt8) : Sound (start text b) := by
  unfold start
  repeat' split
  -- either nothing is left unfinished, or the bounds are numbers and arithmetic decides
  all_goals first
    | exact sound_none _
    | (refine sound_some (by decide) ?_
       simp only [OnlyWide, IsWide, Nat.isValidChar, UInt8.le_iff_toNat_le, UInt8.lt_iff_toNat_lt,
         ← UInt8.toNat_inj, UInt8.reduceToNat] at *
       intros
       omega)

theorem sound_step {d : Decoder} (h : Sound d) (b : UInt8) : Sound (step d b) := by
  unfold step
  split
  · exact sound_start _ _
  · next u hu =>
    split
    · next hb =>
      have hwide := (h u hu).2
      split
      · exact sound_none _
      · next further hf =>
        rw [hf] at hwide
        exact sound_some (by decide) (hwide b hb.1 hb.2)
    · exact sound_start _ _

/-! ### ASCII -/

theorem toNat_ofNat_of_ascii {c : Char} (hc : c.toNat < 0x80) :
    (UInt8.ofNat c.toNat).toNat = c.toNat := by
  simp
  omega

theorem ne_ofNat_of_isWide {c : Char} (hc : c.toNat < 0x80) {n : Nat} (h : IsWide n) :
    c ≠ Char.ofNat n := by
  rintro rfl
  rw [Char.ofNat, dif_pos h.2] at hc
  exact absurd h.1 (Nat.not_le.2 hc)

theorem ne_replacement {c : Char} (hc : c.toNat < 0x80) : c ≠ replacement := by
  rintro rfl
  exact absurd hc (by decide)

/-- A first byte gives an ASCII character if it is the byte of that character. -/
theorem mem_start_iff {c : Char} (hc : c.toNat < 0x80) (text : String) (b : UInt8) :
    c ∈ (start text b).text.toList ↔ c ∈ text.toList ∨ UInt8.ofNat c.toNat = b := by
  have hlt := toNat_ofNat_of_ascii hc
  by_cases hb : b < 0x80
  · have hchar : c = Char.ofNat b.toNat ↔ UInt8.ofNat c.toNat = b := by
      rw [← UInt8.toNat_inj, hlt]
      constructor
      · rintro rfl
        have hlt := UInt8.lt_iff_toNat_lt.1 hb
        rw [Char.ofNat, dif_pos (Or.inl (Nat.lt_trans hlt (by decide)))]
        rfl
      · intro h
        rw [← h, Char.ofNat_toNat]
    simp [start, hb, hchar]
  · have hne : UInt8.ofNat c.toNat ≠ b := by
      rintro rfl
      exact hb (UInt8.lt_iff_toNat_lt.2 (by rw [hlt]; exact hc))
    simp only [start, if_neg hb]
    repeat' split
    all_goals simp [ne_replacement hc, hne]

/-- A byte gives an ASCII character only by being the byte of that character. -/
theorem mem_step_iff {c : Char} (hc : c.toNat < 0x80) {d : Decoder} (h : Sound d) (b : UInt8) :
    c ∈ (step d b).text.toList ↔ c ∈ d.text.toList ∨ UInt8.ofNat c.toNat = b := by
  unfold step
  split
  · exact mem_start_iff hc _ _
  · next u hu =>
    split
    · next hb =>
      obtain ⟨hlow, hwide⟩ := h u hu
      have hne : UInt8.ofNat c.toNat ≠ b := by
        rintro rfl
        have hle := UInt8.le_iff_toNat_le.1 (UInt8.le_trans hlow hb.1)
        rw [toNat_ofNat_of_ascii hc] at hle
        exact absurd hc (Nat.not_lt.2 hle)
      split
      · next hf =>
        rw [hf] at hwide
        simp [ne_ofNat_of_isWide hc (hwide b hb.1 hb.2), hne]
      · simp [hne]
    · rw [mem_start_iff hc]
      simp [ne_replacement hc]

theorem mem_foldl_step_iff {c : Char} (hc : c.toNat < 0x80) (bytes : List UInt8) {d : Decoder}
    (h : Sound d) :
    c ∈ (bytes.foldl step d).text.toList ↔ c ∈ d.text.toList ∨ UInt8.ofNat c.toNat ∈ bytes := by
  induction bytes generalizing d with
  | nil => simp
  | cons b rest ih =>
    rw [List.foldl_cons, ih (sound_step h b), mem_step_iff hc h, List.mem_cons, or_assoc]

theorem mem_finish_iff {c : Char} (hc : c.toNat < 0x80) (d : Decoder) :
    c ∈ d.finish.toList ↔ c ∈ d.text.toList := by
  unfold finish
  split
  · rfl
  · simp [ne_replacement hc]

/-- Reading the bytes of characters reads the characters. -/
theorem foldl_step_flatMap (text : String) (chars : List Char) :
    (chars.flatMap String.utf8EncodeChar).foldl step ⟨text, none⟩ =
      ⟨chars.foldl String.push text, none⟩ := by
  induction chars generalizing text with
  | nil => rfl
  | cons c chars ih =>
    rw [List.flatMap_cons, List.foldl_append, foldl_step_utf8EncodeChar, ih, List.foldl_cons]

theorem toList_foldl_push (text : String) (chars : List Char) :
    (chars.foldl String.push text).toList = text.toList ++ chars := by
  induction chars generalizing text with
  | nil => simp
  | cons c chars ih => simp [ih]

end Decoder

/-- Text survives being written and read. -/
@[simp] theorem decodeLossy_utf8 (s : String) : decodeLossy (utf8 s) = s := by
  have h := Decoder.foldl_step_flatMap "" s.toList
  have hpush : s.toList.foldl String.push "" = s := by
    rw [← String.toList_inj, Decoder.toList_foldl_push]
    rfl
  unfold decodeLossy utf8
  rw [show ({} : Decoder) = ⟨"", none⟩ from rfl, h]
  exact hpush

/-- So do bytes that are UTF-8 when they are read and written. -/
theorem utf8_decodeLossy {bytes : List UInt8} (h : bytes.toByteArray.IsValidUTF8) :
    utf8 (decodeLossy bytes) = bytes := by
  obtain ⟨chars, hchars⟩ := h
  have hbytes : bytes = utf8 (String.ofList chars) := by
    rw [utf8, String.toList_ofList]
    exact List.toByteArray_inj.1 hchars
  rw [hbytes, decodeLossy_utf8]

/-- An ASCII character comes out of bytes exactly if its byte is among them. -/
theorem mem_decodeLossy_iff {c : Char} (hc : c.toNat < 0x80) (bytes : List UInt8) :
    c ∈ (decodeLossy bytes).toList ↔ UInt8.ofNat c.toNat ∈ bytes := by
  unfold decodeLossy
  rw [Decoder.mem_finish_iff hc, Decoder.mem_foldl_step_iff hc bytes (Decoder.sound_none "")]
  simp

/-- The byte of an ASCII character is among those of a text exactly if the character is in it. -/
theorem mem_utf8_iff {c : Char} (hc : c.toNat < 0x80) (s : String) :
    UInt8.ofNat c.toNat ∈ utf8 s ↔ c ∈ s.toList := by
  rw [← mem_decodeLossy_iff hc, decodeLossy_utf8]

/-- Reading bytes as text and writing it again keeps every ASCII byte and adds none. -/
theorem mem_utf8_decodeLossy_iff {c : Char} (hc : c.toNat < 0x80) (bytes : List UInt8) :
    UInt8.ofNat c.toNat ∈ utf8 (decodeLossy bytes) ↔ UInt8.ofNat c.toNat ∈ bytes := by
  rw [mem_utf8_iff hc, mem_decodeLossy_iff hc]

end ChatRelay.Text
