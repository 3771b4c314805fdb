import ChatRelay.Proofs.Text.Lossy
import Mathlib.Data.Nat.Find
import Mathlib.Data.List.Induction

/-!
# Which pieces are replaced

What the reader makes of bytes that are not UTF-8, said without the reader. A byte string is read from
the front: a character that stands there is read, and otherwise the longest piece with which a character
could begin, or else one byte, becomes one U+FFFD.

- `Begins`, `Subpart`, `Maximal`: such a piece, by the bytes of the characters alone.
- `Reads`: the texts a byte string has under this rule.
- `reads_iff`: there is exactly one, and `decodeLossy` gives it.
- `decodeLossy_append_ascii`: an ASCII byte cuts the text where it cuts the bytes, whatever stands
  before it and behind it.

The reader knows bounds on the next byte, the rule knows characters. `Decoder.Completes` joins the two:
every byte within the bounds keeps the piece on the way to a character. That the bytes of a character
never leave the bounds follows from `Decoder.foldl_step_utf8EncodeChar`, since a reader that leaves them
has one replacement more than the character (`Decoder.exists_unfinished`).
-/

namespace ChatRelay.Text

/-! ### The rule -/

/-- The first bytes of a character. -/
def Begins (bytes : List UInt8) : Prop := ∃ c : Char, bytes <+: String.utf8EncodeChar c

/-- A piece that one replacement can stand for. -/
def Subpart (piece : List UInt8) : Prop := Begins piece ∨ piece.length = 1

/-- No character stands in front of `piece ++ rest`, and no longer piece begins there. -/
structure Maximal (piece rest : List UInt8) : Prop where
  ne_nil : piece ≠ []
  unreadable : ∀ c : Char, ¬ String.utf8EncodeChar c <+: piece ++ rest
  subpart : Subpart piece
  longest : ∀ other, other <+: piece ++ rest → Subpart other → other.length ≤ piece.length

/-- The texts of a byte string: its characters, and one replacement for each maximal piece between
them. -/
inductive Reads : List UInt8 → List Char → Prop where
  | nil : Reads [] []
  | char (c : Char) {rest : List UInt8} {text : List Char} :
    Reads rest text → Reads (String.utf8EncodeChar c ++ rest) (c :: text)
  | piece {piece rest : List UInt8} {text : List Char} :
    Maximal piece rest → Reads rest text → Reads (piece ++ rest) (replacement :: text)

theorem Begins.of_prefix {bytes longer : List UInt8} (h : Begins longer) (hpre : bytes <+: longer) :
    Begins bytes := by
  obtain ⟨c, hc⟩ := h
  exact ⟨c, hpre.trans hc⟩

/-- In front of bytes that no character begins stands a maximal piece. -/
theorem exists_maximal {bytes : List UInt8} (hne : bytes ≠ [])
    (hun : ∀ c : Char, ¬ String.utf8EncodeChar c <+: bytes) :
    ∃ piece rest, bytes = piece ++ rest ∧ Maximal piece rest := by
  classical
  -- the piece is as long as the longest front that is a subpart, and the first byte is one
  let n := Nat.findGreatest (fun n => Subpart (bytes.take n)) bytes.length
  have hlen : 1 ≤ bytes.length := List.length_pos_iff.2 hne
  have hone : Subpart (bytes.take 1) := .inr (by rw [List.length_take]; omega)
  have hpos : 1 ≤ n := Nat.le_findGreatest hlen hone
  have hle : n ≤ bytes.length := Nat.findGreatest_le _
  have htake : (bytes.take n).length = n := by rw [List.length_take]; omega
  refine ⟨bytes.take n, bytes.drop n, (List.take_append_drop n bytes).symm, ?_, ?_, ?_, ?_⟩
  · exact List.ne_nil_of_length_pos (by omega)
  · rwa [List.take_append_drop]
  · exact Nat.findGreatest_spec (P := fun n => Subpart (bytes.take n)) hlen hone
  · intro other hpre hother
    rw [List.take_append_drop] at hpre
    rw [htake]
    refine Nat.le_findGreatest hpre.length_le ?_
    rwa [← List.prefix_iff_eq_take.1 hpre]

theorem utf8EncodeChar_ne_nil (c : Char) : String.utf8EncodeChar c ≠ [] := by
  apply List.ne_nil_of_length_pos
  rw [String.length_utf8EncodeChar]
  exact c.utf8Size_pos

/-- Every byte string has a text. -/
theorem exists_reads (bytes : List UInt8) : ∃ text, Reads bytes text := by
  induction h : bytes.length using Nat.strongRecOn generalizing bytes with
  | _ n ih =>
    have hshorter {front rest : List UInt8} (hbytes : bytes = front ++ rest) (hne : front ≠ []) :
        ∃ text, Reads rest text := by
      refine ih rest.length ?_ rest rfl
      have hpos := List.length_pos_iff.2 hne
      rw [← h, hbytes, List.length_append]
      omega
    by_cases hchar : ∃ c : Char, String.utf8EncodeChar c <+: bytes
    · obtain ⟨c, rest, hbytes⟩ := hchar
      obtain ⟨text, htext⟩ := hshorter hbytes.symm (utf8EncodeChar_ne_nil c)
      exact ⟨c :: text, hbytes ▸ .char c htext⟩
    by_cases hnil : bytes = []
    · exact ⟨[], hnil ▸ .nil⟩
    obtain ⟨piece, rest, hbytes, hmax⟩ := exists_maximal hnil (not_exists.1 hchar)
    obtain ⟨text, htext⟩ := hshorter hbytes hmax.ne_nil
    exact ⟨replacement :: text, hbytes ▸ .piece hmax htext⟩

namespace Decoder

/-! ### Bytes within the bounds -/

/-- Every number of a character has one, and its bytes come from the number. -/
theorem exists_char {v : Nat} (hv : v.isValidChar) : ∃ c, String.utf8EncodeChar c =
    if v ≤ 0x7F then [UInt8.ofNat v]
    else if v ≤ 0x7FF then [UInt8.ofNat (v / 64 % 32 + 0xC0), UInt8.ofNat (v % 64 + 0x80)]
    else if v ≤ 0xFFFF then
      [UInt8.ofNat (v / 4096 % 16 + 0xE0), UInt8.ofNat (v / 64 % 64 + 0x80),
        UInt8.ofNat (v % 64 + 0x80)]
    else
      [UInt8.ofNat (v / 262144 % 8 + 0xF0), UInt8.ofNat (v / 4096 % 64 + 0x80),
        UInt8.ofNat (v / 64 % 64 + 0x80), UInt8.ofNat (v % 64 + 0x80)] :=
  ⟨Char.ofNatAux v hv, rfl⟩

/-- Whatever bytes within the bounds follow `piece`, they make it a character. -/
def Completes (piece : List UInt8) : (further : Nat) → (low high : UInt8) → Prop
  | 0, low, high => ∀ b, low ≤ b → b ≤ high → ∃ c, String.utf8EncodeChar c = piece ++ [b]
  | further + 1, low, high =>
    ∀ b, low ≤ b → b ≤ high → Completes (piece ++ [b]) further 0x80 0xBF

theorem completes_two {a : UInt8} (ha : 0xC2 ≤ a.toNat) (ha' : a.toNat < 0xE0) :
    Completes [a] 0 0x80 0xBF := by
  intro b hb hb'
  simp only [UInt8.le_iff_toNat_le, UInt8.reduceToNat] at hb hb'
  obtain ⟨c, hc⟩ := exists_char (v := (a.toNat - 0xC0) * 64 + (b.toNat - 0x80)) (.inl (by omega))
  refine ⟨c, hc.trans ?_⟩
  rw [if_neg (by omega), if_pos (by omega)]
  simp only [← UInt8.toNat_inj, List.cons_append, List.nil_append, List.cons.injEq,
    UInt8.toNat_ofNat', and_true]
  omega

/-- The bounds on the second of three bytes shut out what fits in two, and surrogates. -/
theorem completes_three {a low high : UInt8} (ha : 0xE0 ≤ a.toNat) (ha' : a.toNat < 0xF0)
    (hlow : 0x80 ≤ low.toNat) (hhigh : high.toNat ≤ 0xBF)
    (hshort : a.toNat = 0xE0 → 0xA0 ≤ low.toNat)
    (hsurrogate : a.toNat = 0xED → high.toNat < 0xA0) : Completes [a] 1 low high := by
  intro b hb hb' d hd hd'
  simp only [UInt8.le_iff_toNat_le, UInt8.reduceToNat] at hb hb' hd hd'
  obtain ⟨c, hc⟩ := exists_char
    (v := (a.toNat - 0xE0) * 4096 + (b.toNat - 0x80) * 64 + (d.toNat - 0x80))
    (by unfold Nat.isValidChar; omega)
  refine ⟨c, hc.trans ?_⟩
  rw [if_neg (by omega), if_neg (by omega), if_pos (by omega)]
  simp only [← UInt8.toNat_inj, List.cons_append, List.nil_append, List.cons.injEq,
    UInt8.toNat_ofNat', and_true]
  omega

/-- The bounds on the second of four bytes shut out what fits in three, and what is beyond the last
code point. -/
theorem completes_four {a low high : UInt8} (ha : 0xF0 ≤ a.toNat) (ha' : a.toNat ≤ 0xF4)
    (hlow : 0x80 ≤ low.toNat) (hhigh : high.toNat ≤ 0xBF)
    (hshort : a.toNat = 0xF0 → 0x90 ≤ low.toNat)
    (hbeyond : a.toNat = 0xF4 → high.toNat < 0x90) : Completes [a] 2 low high := by
  intro b hb hb' d hd hd' e he he'
  simp only [UInt8.le_iff_toNat_le, UInt8.reduceToNat] at hb hb' hd hd' he he'
  obtain ⟨c, hc⟩ := exists_char
    (v := (a.toNat - 0xF0) * 262144 + (b.toNat - 0x80) * 4096 + (d.toNat - 0x80) * 64 +
      (e.toNat - 0x80))
    (by unfold Nat.isValidChar; omega)
  refine ⟨c, hc.trans ?_⟩
  rw [if_neg (by omega), if_neg (by omega), if_neg (by omega)]
  simp only [← UInt8.toNat_inj, List.cons_append, List.nil_append, List.cons.injEq,
    UInt8.toNat_ofNat', and_true]
  omega

/-- A byte within the bounds keeps the piece on the way to a character. -/
theorem Completes.begins {piece : List UInt8} {further : Nat} {low high b : UInt8}
    (h : Completes piece further low high) (hb : low ≤ b) (hb' : b ≤ high) :
    Begins (piece ++ [b]) := by
  induction further generalizing piece low high b with
  | zero =>
    obtain ⟨c, hc⟩ := h b hb hb'
    exact ⟨c, hc ▸ List.prefix_rfl⟩
  | succ further ih =>
    have hlonger := ih (h b hb hb') (UInt8.le_refl 0x80) (by decide)
    exact hlonger.of_prefix (List.prefix_append _ _)

/-- What a first byte does. It is ASCII, it begins nothing, or it sets bounds. -/
theorem start_cases (text : String) (b : UInt8) :
    (b.toNat < 0x80 ∧ start text b = ⟨text.push (Char.ofNat b.toNat), none⟩) ∨
    start text b = ⟨text.push replacement, none⟩ ∨
    ∃ u : Unfinished, start text b = ⟨text, some u⟩ ∧ u.low ≤ u.high ∧
      Completes [b] u.further u.low u.high := by
  have hstart := start_ofNat text b.toNat_lt
  rw [UInt8.ofNat_toNat] at hstart
  generalize start text b = d at hstart
  repeat' split at hstart
  all_goals subst hstart
  · exact .inl ⟨by assumption, rfl⟩
  · exact .inr (.inl rfl)
  on_goal 8 => exact .inr (.inl rfl)
  all_goals refine .inr (.inr ⟨_, rfl, UInt8.le_iff_toNat_le.2 (by simp), ?_⟩)
  -- the first bytes that set bounds, in the order of the table
  all_goals dsimp only
  · exact completes_two (by omega) (by omega)
  · exact completes_three (by omega) (by omega) (by decide) (by decide) (by simp) (by omega)
  · exact completes_three (by omega) (by omega) (by decide) (by decide) (by omega) (by simp)
  · exact completes_three (by omega) (by omega) (by decide) (by decide) (by omega) (by omega)
  · exact completes_four (by omega) (by omega) (by decide) (by decide) (by simp) (by omega)
  · exact completes_four (by omega) (by omega) (by decide) (by decide) (by omega) (by omega)
  · exact completes_four (by omega) (by omega) (by decide) (by decide) (by omega) (by simp)

/-- Bounds that a first byte sets lead to characters. -/
theorem completes_of_start {text : String} {b : UInt8} {u : Unfinished}
    (h : start text b = ⟨text, some u⟩) : Completes [b] u.further u.low u.high := by
  rcases start_cases text b with ⟨-, hstart⟩ | hstart | ⟨v, hstart, -, hcompletes⟩
  · cases congrArg unfinished (hstart.symm.trans h)
  · cases congrArg unfinished (hstart.symm.trans h)
  · cases hstart.symm.trans h
    exact hcompletes

/-- An ASCII byte begins the character it writes. -/
theorem begins_of_ascii {b : UInt8} (hb : b.toNat < 0x80) : Begins [b] := by
  obtain ⟨c, hc⟩ := exists_char (v := b.toNat) (.inl (by omega))
  rw [if_pos (by omega), UInt8.ofNat_toNat] at hc
  exact ⟨c, hc ▸ List.prefix_rfl⟩

/-- A byte that begins no character is replaced on its own. -/
theorem start_of_not_begins {b : UInt8} (h : ¬ Begins [b]) (text : String) :
    start text b = ⟨text.push replacement, none⟩ := by
  rcases start_cases text b with ⟨hb, -⟩ | hstart | ⟨u, -, hbounds, hcompletes⟩
  · exact absurd (begins_of_ascii hb) h
  · exact hstart
  · have hlonger := hcompletes.begins (UInt8.le_refl _) hbounds
    exact absurd (hlonger.of_prefix (List.prefix_append _ _)) h

/-! ### What the reader holds back -/

/-- A first byte adds to the text, or it sets bounds. -/
theorem start_text (text : String) (b : UInt8) :
    ∃ more, (start text b).text.toList = text.toList ++ more ∧
      ((start text b).unfinished = none → more ≠ []) := by
  rcases start_cases text b with ⟨-, hstart⟩ | hstart | ⟨u, hstart, -, -⟩
  · exact ⟨[Char.ofNat b.toNat], by simp [hstart], by simp⟩
  · exact ⟨[replacement], by simp [hstart], by simp⟩
  · exact ⟨[], by simp [hstart], by simp [hstart]⟩

/-- A byte adds to the text, or it leaves a character unfinished. -/
theorem step_text (d : Decoder) (b : UInt8) :
    ∃ more, (step d b).text.toList = d.text.toList ++ more ∧
      ((step d b).unfinished = none → more ≠ []) := by
  unfold step
  split
  · exact start_text d.text b
  · next u hu =>
    split
    · split
      · exact ⟨[Char.ofNat (u.value * 64 + (b.toNat - 0x80))], by simp, by simp⟩
      · exact ⟨[], by simp, by simp⟩
    · obtain ⟨more, hmore, -⟩ := start_text (d.text.push replacement) b
      exact ⟨replacement :: more, by simp [hmore], by simp⟩

/-- Bytes add to the text, or they leave a character unfinished. -/
theorem foldl_step_text (bytes : List UInt8) (d : Decoder) :
    ∃ more, (bytes.foldl step d).text.toList = d.text.toList ++ more ∧
      (bytes ≠ [] → (bytes.foldl step d).unfinished = none → more ≠ []) := by
  induction bytes using List.reverseRecOn with
  | nil => exact ⟨[], by simp, by simp⟩
  | append_singleton bytes b ih =>
    obtain ⟨first, hfirst, -⟩ := ih
    obtain ⟨more, hmore, hnone⟩ := step_text (bytes.foldl step d) b
    rw [List.foldl_append, List.foldl_cons, List.foldl_nil]
    refine ⟨first ++ more, by rw [hmore, hfirst, List.append_assoc], ?_⟩
    intro _ h hnil
    exact hnone h (List.append_eq_nil_iff.1 hnil).2

/-- Only no bytes at all add nothing and leave nothing unfinished. -/
theorem eq_nil_of_foldl_step {bytes : List UInt8} {text : String}
    (h : bytes.foldl step ⟨text, none⟩ = ⟨text, none⟩) : bytes = [] := by
  obtain ⟨more, hmore, hne⟩ := foldl_step_text bytes ⟨text, none⟩
  rw [h] at hmore hne
  by_contra hbytes
  exact hne hbytes rfl (List.self_eq_append_right.1 hmore)

/-- What a byte does that adds nothing to the text. -/
theorem step_of_text_eq {d : Decoder} {b : UInt8} {u : Unfinished}
    (h : step d b = ⟨d.text, some u⟩) :
    d.unfinished = none ∧ start d.text b = ⟨d.text, some u⟩ ∨
    ∃ v, d.unfinished = some v ∧ v.low ≤ b ∧ b ≤ v.high ∧
      v.further = u.further + 1 ∧ u.low = 0x80 ∧ u.high = 0xBF := by
  unfold step at h
  split at h
  · next hnone => exact .inl ⟨hnone, h⟩
  · next v hv =>
    split at h
    · next hb =>
      split at h
      · cases congrArg unfinished h
      · next further hf =>
        cases h
        exact .inr ⟨v, hv, hb.1, hb.2, hf, rfl, rfl⟩
    · obtain ⟨more, hmore, -⟩ := start_text (d.text.push replacement) b
      rw [h] at hmore
      simp at hmore

/-- **Bytes that have added nothing to the text can still become a character**, and the bounds say
how. -/
theorem completes_of_foldl_step {text : String} {piece : List UInt8} {u : Unfinished}
    (h : piece.foldl step ⟨text, none⟩ = ⟨text, some u⟩) :
    Completes piece u.further u.low u.high := by
  induction piece using List.reverseRecOn generalizing u with
  | nil => cases h
  | append_singleton piece b ih =>
    rw [List.foldl_append, List.foldl_cons, List.foldl_nil] at h
    obtain ⟨first, hfirst, -⟩ := foldl_step_text piece ⟨text, none⟩
    obtain ⟨last, hlast, -⟩ := step_text (piece.foldl step ⟨text, none⟩) b
    have hpiece := @eq_nil_of_foldl_step piece text
    generalize piece.foldl step ⟨text, none⟩ = d at h hfirst hlast hpiece ih
    -- the last byte added nothing, so the bytes before it did not either
    have htext : d.text = text := by
      rw [h, hfirst, List.append_assoc, List.self_eq_append_right, List.append_eq_nil_iff] at hlast
      rw [← String.toList_inj, hfirst, hlast.1, List.append_nil]
    subst htext
    rcases step_of_text_eq h with ⟨hnone, hstart⟩ | ⟨v, hv, hb, hb', hf, hlow, hhigh⟩
    · obtain rfl := hpiece (by rw [← hnone])
      exact completes_of_start hstart
    · have hbefore := ih (u := v) (by rw [← hv])
      rw [hf] at hbefore
      rw [hlow, hhigh]
      exact hbefore b hb hb'

/-- The bytes of a character add nothing to the text before the last one. -/
theorem exists_unfinished {c : Char} {piece more : List UInt8}
    (hc : String.utf8EncodeChar c = piece ++ more) (hpiece : piece ≠ []) (hmore : more ≠ [])
    (text : String) : ∃ u, piece.foldl step ⟨text, none⟩ = ⟨text, some u⟩ := by
  have hread := foldl_step_utf8EncodeChar text c
  rw [hc, List.foldl_append] at hread
  obtain ⟨first, hfirst, -⟩ := foldl_step_text piece ⟨text, none⟩
  obtain ⟨last, hlast, hend⟩ := foldl_step_text more (piece.foldl step ⟨text, none⟩)
  have hempty := @eq_nil_of_foldl_step piece text
  generalize piece.foldl step ⟨text, none⟩ = d at hread hfirst hlast hend hempty ⊢
  rw [hread, hfirst] at hlast
  rw [hread] at hend
  -- one character comes out in all, and the bytes behind the piece give one
  have hone : [c] = first ++ last := by simpa using hlast
  have hnil : first = [] := by
    have hpos := List.length_pos_iff.2 (hend hmore rfl)
    have hlen := congrArg List.length hone
    rw [List.length_append, List.length_singleton] at hlen
    exact List.eq_nil_of_length_eq_zero (by omega)
  have htext : d.text = text := by rw [← String.toList_inj, hfirst, hnil, List.append_nil]
  subst htext
  cases hu : d.unfinished with
  | none => exact absurd (hempty (by rw [← hu])) hpiece
  | some u => exact ⟨u, by rw [← hu]⟩

/-! ### Reading by the rule -/

/-- Read all bytes behind a text. -/
def read (text : String) (bytes : List UInt8) : String := (bytes.foldl step ⟨text, none⟩).finish

theorem read_char (text : String) (c : Char) (rest : List UInt8) :
    read text (String.utf8EncodeChar c ++ rest) = read (text.push c) rest := by
  rw [read, List.foldl_append, foldl_step_utf8EncodeChar, read]

/-- A maximal piece is read as one replacement, and what follows it starts anew. -/
theorem read_maximal {piece rest : List UInt8} (h : Maximal piece rest) (text : String) :
    read text (piece ++ rest) = read (text.push replacement) rest := by
  rw [read, List.foldl_append]
  by_cases hbegins : Begins piece
  · obtain ⟨c, more, hc⟩ := hbegins
    have hmore : more ≠ [] := by
      rintro rfl
      rw [List.append_nil] at hc
      exact h.unreadable c (hc ▸ List.prefix_append piece rest)
    obtain ⟨u, hu⟩ := exists_unfinished hc.symm h.ne_nil hmore text
    rw [hu]
    cases rest with
    | nil => rfl
    | cons b rest =>
      -- the next byte is out of the bounds, or a longer piece would begin a character
      have hout : ¬ (u.low ≤ b ∧ b ≤ u.high) := by
        rintro ⟨hb, hb'⟩
        have hlonger := (completes_of_foldl_step hu).begins hb hb'
        have hle := h.longest (piece ++ [b]) (by simp) (.inl hlonger)
        rw [List.length_append, List.length_singleton] at hle
        omega
      rw [List.foldl_cons, step]
      simp only [if_neg hout]
      rfl
  · have hone := h.subpart.resolve_left hbegins
    obtain ⟨b, rfl⟩ := List.length_eq_one_iff.1 hone
    rw [List.foldl_cons, List.foldl_nil, step]
    simp only [start_of_not_begins hbegins]
    rfl

theorem read_of_reads {bytes : List UInt8} {chars : List Char} (h : Reads bytes chars)
    (text : String) : (read text bytes).toList = text.toList ++ chars := by
  induction h generalizing text with
  | nil => simp [read, finish]
  | char c _ ih => rw [read_char, ih]; simp
  | piece hmax _ ih => rw [read_maximal hmax, ih]; simp

/-- Reading starts anew behind a text. -/
theorem toList_read (text : String) (bytes : List UInt8) :
    (read text bytes).toList = text.toList ++ (decodeLossy bytes).toList := by
  obtain ⟨chars, h⟩ := exists_reads bytes
  have hdecode : (decodeLossy bytes).toList = chars := read_of_reads h ""
  rw [read_of_reads h, hdecode]

/-! ### ASCII cuts the text -/

theorem sound_foldl_step (bytes : List UInt8) {d : Decoder} (h : Sound d) :
    Sound (bytes.foldl step d) := by
  induction bytes generalizing d with
  | nil => exact h
  | cons b rest ih => exact ih (sound_step h b)

/-- An ASCII byte ends what is unfinished and adds its own character. -/
theorem step_ascii {d : Decoder} (h : Sound d) {c : Char} (hc : c.toNat < 0x80) :
    step d (UInt8.ofNat c.toNat) = ⟨d.finish.push c, none⟩ := by
  have hlt := toNat_ofNat_of_ascii hc
  have hstart (text : String) : start text (UInt8.ofNat c.toNat) = ⟨text.push c, none⟩ := by
    rw [start, if_pos (UInt8.lt_iff_toNat_lt.2 (by rw [hlt]; exact hc)), hlt, Char.ofNat_toNat]
  unfold step finish
  split
  · exact hstart _
  · next u hu =>
    have hout : ¬ (u.low ≤ UInt8.ofNat c.toNat ∧ UInt8.ofNat c.toNat ≤ u.high) := by
      rintro ⟨hb, -⟩
      have hle := UInt8.le_iff_toNat_le.1 (UInt8.le_trans (h u hu).1 hb)
      rw [hlt] at hle
      exact absurd hc (Nat.not_lt.2 hle)
    rw [if_neg hout]
    exact hstart _

end Decoder

/-- **Lossy reading is the rule.** A byte string has one text, and `decodeLossy` gives it. -/
theorem reads_iff {bytes : List UInt8} {text : List Char} :
    Reads bytes text ↔ text = (decodeLossy bytes).toList := by
  have hdecode {chars : List Char} (h : Reads bytes chars) : chars = (decodeLossy bytes).toList :=
    (Decoder.read_of_reads h "").symm
  constructor
  · exact hdecode
  · intro htext
    obtain ⟨chars, h⟩ := exists_reads bytes
    rw [htext, ← hdecode h]
    exact h

/-- **An ASCII byte cuts the text where it cuts the bytes**: what comes before it and what comes behind
it are read on their own. -/
theorem decodeLossy_append_ascii {c : Char} (hc : c.toNat < 0x80) (front back : List UInt8) :
    decodeLossy (front ++ UInt8.ofNat c.toNat :: back) =
      decodeLossy front ++ String.singleton c ++ decodeLossy back := by
  have hsound := Decoder.sound_foldl_step front (Decoder.sound_none "")
  have hread : decodeLossy (front ++ UInt8.ofNat c.toNat :: back) =
      Decoder.read ((decodeLossy front).push c) back := by
    unfold decodeLossy Decoder.read
    rw [List.foldl_append, List.foldl_cons, show ({} : Decoder) = ⟨"", none⟩ from rfl,
      Decoder.step_ascii hsound hc]
  rw [← String.toList_inj, hread, Decoder.toList_read]
  simp

end ChatRelay.Text
