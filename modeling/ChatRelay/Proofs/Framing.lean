import ChatRelay.Message
import ChatRelay.Proofs.Text.Lossy
import Mathlib.Data.List.TakeDrop

/-!
# Cutting bytes into frames

- `Frame.split_append`: what frames a byte string has does not depend on where it is cut; the tail of
  the first part goes before the second.
- `Frame.splitOnP_eq_split`, `Frame.split_append_singleton`: frames are the segments between terminators.
- `Frame.split_relayed`: a relayed line is one frame if neither part holds a terminator.
- `Frame.terminator_mem_utf8_iff`, `Frame.separator_mem_utf8_iff`: a name holds the framing bytes of the
  frame that gave it.
- `Message.ofFrame_relayed`, `Message.ofFrame_relayed_iff`: whom that frame names as its author, and when
  this is the sender.
-/

namespace ChatRelay

namespace Frame

/-- A newline is made a terminator by its own byte only. -/
theorem ofLines_of_not_mem {bytes : List UInt8} (h : separator ∉ bytes) :
    ofLines bytes = bytes := by
  induction bytes with
  | nil => rfl
  | cons b rest ih =>
    rw [List.mem_cons, not_or] at h
    rw [show b :: rest = [b] ++ rest from rfl, ofLines_append, ih h.2]
    simp [ofLines, endLine, Ne.symm h.1]

/-- No newline is left once newlines are terminators. -/
theorem separator_not_mem_ofLines (text : List UInt8) : separator ∉ ofLines text := by
  intro h
  obtain ⟨b, -, hb⟩ := List.mem_map.1 h
  unfold endLine at hb
  split at hb
  · exact absurd hb (by decide)
  · next hne => exact hne hb

/-! ### The frames of a byte string -/

@[simp] theorem split_nil : split [] = ([], []) := rfl

theorem split_terminator_cons (rest : List UInt8) :
    split (terminator :: rest) = ([] :: (split rest).1, (split rest).2) :=
  split_append_terminator List.not_mem_nil rest

/-- A byte that is no terminator joins the first frame, or the tail if there is no frame. -/
theorem split_cons {b : UInt8} (hb : b ≠ terminator) (rest : List UInt8) :
    split (b :: rest) =
      match (split rest).1 with
      | [] => ([], b :: (split rest).2)
      | frame :: frames => ((b :: frame) :: frames, (split rest).2) :=
  if_neg hb

/-- **Frames do not depend on where a byte string is cut**: those of the front come first, then those
of its tail with what follows. -/
theorem split_append (front rest : List UInt8) :
    split (front ++ rest) =
      ((split front).1 ++ (split ((split front).2 ++ rest)).1,
        (split ((split front).2 ++ rest)).2) := by
  induction front with
  | nil => rfl
  | cons b front ih =>
    by_cases hb : b = terminator
    · subst hb
      rw [List.cons_append, split_terminator_cons, split_terminator_cons, ih]
      rfl
    rw [List.cons_append, split_cons hb, split_cons hb, ih]
    -- without a frame in the front the byte goes to its tail, and from there before the rest
    cases h : (split front).1 with
    | nil =>
      simp only [List.nil_append, List.cons_append]
      rw [split_cons hb]
    | cons frame frames => rfl

/-- What follows a byte string without a tail does not touch its frames. -/
theorem split_append_of_tail_nil {front : List UInt8} (h : (split front).2 = [])
    (rest : List UInt8) :
    split (front ++ rest) = ((split front).1 ++ (split rest).1, (split rest).2) := by
  rw [split_append, h, List.nil_append]

/-- The first bytes of a byte string have its first frames. -/
theorem split_prefix {front bytes : List UInt8} (h : front <+: bytes) :
    (split front).1 <+: (split bytes).1 := by
  obtain ⟨rest, rfl⟩ := h
  rw [split_append]
  exact List.prefix_append ..

/-- No frame holds a terminator. -/
theorem terminator_not_mem_of_mem_split {bytes frame : List UInt8} (h : frame ∈ (split bytes).1) :
    terminator ∉ frame := by
  induction bytes generalizing frame with
  | nil => cases h
  | cons b rest ih =>
    by_cases hb : b = terminator
    · subst hb
      rw [split_terminator_cons, List.mem_cons] at h
      rcases h with rfl | h
      · exact List.not_mem_nil
      · exact ih h
    rw [split_cons hb] at h
    cases hs : (split rest).1 with
    | nil =>
      rw [hs] at h
      cases h
    | cons first frames =>
      rw [hs] at h
      rcases List.mem_cons.1 h with rfl | h
      · rw [List.mem_cons, not_or]
        exact ⟨Ne.symm hb, ih (by rw [hs]; exact List.mem_cons_self)⟩
      · exact ih (by rw [hs]; exact List.mem_cons_of_mem _ h)

/-- The tail holds no terminator. -/
theorem terminator_not_mem_tail (bytes : List UInt8) : terminator ∉ (split bytes).2 := by
  induction bytes with
  | nil => exact List.not_mem_nil
  | cons b rest ih =>
    by_cases hb : b = terminator
    · subst hb
      rw [split_terminator_cons]
      exact ih
    rw [split_cons hb]
    cases (split rest).1 with
    | nil =>
      rw [List.mem_cons, not_or]
      exact ⟨Ne.symm hb, ih⟩
    | cons frame frames => exact ih

/-- Every byte of the tail is a byte of the whole. -/
theorem mem_of_mem_tail {bytes : List UInt8} {b : UInt8} (h : b ∈ (split bytes).2) : b ∈ bytes := by
  induction bytes with
  | nil => exact h
  | cons first rest ih =>
    by_cases hb : first = terminator
    · subst hb
      rw [split_terminator_cons] at h
      exact List.mem_cons_of_mem _ (ih h)
    rw [split_cons hb] at h
    cases hs : (split rest).1 with
    | nil =>
      rw [hs] at h
      rcases List.mem_cons.1 h with rfl | h
      · exact List.mem_cons_self
      · exact List.mem_cons_of_mem _ (ih h)
    | cons frame frames =>
      rw [hs] at h
      exact List.mem_cons_of_mem _ (ih h)

/-- A tail whose newlines have become terminators has none left. -/
theorem ofLines_tail (text : List UInt8) :
    ofLines (split (ofLines text)).2 = (split (ofLines text)).2 :=
  ofLines_of_not_mem fun h => separator_not_mem_ofLines text (mem_of_mem_tail h)

/-- Every terminator ends one frame. -/
theorem length_split (bytes : List UInt8) : (split bytes).1.length = bytes.count terminator := by
  induction bytes with
  | nil => rfl
  | cons b rest ih =>
    by_cases hb : b = terminator
    · subst hb
      rw [split_terminator_cons, List.length_cons, ih, List.count_cons_self]
    · rw [split_cons hb, List.count_cons_of_ne hb, ← ih]
      cases (split rest).1 <;> rfl

/-! ### Segments -/

/-- The segments of a text between the bytes that are written as terminators are the frames of what is
written, and its tail is the last of them. -/
theorem splitOnP_eq_split {p : UInt8 → Bool} {f : UInt8 → UInt8} (hend : ∀ b, p b → f b = terminator)
    (hother : ∀ b, ¬p b → f b = b ∧ b ≠ terminator) (text : List UInt8) :
    text.splitOnP p = (split (text.map f)).1 ++ [(split (text.map f)).2] := by
  induction text with
  | nil => rfl
  | cons b rest ih =>
    rw [List.splitOnP_cons_eq_if_modifyHead, ih, List.map_cons]
    by_cases hb : p b
    · rw [if_pos hb, hend b hb, split_terminator_cons]
      rfl
    · obtain ⟨hsame, hne⟩ := hother b hb
      rw [if_neg hb, hsame, split_cons hne]
      -- the byte joins the first segment, which is the tail if there is no other
      cases (split (rest.map f)).1 <;> rfl

theorem splitOn_terminator (bytes : List UInt8) :
    bytes.splitOn terminator = (split bytes).1 ++ [(split bytes).2] := by
  have h := splitOnP_eq_split (p := (· == terminator)) (f := id) (fun b hb => eq_of_beq hb)
    (fun b hb => ⟨rfl, fun heq => hb (beq_iff_eq.2 heq)⟩) bytes
  rwa [List.map_id] at h

/-- A byte string that a terminator follows is all frames: its segments between terminators. -/
theorem split_append_singleton (bytes : List UInt8) :
    split (bytes ++ [terminator]) = (bytes.splitOn terminator, []) := by
  rw [split_append, split_append_terminator (terminator_not_mem_tail bytes), splitOn_terminator]
  rfl

/-! ### Framing bytes in text -/

theorem terminator_mem_utf8_iff (bytes : List UInt8) :
    terminator ∈ Text.utf8 (Text.decodeLossy bytes) ↔ terminator ∈ bytes :=
  Text.mem_utf8_decodeLossy_iff (c := '\x00') (by decide) bytes

theorem separator_mem_utf8_iff (bytes : List UInt8) :
    separator ∈ Text.utf8 (Text.decodeLossy bytes) ↔ separator ∈ bytes :=
  Text.mem_utf8_decodeLossy_iff (c := '\n') (by decide) bytes

/-! ### Relayed lines -/

/-- A relayed line ends its last frame, whatever bytes it carries. -/
theorem tail_relayed (author body : List UInt8) : (split (relayed author body)).2 = [] := by
  rw [relayed, split_append_singleton]

/-- A relayed line is one frame if neither part holds a terminator. -/
theorem split_relayed {author body : List UInt8} (ha : terminator ∉ author)
    (hb : terminator ∉ body) :
    split (relayed author body) = ([author ++ separator :: body], []) := by
  have hnot : terminator ∉ author ++ separator :: body := by
    rw [List.mem_append, List.mem_cons, not_or, not_or]
    exact ⟨ha, by decide, hb⟩
  have h := split_append_terminator hnot []
  rw [split_nil] at h
  rw [← h]
  simp [relayed]

end Frame

/-- A name that passes the check holds neither framing byte. -/
theorem DisplayName.isFramable_iff (name : String) :
    isFramable name ↔ Frame.terminator ∉ Text.utf8 name ∧ Frame.separator ∉ Text.utf8 name := by
  simp only [isFramable, List.all_eq_true, Bool.and_eq_true, bne_iff_ne]
  constructor
  · intro h
    exact ⟨fun hmem => (h _ hmem).1 rfl, fun hmem => (h _ hmem).2 rfl⟩
  · rintro ⟨hterm, hsep⟩ b hb
    exact ⟨fun heq => hterm (heq ▸ hb), fun heq => hsep (heq ▸ hb)⟩

theorem DisplayName.check_eq_ok_iff (name : String) : check name = .ok () ↔ isFramable name := by
  rw [check]
  split
  · next h => exact iff_of_true rfl h
  · next h => exact iff_of_false nofun h

namespace Message

/-- A frame is split at the first separator. -/
theorem ofFrame_relayed {author : List UInt8} (h : Frame.separator ∉ author) (body : List UInt8) :
    ofFrame (author ++ Frame.separator :: body) =
      .ok ⟨Text.decodeLossy author, Text.decodeLossy body⟩ := by
  unfold ofFrame
  have hspan : (author ++ Frame.separator :: body).span (· != Frame.separator) =
      (author, Frame.separator :: body) := by
    have hall : ∀ b ∈ author, (b != Frame.separator) = true := by
      intro b hb
      rw [bne_iff_ne]
      rintro rfl
      exact h hb
    rw [List.span_eq_takeWhile_dropWhile, List.takeWhile_append_of_pos hall,
      List.dropWhile_append_of_pos hall]
    simp
  rw [hspan]

/-- A frame with a separator has an author and gives a message. -/
theorem ofFrame_of_mem {frame : List UInt8} (h : Frame.separator ∈ frame) :
    ∃ author body, frame = author ++ Frame.separator :: body ∧ Frame.separator ∉ author ∧
      ofFrame frame = .ok ⟨Text.decodeLossy author, Text.decodeLossy body⟩ := by
  obtain ⟨author, body, rfl, hnot⟩ := List.eq_append_cons_of_mem h
  exact ⟨author, body, rfl, hnot, ofFrame_relayed hnot body⟩

/-- Whatever the name holds, a relayed line gives a message. It has the right author, and is the message
that was meant, exactly if the name holds no separator. -/
theorem ofFrame_relayed_iff (name : String) (body : List UInt8) :
    ∃ message, ofFrame (Text.utf8 name ++ Frame.separator :: body) = .ok message ∧
      (message = ⟨name, Text.decodeLossy body⟩ ↔ Frame.separator ∉ Text.utf8 name) ∧
      (message.author = name ↔ Frame.separator ∉ Text.utf8 name) := by
  by_cases hname : Frame.separator ∉ Text.utf8 name
  · refine ⟨_, ofFrame_relayed hname body, ?_⟩
    rw [Text.decodeLossy_utf8]
    exact ⟨iff_of_true rfl hname, iff_of_true rfl hname⟩
  -- the author that is decoded holds no separator, so it is not the name
  obtain ⟨author, rest, -, hauthor, hdecoded⟩ :=
    ofFrame_of_mem (List.mem_append_right (Text.utf8 name) (List.mem_cons_self (l := body)))
  have hne : Text.decodeLossy author ≠ name := by
    rintro rfl
    exact hname (mt (Frame.separator_mem_utf8_iff author).1 hauthor)
  refine ⟨_, hdecoded, iff_of_false (fun heq => hne ?_) hname, iff_of_false hne hname⟩
  exact congrArg Message.author heq

end Message

end ChatRelay
