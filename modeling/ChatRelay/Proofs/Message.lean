import ChatRelay.Proofs.ByteQueue.Framing
import ChatRelay.Proofs.Text.Subparts

/-!
# A frame is read once

The author and the body of a relayed frame are read as text on their own. Since the separator is ASCII,
this is the text of the whole frame, even where the bytes beside the separator are no character. And
since text that is written comes back when it is read, a line that has been read once can be relayed as
often as one likes.

- `Message.Relayable`: a line whose author and body hold no framing byte that would cut it elsewhere.
- `Relayable.takeFrames_relayInto`, `Relayable.ofFrame_wire`: such a line is one frame on the wire, and
  the same line behind it.
- `Message.relay`: a line on its way through queues; `Relayable.relay_eq`: it stays what it is.
- `Message.reads_whole_frame`: for any bytes, whether they give a line, which one, and that relaying
  does not change it.
-/

namespace ChatRelay.Message

/-! ### Lines that can be relayed -/

/-- No framing byte is in the way: the author ends at the separator, and the frame at its terminator. -/
structure Relayable (m : Message) : Prop where
  author_one_line : Frame.separator ∉ Text.utf8 m.author
  author_framable : Frame.terminator ∉ Text.utf8 m.author
  body_framable : Frame.terminator ∉ Text.utf8 m.body

/-- The frame in which a line is relayed, without its terminator. -/
def wire (m : Message) : List UInt8 :=
  Text.utf8 m.author ++ Frame.separator :: Text.utf8 m.body

/-- The queue after a line is relayed into it. -/
def relayInto (q : ByteQueue) (m : Message) : ByteQueue :=
  q.pushRelayed (Text.utf8 m.author) (Text.utf8 m.body)

/-- The lines that come out of queues, each relayed into the next one. -/
def relay : List ByteQueue → Message → List (Except RelayError Message)
  | [], m => [.ok m]
  | q :: rest, m => (relayInto q m).takeFrames.1.flatMap fun frame =>
    match ofFrame frame with
    | .error cause => [.error cause]
    | .ok m => relay rest m

variable {m : Message} {q : ByteQueue}

/-- Reading what was written gives the line again. -/
theorem Relayable.ofFrame_wire (h : m.Relayable) : ofFrame m.wire = .ok m := by
  rw [wire, ofFrame_relayed h.author_one_line, Text.decodeLossy_utf8, Text.decodeLossy_utf8]

/-- Exactly one frame comes out of an empty queue, if there is memory for it. -/
theorem Relayable.takeFrames_relayInto (h : m.Relayable) (hgranted : q.memory.Ample)
    (hq : q.unconsumed = []) :
    (relayInto q m).takeFrames.1 = [m.wire] ∧ (relayInto q m).takeFrames.2.unconsumed = [] :=
  ByteQueue.takeFrames_pushRelayed hgranted hq h.author_framable h.body_framable

/-- **A line stays what it is**, however often it is relayed. -/
theorem Relayable.relay_eq (h : m.Relayable) {queues : List ByteQueue}
    (hempty : ∀ q ∈ queues, q.memory.Ample ∧ q.unconsumed = []) : relay queues m = [.ok m] := by
  induction queues with
  | nil => rfl
  | cons q rest ih =>
    rw [List.forall_mem_cons] at hempty
    obtain ⟨⟨hgranted, hq⟩, hrest⟩ := hempty
    rw [relay, (h.takeFrames_relayInto hgranted hq).1, List.flatMap_cons, h.ofFrame_wire]
    exact (List.append_nil _).trans (ih hrest)

/-! ### Frames -/

/-- A frame is malformed exactly if it has no separator. -/
theorem ofFrame_eq_error_iff (frame : List UInt8) :
    ofFrame frame = .error .malformedFrame ↔ Frame.separator ∉ frame := by
  constructor
  · intro h hmem
    obtain ⟨author, body, -, -, hok⟩ := ofFrame_of_mem hmem
    cases h.symm.trans hok
  · intro h
    have hall : ∀ b ∈ frame, (b != Frame.separator) = true := by
      intro b hb
      rw [bne_iff_ne]
      rintro rfl
      exact h hb
    have hdrop : (frame ++ []).dropWhile (· != Frame.separator) = [] :=
      List.dropWhile_append_of_pos hall
    rw [List.append_nil] at hdrop
    rw [ofFrame, List.span_eq_takeWhile_dropWhile, hdrop]

/-- What a frame with a separator gives. -/
structure ReadFrom (frame : List UInt8) (m : Message) : Prop where
  result : ofFrame frame = .ok m
  /-- The author ends at the first newline. -/
  author_one_line : '\n' ∉ m.author.toList
  /-- The two parts with the newline between them are the frame read as text. -/
  whole : m.author ++ "\n" ++ m.body = Text.decodeLossy frame
  /-- They are the only text of the frame in which each maximal piece that is no character is one
  replacement. -/
  replaced : ∀ text : String,
    Text.Reads frame text.toList ↔ text = m.author ++ "\n" ++ m.body
  /-- A frame that came off a wire holds no terminator. The line then comes back unchanged from an
  empty queue that is granted memory, as one frame with nothing behind it. -/
  one_frame : Frame.terminator ∉ frame → ∀ q : ByteQueue, q.memory.Ample → q.unconsumed = [] →
    ∃ again, (relayInto q m).takeFrames.1 = [again] ∧ (relayInto q m).takeFrames.2.unconsumed = [] ∧
      ofFrame again = .ok m
  /-- And so it does after any number of queues. -/
  relayed : Frame.terminator ∉ frame → ∀ queues : List ByteQueue,
    (∀ q ∈ queues, q.memory.Ample ∧ q.unconsumed = []) → relay queues m = [.ok m]

/-- A line read from a frame can be relayed if the frame holds no terminator. -/
theorem relayable_decodeLossy {author body : List UInt8} (hauthor : Frame.separator ∉ author)
    (hterm : Frame.terminator ∉ author ++ Frame.separator :: body) :
    Relayable ⟨Text.decodeLossy author, Text.decodeLossy body⟩ := by
  rw [List.mem_append, List.mem_cons, not_or, not_or] at hterm
  exact ⟨mt (Frame.separator_mem_utf8_iff author).1 hauthor,
    mt (Frame.terminator_mem_utf8_iff author).1 hterm.1,
    mt (Frame.terminator_mem_utf8_iff body).1 hterm.2.2⟩

/-- The newline cuts the text of a frame where the separator cuts its bytes. -/
theorem decodeLossy_append_separator (author body : List UInt8) :
    Text.decodeLossy (author ++ Frame.separator :: body) =
      Text.decodeLossy author ++ "\n" ++ Text.decodeLossy body :=
  Text.decodeLossy_append_ascii (c := '\n') (by decide) author body

/-- **A frame is read once.** Without a separator it is malformed. With one it gives a line, whose
author and body are the text of the whole frame, cut at its first newline; and a line from a frame
without a terminator is not changed by relaying it. -/
theorem reads_whole_frame (frame : List UInt8) :
    (ofFrame frame = .error .malformedFrame ↔ Frame.separator ∉ frame) ∧
      (Frame.separator ∈ frame → ∃ m, ReadFrom frame m) := by
  refine ⟨ofFrame_eq_error_iff frame, ?_⟩
  intro hmem
  obtain ⟨author, body, rfl, hauthor, hok⟩ := ofFrame_of_mem hmem
  refine ⟨⟨Text.decodeLossy author, Text.decodeLossy body⟩, ?_⟩
  constructor
  case result => exact hok
  case author_one_line =>
    rw [Text.mem_decodeLossy_iff (by decide)]
    exact hauthor
  case whole => exact (decodeLossy_append_separator author body).symm
  case replaced =>
    intro text
    rw [Text.reads_iff, String.toList_inj, decodeLossy_append_separator]
  case one_frame =>
    intro hterm q hgranted hq
    have hrelayable := relayable_decodeLossy hauthor hterm
    obtain ⟨hframes, htail⟩ := hrelayable.takeFrames_relayInto hgranted hq
    exact ⟨_, hframes, htail, hrelayable.ofFrame_wire⟩
  case relayed =>
    intro hterm queues hempty
    exact (relayable_decodeLossy hauthor hterm).relay_eq hempty

/-- The separator stands between the bytes of a character, and a surrogate ends the body. -/
def interrupted : List UInt8 := [0x61, 0xE2, 0x82, 0x0A, 0xAC, 0xED, 0xA0]

/-- What is left of the character is replaced on either side of the separator. -/
theorem reads_whole_frame_interrupted :
    Frame.separator ∈ interrupted ∧ Frame.terminator ∉ interrupted ∧
      ReadFrom interrupted ⟨"a\uFFFD", "\uFFFD\uFFFD\uFFFD"⟩ := by
  have hsep : Frame.separator ∈ interrupted := by decide
  have hterm : Frame.terminator ∉ interrupted := by decide
  have hline : ofFrame interrupted = .ok ⟨"a\uFFFD", "\uFFFD\uFFFD\uFFFD"⟩ := by decide +kernel
  obtain ⟨m, hm⟩ := (reads_whole_frame interrupted).2 hsep
  obtain rfl := Except.ok.inj (hline.symm.trans hm.result)
  exact ⟨hsep, hterm, hm⟩

end ChatRelay.Message
