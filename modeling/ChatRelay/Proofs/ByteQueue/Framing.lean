import ChatRelay.Message
import ChatRelay.Proofs.ByteQueue.Transfer
import ChatRelay.Proofs.Framing

/-!
# Frames through a byte queue

A handshake or a relayed line is put into a queue behind whatever waits there, and nothing is escaped. So a
terminator in the author or in the body ends a frame like any other, and a tail that waits becomes part of
the first frame. Where neither can happen, frame for frame the lines come out again.

- `tryPushHandshake_cases`: when a handshake is put into a queue, and why not otherwise.
- `tryPushHandshake_starved`: how a name gets into a queue without its terminator.
- `takeFrames_pushRelayed`: the one frame of a line in a queue in which nothing waits.
- `Relays`: what a queue holds behind any line, and which frames it gives.
- `RelayedLine.Framable`: a line whose parts hold no byte that would cut it elsewhere.
- `relayAll`, `split_relayAll`: lines one after the other, and the frames they give.
- `relays_lines`: both, for every queue, as far as memory is granted.
-/

namespace ChatRelay.DisplayName

/-- A name of some length. -/
def ofLength (length : Nat) : String := String.ofList (List.replicate length 'n')

theorem utf8_ofLength (length : Nat) : Text.utf8 (ofLength length) = List.replicate length 110 := by
  rw [Text.utf8, ofLength, String.toList_ofList, List.flatMap_replicate]
  exact List.flatten_replicate_singleton

theorem length_utf8_ofLength (length : Nat) : (Text.utf8 (ofLength length)).length = length := by
  rw [utf8_ofLength, List.length_replicate]

theorem check_ofLength (length : Nat) : check (ofLength length) = .ok () := by
  rw [check_eq_ok_iff, isFramable_iff, utf8_ofLength]
  simp [List.mem_replicate, Frame.terminator, Frame.separator]

end ChatRelay.DisplayName

namespace ChatRelay.ByteQueue

/-! ### One frame -/

/-- There is one reason to refuse a name. -/
theorem check_cases (name : String) :
    DisplayName.check name = .ok () ∨ DisplayName.check name = .error (.invalidName name) := by
  unfold DisplayName.check
  split
  · exact Or.inl rfl
  · exact Or.inr rfl

/-- **A handshake is appended whole, or the name is refused and nothing changes, or the memory is refused**;
then nothing is appended, or the name without its terminator. -/
theorem tryPushHandshake_cases (name : String) (q : ByteQueue) :
    (DisplayName.check name = .ok () ∧ (q.tryPushHandshake name).2 = .ok () ∧
      (q.tryPushHandshake name).1.unconsumed =
        q.unconsumed ++ Text.utf8 name ++ [Frame.terminator]) ∨
    (DisplayName.check name = .error (.invalidName name) ∧
      q.tryPushHandshake name = (q, .error (.invalidName name))) ∨
    (DisplayName.check name = .ok () ∧
      (∃ size, (q.tryPushHandshake name).2 = .error (.outOfMemory size)) ∧
      ((q.tryPushHandshake name).1.unconsumed = q.unconsumed ∨
        (q.tryPushHandshake name).1.unconsumed = q.unconsumed ++ Text.utf8 name)) := by
  unfold tryPushHandshake
  obtain hcheck | hcheck := check_cases name
  · rw [hcheck]
    obtain ⟨hok, hall⟩ | ⟨front, refused, back, size, hpieces, -, hfailed, hfront⟩ :=
      q.tryPushAll_cases [Text.utf8 name, [Frame.terminator]]
    · exact Or.inl ⟨rfl, hok, by rw [hall]; simp⟩
    · refine Or.inr (Or.inr ⟨rfl, ⟨size, hfailed⟩, ?_⟩)
      rw [hfront]
      -- the refused piece is the name or the terminator
      match front, hpieces with
      | [], _ => exact Or.inl (by simp)
      | [_], hpieces =>
        cases hpieces
        exact Or.inr (by simp)
      | _ :: _ :: front, hpieces =>
        exact absurd (congrArg List.length hpieces) (by simp)
  · rw [hcheck]
    exact Or.inr (Or.inl ⟨rfl, rfl⟩)

theorem tryPushHandshake_of_ample {q : ByteQueue} (h : q.memory.Ample) {name : String}
    (hcheck : DisplayName.check name = .ok ()) :
    (q.tryPushHandshake name).2 = .ok () ∧ (q.tryPushHandshake name).1.memory.Ample := by
  obtain ⟨hall, hample⟩ := tryPushAll_of_ample h [Text.utf8 name, [Frame.terminator]]
  rw [tryPushHandshake, hcheck]
  simp only [hall]
  exact ⟨trivial, hample⟩

/-- Whatever becomes of a handshake, memory that is granted stays so. -/
theorem ample_tryPushHandshake (name : String) {q : ByteQueue} (h : q.memory.Ample) :
    (q.tryPushHandshake name).1.memory.Ample := by
  obtain hcheck | hcheck := check_cases name
  · exact (tryPushHandshake_of_ample h hcheck).2
  · rw [tryPushHandshake, hcheck]
    exact h

/-- A push into an empty queue that fills the region which is asked for. -/
theorem tryPush_ofMemory {bytes : List UInt8} (hlong : minCapacity ≤ bytes.length) (more : List Bool) :
    ∃ q, (ofMemory ⟨true :: more⟩).tryPush bytes = (q, .ok ()) ∧ q.unconsumed = bytes ∧
      q.spare = 0 ∧ q.consumed = 0 ∧ q.memory = ⟨more⟩ := by
  have hpos : 0 < bytes.length := Nat.lt_of_lt_of_le (by decide) hlong
  have hreserve : (ofMemory ⟨true :: more⟩).reserve bytes.length =
      (ofMemory ⟨true :: more⟩).grow bytes.length := by
    have hnone : ¬bytes.length ≤ (ofMemory ⟨true :: more⟩).spare := Nat.not_le.2 hpos
    have hfresh : ¬0 < (ofMemory ⟨true :: more⟩).consumed := Nat.lt_irrefl 0
    rw [reserve, if_neg hnone, if_neg hfresh]
  have hcapacity : ((ofMemory ⟨true :: more⟩).grow bytes.length).capacity = bytes.length := by
    rw [capacity_grow]
    show max (max 0 minCapacity) (0 + bytes.length) = bytes.length
    omega
  have hspare : bytes.length ≤ ((ofMemory ⟨true :: more⟩).grow bytes.length).spare :=
    le_spare_grow rfl _
  refine ⟨((ofMemory ⟨true :: more⟩).grow bytes.length).append bytes hspare, ?_, ?_, ?_, rfl, rfl⟩
  · rw [tryPush, if_neg (by simpa using List.ne_nil_of_length_pos hpos)]
    simp only [hreserve, dif_pos hspare]
  · rw [unconsumed_append, unconsumed_grow]
    rfl
  · show ((ofMemory ⟨true :: more⟩).grow bytes.length).capacity - (#[] ++ bytes.toArray).size = 0
    rw [hcapacity]
    simp

/-- Without spare room and without memory nothing is appended. -/
theorem tryPush_of_refused {q : ByteQueue} (hspare : q.spare = 0) (hconsumed : q.consumed = 0)
    (hrefused : ¬q.memory.grants) (bytes : List UInt8) (hne : bytes ≠ []) :
    ∃ size, q.tryPush bytes = (q.grow bytes.length, .error (.outOfMemory size)) := by
  have hpos : ¬bytes.length ≤ 0 := by
    have := List.length_pos_iff.2 hne
    omega
  have hreserve : q.reserve bytes.length = q.grow bytes.length := by
    rw [reserve, if_neg (by omega), if_neg (by omega)]
  have hfull : ¬bytes.length ≤ (q.grow bytes.length).spare := by
    show ¬bytes.length ≤ (q.grow bytes.length).capacity - q.size
    rw [capacity_grow, if_neg hrefused]
    show ¬bytes.length ≤ q.spare
    omega
  rw [tryPush, if_neg (by simpa using hne)]
  simp only [hreserve, dif_neg hfull]
  exact ⟨_, rfl⟩

/-- **A name that fills the first region is appended, although there is no memory for its terminator.** -/
theorem tryPushHandshake_starved {name : String} (hcheck : DisplayName.check name = .ok ())
    (hlong : minCapacity ≤ (Text.utf8 name).length) (more : List Bool) :
    ∃ q size, (ofMemory ⟨true :: false :: more⟩).tryPushHandshake name =
        (q, .error (.outOfMemory size)) ∧ q.unconsumed = Text.utf8 name ∧ q.memory = ⟨more⟩ := by
  obtain ⟨q, hname, hlive, hspare, hconsumed, hmemory⟩ := tryPush_ofMemory hlong (false :: more)
  obtain ⟨size, hterminator⟩ := tryPush_of_refused hspare hconsumed
    (by rw [hmemory]; exact Bool.false_ne_true) [Frame.terminator] (List.cons_ne_nil _ _)
  refine ⟨q.grow 1, size, ?_, hlive, ?_⟩
  · rw [tryPushHandshake, hcheck]
    simp only [tryPushAll, hname, hterminator]
    rfl
  · show q.memory.rest = ⟨more⟩
    rw [hmemory]
    rfl

/-- A line without terminators is one frame, and the only one if nothing waits in the queue. -/
theorem takeFrames_pushRelayed {q : ByteQueue} (hgranted : q.memory.Ample) (hq : q.unconsumed = [])
    {author body : List UInt8} (hauthor : Frame.terminator ∉ author) (hbody : Frame.terminator ∉ body) :
    (q.pushRelayed author body).takeFrames.1 = [author ++ Frame.separator :: body] ∧
      (q.pushRelayed author body).takeFrames.2.unconsumed = [] := by
  obtain ⟨hframes, htail⟩ := (q.pushRelayed author body).takeFrames_eq
  rw [unconsumed_pushRelayed hgranted, hq, List.nil_append, Frame.split_relayed hauthor hbody]
    at hframes htail
  exact ⟨hframes, htail⟩

/-- What is known of a queue into which one whole line has been put, whatever bytes the line carries. -/
structure Relays (q : ByteQueue) (author body : List UInt8) : Prop where
  /-- The line stands behind the live bytes. -/
  live : (q.pushRelayed author body).unconsumed =
    q.unconsumed ++ author ++ [Frame.separator] ++ body ++ [Frame.terminator]
  /-- The frames are the segments between terminators, of what waited and the line together. -/
  frames : (q.pushRelayed author body).takeFrames.1 =
    (q.unconsumed ++ author ++ [Frame.separator] ++ body).splitOn Frame.terminator
  /-- Each terminator that was there ends a frame, and so does the one of the line. -/
  count : (q.pushRelayed author body).takeFrames.1.length =
    (q.unconsumed ++ author ++ body).count Frame.terminator + 1
  nothing_left : (q.pushRelayed author body).takeFrames.2.pending = 0
  /-- No frame is left to be taken. -/
  all_taken : (q.pushRelayed author body).takeFrames.2.takeFrame? = none

/-- A queue without live bytes has no frame to take. -/
theorem takeFrame?_of_pending {q : ByteQueue} (h : q.pending = 0) : q.takeFrame? = none := by
  rw [takeFrame?_eq_none_iff, pending_eq_zero_iff.1 h]
  exact List.not_mem_nil

/-- Live bytes that end in a terminator are all frames. -/
theorem takeFrames_of_terminated {q : ByteQueue} {bytes : List UInt8}
    (h : q.unconsumed = bytes ++ [Frame.terminator]) :
    q.takeFrames.1 = bytes.splitOn Frame.terminator ∧
      q.takeFrames.1.length = bytes.count Frame.terminator + 1 ∧ q.takeFrames.2.pending = 0 := by
  obtain ⟨hframes, htail⟩ := q.takeFrames_eq
  refine ⟨?_, ?_, ?_⟩
  · rw [hframes, h, Frame.split_append_singleton]
  · rw [hframes, h, Frame.length_split, List.count_append, List.count_singleton_self]
  · rw [pending_eq_zero_iff, htail, h, Frame.split_append_singleton]

theorem relays {q : ByteQueue} {author body : List UInt8}
    (hok : (q.tryPushRelayed author body).2 = .ok ()) : Relays q author body := by
  have hlive : (q.pushRelayed author body).unconsumed =
      (q.unconsumed ++ author ++ [Frame.separator] ++ body) ++ [Frame.terminator] := by
    rw [unconsumed_of_tryPushRelayed hok]
    simp [Frame.relayed]
  obtain ⟨hframes, hcount, hpending⟩ := takeFrames_of_terminated hlive
  constructor
  case live => exact hlive
  case frames => exact hframes
  case count =>
    have hseparator : [Frame.separator].count Frame.terminator = 0 := by decide
    rw [hcount]
    simp only [List.count_append, hseparator, Nat.add_zero]
  case nothing_left => exact hpending
  case all_taken => exact takeFrame?_of_pending hpending

/-! ### Lines one after the other -/

/-- The bytes of a line that is to be relayed. -/
structure RelayedLine where
  author : List UInt8
  body : List UInt8

namespace RelayedLine

/-- The author ends at the separator, and the frame at its terminator. -/
structure Framable (line : RelayedLine) : Prop where
  author_one_line : Frame.separator ∉ line.author
  author_framable : Frame.terminator ∉ line.author
  body_framable : Frame.terminator ∉ line.body

/-- The frame of a line, without its terminator. -/
def frame (line : RelayedLine) : List UInt8 := line.author ++ Frame.separator :: line.body

/-- The message that is read from the line. -/
def message (line : RelayedLine) : Message :=
  ⟨Text.decodeLossy line.author, Text.decodeLossy line.body⟩

/-- The bytes that write a message. -/
def ofMessage (m : Message) : RelayedLine := ⟨Text.utf8 m.author, Text.utf8 m.body⟩

end RelayedLine

/-- Put lines into a queue, one after the other. -/
def relayAll (q : ByteQueue) (lines : List RelayedLine) : ByteQueue :=
  lines.foldl (fun q line => q.pushRelayed line.author line.body) q

theorem unconsumed_relayAll {q : ByteQueue} (hgranted : q.memory.Ample) (lines : List RelayedLine) :
    (q.relayAll lines).unconsumed =
      q.unconsumed ++ lines.flatMap fun line => Frame.relayed line.author line.body := by
  induction lines generalizing q with
  | nil => exact (List.append_nil _).symm
  | cons line rest ih =>
    show ((q.pushRelayed line.author line.body).relayAll rest).unconsumed = _
    rw [ih (tryPushRelayed_of_ample hgranted line.author line.body).2, unconsumed_pushRelayed hgranted,
      List.append_assoc, List.flatMap_cons]

/-- **Lines without a framing byte in the way are one frame each.** -/
theorem split_relayAll {lines : List RelayedLine} (h : ∀ line ∈ lines, line.Framable) :
    Frame.split (lines.flatMap fun line => Frame.relayed line.author line.body) =
      (lines.map RelayedLine.frame, []) := by
  induction lines with
  | nil => rfl
  | cons line rest ih =>
    obtain ⟨hline, hrest⟩ := List.forall_mem_cons.1 h
    have hfirst := Frame.split_relayed hline.author_framable hline.body_framable
    rw [List.flatMap_cons, Frame.split_append_of_tail_nil (congrArg Prod.snd hfirst), hfirst, ih hrest]
    rfl

/-- What is known of a queue into which framable lines have been put. -/
structure RoundTrips (q : ByteQueue) (lines : List RelayedLine) : Prop where
  /-- Each line comes out as one message, in order. -/
  messages : (q.relayAll lines).takeFrames.1.map Message.ofFrame =
    lines.map fun line => .ok line.message
  nothing_left : (q.relayAll lines).takeFrames.2.pending = 0
  /-- A part that is UTF-8 is the text of the message. -/
  author_kept : ∀ line ∈ lines, line.author.toByteArray.IsValidUTF8 →
    (RelayedLine.ofMessage line.message).author = line.author
  body_kept : ∀ line ∈ lines, line.body.toByteArray.IsValidUTF8 →
    (RelayedLine.ofMessage line.message).body = line.body

theorem roundTrips {q : ByteQueue} (hgranted : q.memory.Ample) (hq : q.pending = 0) {lines : List RelayedLine}
    (h : ∀ line ∈ lines, line.Framable) : RoundTrips q lines := by
  obtain ⟨hframes, htail⟩ := (q.relayAll lines).takeFrames_eq
  rw [unconsumed_relayAll hgranted, pending_eq_zero_iff.1 hq, List.nil_append, split_relayAll h] at hframes htail
  constructor
  case messages =>
    rw [hframes, List.map_map]
    exact List.map_congr_left fun line hline =>
      Message.ofFrame_relayed (h line hline).author_one_line line.body
  case nothing_left => rw [pending_eq_zero_iff, htail]
  case author_kept => exact fun _ _ => Text.utf8_decodeLossy
  case body_kept => exact fun _ _ => Text.utf8_decodeLossy

/-- **What is relayed through a queue comes out frame by frame**: whatever a line carries, once it has been
put in, its frames are the segments between terminators. While memory is granted every line can be put in;
and lines whose parts hold no framing byte come out as they went in, read as text, from any queue in which
nothing waits. -/
theorem relays_lines (q : ByteQueue) :
    (∀ author body, (q.tryPushRelayed author body).2 = .ok () → Relays q author body) ∧
      (q.memory.Ample →
        (∀ author body, (q.tryPushRelayed author body).2 = .ok ()) ∧
        (q.pending = 0 → ∀ lines : List RelayedLine, (∀ line ∈ lines, line.Framable) →
          RoundTrips q lines)) :=
  ⟨fun _ _ => relays, fun hgranted =>
    ⟨fun author body => congrArg Prod.snd (tryPushRelayed_of_ample hgranted author body).1,
      fun hq _ => roundTrips hgranted hq⟩⟩

/-- A queue that is full of consumed bytes. -/
def usedQueue : ByteQueue where
  bytes := #[104, 105, 0]
  consumed := 3
  capacity := 3

/-- A line with two newlines in its body, one whose body is not UTF-8, and an empty one. -/
def threeLines : List RelayedLine :=
  [⟨[98, 111, 98], [10, 104, 105, 10]⟩, ⟨[195, 169], [255]⟩, ⟨[], []⟩]

/-- A second newline belongs to the body, and a byte that is not UTF-8 is read as a replacement. -/
theorem relays_lines_used :
    usedQueue.memory.Ample ∧ usedQueue.pending = 0 ∧ (∀ line ∈ threeLines, line.Framable) ∧
      (∀ author body, Relays usedQueue author body) ∧ RoundTrips usedQueue threeLines ∧
      threeLines.map RelayedLine.message =
        [⟨"bob", "\nhi\n"⟩, ⟨"é", "\uFFFD"⟩, ⟨"", ""⟩] := by
  have hgranted : usedQueue.memory.Ample := by decide
  have hpending : usedQueue.pending = 0 := rfl
  have hframable : ∀ line ∈ threeLines, line.Framable := by
    unfold threeLines
    simp only [List.forall_mem_cons, List.not_mem_nil, false_imp_iff, implies_true, and_true]
    exact ⟨⟨by decide, by decide, by decide⟩, ⟨by decide, by decide, by decide⟩,
      ⟨by decide, by decide, by decide⟩⟩
  obtain ⟨hrelays, hwhole⟩ := relays_lines usedQueue
  obtain ⟨hall, htrips⟩ := hwhole hgranted
  exact ⟨hgranted, hpending, hframable, fun author body => hrelays author body (hall author body),
    htrips hpending threeLines hframable, by decide +kernel⟩

end ChatRelay.ByteQueue
