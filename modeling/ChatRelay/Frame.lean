import ChatRelay.Text.Utf8
import ChatRelay.RelayError

/-!
# Frames

A frame is a byte string ended by one NUL. Frames follow each other with nothing between them:

```text
handshake (endpoint to broker):  <display name> NUL
chat line (endpoint to broker):  <body> NUL
relayed   (broker to endpoint):  <author> newline <body> NUL
```

Nothing is escaped, so a NUL inside a text ends a frame early.

- `Frame.ofLines`: a text with every newline made a terminator.
- `Frame.split`: the frames of a byte string, and the tail that no terminator ends.
- `DisplayName.check`: which names fit in one frame and carry no author separator.
-/

namespace ChatRelay

namespace Frame

/-- The byte that ends a frame. -/
def terminator : UInt8 := 0

/-- The byte between the author and the body of a relayed frame. -/
def separator : UInt8 := 10

/-- A newline becomes a terminator, and any other byte stays. -/
def endLine (b : UInt8) : UInt8 := if b = separator then terminator else b

/-- Make every newline a terminator. -/
def ofLines (text : List UInt8) : List UInt8 := text.map endLine

@[simp] theorem ofLines_append (s t : List UInt8) : ofLines (s ++ t) = ofLines s ++ ofLines t := by
  simp [ofLines]

@[simp] theorem length_ofLines (s : List UInt8) : (ofLines s).length = s.length := by
  simp [ofLines]

/-- The complete frames of a byte string, without their terminators, and the unfinished tail. -/
def split : List UInt8 → List (List UInt8) × List UInt8
  | [] => ([], [])
  | b :: rest =>
    let (frames, tail) := split rest
    if b = terminator then ([] :: frames, tail)
    else match frames with
      | [] => ([], b :: tail)
      | frame :: frames => ((b :: frame) :: frames, tail)

/-- A byte string without a terminator is all tail. -/
theorem split_of_not_mem {bs : List UInt8} (h : terminator ∉ bs) : split bs = ([], bs) := by
  induction bs with
  | nil => rfl
  | cons b rest ih =>
    rw [List.mem_cons, not_or] at h
    simp [split, ih h.2, Ne.symm h.1]

/-- A frame in front of a byte string is its first frame. -/
theorem split_append_terminator {frame : List UInt8} (h : terminator ∉ frame) (rest : List UInt8) :
    split (frame ++ terminator :: rest) = (frame :: (split rest).1, (split rest).2) := by
  induction frame with
  | nil => simp [split]
  | cons b frame ih =>
    rw [List.mem_cons, not_or] at h
    simp [split, ih h.2, Ne.symm h.1]

/-- A relayed frame with its terminator. -/
def relayed (author body : List UInt8) : List UInt8 :=
  author ++ separator :: body ++ [terminator]

/-- The pieces of a relayed frame. -/
def pieces (author body : List UInt8) : List (List UInt8) := [author, [separator], body, [terminator]]

/-- A handshake frame with its terminator. -/
def handshake (name : String) : List UInt8 := Text.utf8 name ++ [terminator]

end Frame

namespace DisplayName

/-- Whether a name can travel as a handshake and as an author: it holds neither framing byte. -/
def isFramable (name : String) : Bool :=
  (Text.utf8 name).all fun b => b != Frame.terminator && b != Frame.separator

/-- Refuse a name that holds a framing byte. -/
def check (name : String) : Except RelayError Unit :=
  if isFramable name then .ok () else .error (.invalidName name)

end DisplayName

end ChatRelay
