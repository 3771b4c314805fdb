import ChatRelay.Frame

/-!
# Messages

A chat line once decoded: who wrote it and what it says. A relayed frame is split at its first
newline; both parts are read as text, whatever their bytes are.
-/

namespace ChatRelay

/-- A decoded chat line. -/
structure Message where
  /-- The display name of the sender. -/
  author : String
  body : String
  deriving DecidableEq, Repr, Inhabited

namespace Message

/-- The line as it is shown: the author, a colon and the body. -/
def render (m : Message) : String := m.author ++ ": " ++ m.body

/-- Split a relayed frame, its terminator already taken off, at the first separator. -/
def ofFrame (frame : List UInt8) : Except RelayError Message :=
  match frame.span (· != Frame.separator) with
  | (_, []) => .error .malformedFrame
  | (author, _ :: body) => .ok ⟨Text.decodeLossy author, Text.decodeLossy body⟩

end Message

end ChatRelay
