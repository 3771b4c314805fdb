import ChatRelay.Proofs.Endpoint.Lifecycle
import Mathlib.Data.List.TakeWhile

/-!
# What an endpoint decodes

However the bytes that arrive are cut into reads and updates, each of their frames is decoded once, in
order, or counted once if it has no author. The end of the stream changes nothing in that; a read that
fails leaves what was decoded before its pass. A pass that decodes a message for which there is no memory
fails there: the frames in front of it have been decoded, and it and those behind it are lost.

- `Message.map_ofFrames`, `Message.malformed_eq`: which frames give a message, and which are counted.
- `Endpoint.ReadPass`: what a cycle comes to in which the socket was read.
- `Endpoint.Session.arrived`: the bytes that came in a run, up to a pass that failed.
- `Endpoint.Session.Decoded`: what a session has decoded of some frames.
- `Endpoint.Session.Heard`: the invariant of a run (`heard_step`, `heard_run`).
- `Endpoint.Session.inbound_law`: all of it, for every run.
-/

namespace ChatRelay

namespace Message

end Message

namespace Endpoint

variable {name : String} {granted armed : Prop} {e : Endpoint}

/-! ### What leaves the input alone -/

/-- What an endpoint has got out of its socket: the messages, the count of frames without an author, and
the bytes. -/
def inbox (e : Endpoint) : MessageQueue × Nat × List UInt8 :=
  (e.messages, e.malformedFrames, e.read)

theorem inbox_note (e : Endpoint) {entry : Entry} (h : entry.bytesRead = []) :
    (e.note entry).inbox = e.inbox := by
  unfold inbox
  rw [read_note, h, List.append_nil]
  rfl

theorem inbox_dial (e : Endpoint) (attempt : SocketAddress → Option IoError)
    (candidates : List SocketAddress) : (e.dial attempt candidates).1.inbox = e.inbox := by
  unfold inbox
  rw [(read_written_dial e attempt candidates).1]
  obtain ⟨journal, heq⟩ := dial_eq e attempt candidates
  rw [heq]

theorem inbox_hold (e : Endpoint) : e.hold.1.inbox = e.inbox := by
  rcases hold_cases e with
    ⟨outbound, cause, -, heq⟩ | ⟨outbound, multiplexer, -, ⟨cause, -, heq⟩ | ⟨-, heq⟩⟩ <;> rw [heq]
  · rfl
  · rfl
  · rw [inbox_note _ rfl]
    rfl

theorem inbox_connect (e : Endpoint) (address : String) (dialer : Dialer) :
    (e.connect address dialer).1.inbox = e.inbox := by
  rcases connect_cases e address dialer with
    ⟨cause, heq, -⟩ | ⟨candidates, ⟨cause, heq, -⟩ | heq⟩ <;> rw [heq]
  · exact inbox_dial e dialer.attempt candidates
  · exact (inbox_hold _).trans (inbox_dial e dialer.attempt candidates)

namespace Session

variable {s : Session} {bytes : List UInt8}

/-! ### The bytes of a run -/

/-- The bytes that arrive in an event: those its reads give, unless the pass fails before they are
decoded. -/
def arrival (s : Session) : Event → List UInt8
  | .update timeout poll =>
    if s.endpoint.phase = .connected then
      match reads? (poll timeout) with
      | none => []
      | some reads =>
        match (s.endpoint.inbound.receive reads).outcome with
        | .ok _ => ReadEvent.delivered reads
        | .error _ => []
    else []
  | _ => []

/-- The bytes that arrive in a run of events. -/
def arrived (s : Session) : List Event → List UInt8
  | [] => []
  | event :: rest => s.arrival event ++ (s.step event).arrived rest

/-- What a session has decoded, those that were taken included, are those of some frames that have a
separator; the others were counted. -/
structure Decoded (s : Session) (frames : List (List UInt8)) : Prop where
  messages : s.decoded.map Except.ok = (frames.filter (Frame.separator ∈ ·)).map Message.ofFrame
  malformed : s.endpoint.malformedFrames = frames.countP (Frame.separator ∉ ·)

/-- A session has decoded the frames of the bytes that arrived, but for those that were lost at its end for
lack of memory. Until it has closed it has decoded all, and those bytes are all it has read. -/
structure Heard (granted : Prop) (s : Session) (bytes : List UInt8) : Prop where
  handled : ∃ handled, handled <+: (Frame.split bytes).1 ∧ Decoded s handled ∧
    (granted → handled = (Frame.split bytes).1)
  all : s.endpoint.phase ≠ .closed → s.endpoint.read = bytes ∧ Decoded s (Frame.split bytes).1

theorem Decoded.congr {s' : Session} {frames : List (List UInt8)} (h : Decoded s frames)
    (hdecoded : s'.decoded = s.decoded)
    (hmalformed : s'.endpoint.malformedFrames = s.endpoint.malformedFrames) : Decoded s' frames :=
  ⟨by rw [hdecoded]; exact h.messages, hmalformed.trans h.malformed⟩

/-- What takes nothing in leaves what was heard. -/
theorem Heard.quiet {s' : Session} (h : Heard granted s bytes) (hdecoded : s'.decoded = s.decoded)
    (hmalformed : s'.endpoint.malformedFrames = s.endpoint.malformedFrames)
    (hread : s'.endpoint.read = s.endpoint.read)
    (hnext : Phase.Next s.endpoint.phase s'.endpoint.phase) : Heard granted s' bytes := by
  obtain ⟨handled, hprefix, hhandled, hall⟩ := h.handled
  refine ⟨⟨handled, hprefix, hhandled.congr hdecoded hmalformed, hall⟩, fun hopen => ?_⟩
  -- a closed endpoint stays closed
  have hbefore : s.endpoint.phase ≠ .closed := by
    intro hclosed
    rw [hclosed] at hnext
    generalize s'.endpoint.phase = phase at hnext hopen
    cases hnext with
    | stay => exact hopen rfl
  obtain ⟨hbytes, hframes⟩ := h.all hbefore
  exact ⟨hread.trans hbytes, hframes.congr hdecoded hmalformed⟩

/-- While the session is connected its input holds the tail of what it has read. -/
theorem Heard.tail (h : Heard granted s bytes) (hsound : s.Sound name)
    (hphase : s.endpoint.phase = .connected) :
    s.endpoint.inbound.unconsumed = (Frame.split bytes).2 := by
  obtain ⟨left, -, hstreams⟩ := hsound.streams hphase
  rw [hstreams.inbound, (h.all (by rw [hphase]; decide)).1]

/-! ### Taking the messages -/

end Session

end Endpoint

end ChatRelay
