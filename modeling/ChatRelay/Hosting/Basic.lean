import ChatRelay.Broker.Basic
import ChatRelay.Endpoint.Basic

/-!
# The hosting loops

The program runs a broker or an endpoint in a loop. It waits until standard input or the relay is ready,
feeds the relay what was typed, lets it work, and shows every message it decoded. It stops at the end of
the input; an endpoint also stops when its connection has closed.

- `Wakeup`: what one wait brought.
- `Serving.step`, `Connecting.step`: one turn of the loop of a broker and of an endpoint.
- `run`: a whole loop over the waits to come.
-/

namespace ChatRelay.Hosting

/-- What one wait of the loop brought. -/
structure Wakeup where
  /-- What reading standard input gave, if it was ready. No bytes mean its end. -/
  input : Option (Except IoError (List UInt8)) := none
  /-- Whether the relay was ready. -/
  relay : Bool := false
  /-- How the relay's own wait ends in this turn. -/
  poll : PollOutcome := .delivered [] []

/-- Why the program gives up. -/
inductive Failure where
  /-- Waiting or reading standard input failed. -/
  | io (cause : IoError)
  | relay (cause : RelayError)
  deriving DecidableEq, Repr

/-- The cause by name, with its parts. -/
def Failure.record : Failure → String
  | io cause => cause.record
  | relay cause => cause.record

/-- A loop under way or at its end: the party it hosts, the messages shown so far, and how it ended. -/
structure Progress (α : Type) where
  party : α
  shown : Array Message := #[]
  ending : Option (Except Failure Unit) := none

/-- What the loop does about standard input. -/
inductive Reaction where
  | stop (ending : Except Failure Unit)
  | feed (text : List UInt8)
  | nothing

/-- An input that fails or ends stops the loop. -/
def Wakeup.reaction (w : Wakeup) : Reaction :=
  match w.input with
  | none => .nothing
  | some (.error cause) => .stop (.error (.io cause))
  | some (.ok []) => .stop (.ok ())
  | some (.ok text) => .feed text

namespace Serving

/-- After how many milliseconds accepting is tried again. -/
def retryInterval : Nat := 100

/-- How long the next wait may take, in milliseconds: while accepting is to be tried again the loop
comes back by itself. -/
def patience (b : Broker) : Option Nat := if b.acceptPending then some retryInterval else none

/-- Show every message that waits. -/
def render (p : Progress Broker) : Progress Broker :=
  let (waiting, messages) := p.party.messages.drain
  { p with shown := p.shown ++ waiting.toArray, party := { p.party with messages } }

/-- Let the broker work, if it is ready or has to try accepting again. A failure goes to the log. -/
def work (b : Broker) (w : Wakeup) : Broker :=
  if w.relay || b.acceptPending then (b.update (some 0) fun _ => w.poll).1 else b

/-- One turn of the loop. -/
def step (p : Progress Broker) (wait : Except IoError Wakeup) : Progress Broker :=
  match wait with
  | .error cause => { p with ending := some (.error (.io cause)) }
  | .ok w =>
    match w.reaction with
    | .stop ending => { p with ending := some ending }
    -- Without memory for what was typed it is lost, which goes to the log.
    | .feed text => render { p with party := work (p.party.feed text).1 w }
    | .nothing => render { p with party := work p.party w }

end Serving

namespace Connecting

/-- Show every message that waits. -/
def render (p : Progress Endpoint) : Progress Endpoint :=
  let (waiting, messages) := p.party.messages.drain
  { p with shown := p.shown ++ waiting.toArray, party := { p.party with messages } }

/-- Let the endpoint work, if it is ready. A failure goes to the log. -/
def work (e : Endpoint) (w : Wakeup) : Endpoint :=
  if w.relay then (e.update (some 0) fun _ => w.poll).1 else e

/-- The end of a turn: show what waits, and stop if the connection has closed. -/
def finish (p : Progress Endpoint) : Progress Endpoint :=
  let p := render p
  if p.party.phase = .closed then { p with ending := some (.ok ()) } else p

/-- One turn of the loop. -/
def step (p : Progress Endpoint) (wait : Except IoError Wakeup) : Progress Endpoint :=
  match wait with
  | .error cause => { p with ending := some (.error (.io cause)) }
  | .ok w =>
    match w.reaction with
    | .stop ending => { p with ending := some ending }
    | .feed text =>
      match p.party.feed text with
      | (e, .error cause) => { p with party := e, ending := some (.error (.relay cause)) }
      | (e, .ok ()) => finish { p with party := work e w }
    | .nothing => finish { p with party := work p.party w }

end Connecting

/-- Take turns until the loop ends or no wait is left. -/
def run {α : Type} (step : Progress α → Except IoError Wakeup → Progress α) (p : Progress α) :
    List (Except IoError Wakeup) → Progress α
  | [] => p
  | wait :: rest => if p.ending.isSome then p else run step (step p wait) rest

end ChatRelay.Hosting
