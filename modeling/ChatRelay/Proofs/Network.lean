import ChatRelay.Proofs.Broker.Session
import ChatRelay.Proofs.Endpoint.Session
import Mathlib.Data.Fintype.Basic
import Mathlib.Logic.Function.Basic

/-!
# A broker and its endpoints

A network is the session of a broker, the *hub*, and sessions of endpoints, each with an ordered pipe to
the hub and one back. Whatever an endpoint or the hub writes is put into a pipe; what it reads must be at
the front of the other, and may be any part of it. Everything else is free: the order of the actions, how
reads and writes are cut, the other peers of the hub, and what the multiplexers and the allocators answer.

- `Network.Action`, `Network.step`: an event of an endpoint or of the hub, and what it moves.
- `Network.Allows`, `Network.Runs`: that the pipes hold what is read.
- `Network.Sound`: the invariant (`sound_step`, `sound_run`): at both ends of a pipe the streams agree but
  for what is in it.
-/

namespace ChatRelay

open ChatRelay.Broker.Traffic

/-- An endpoint in a network. -/
structure Seat where
  session : Endpoint.Session
  /-- The number of its connection at the hub, once it is accepted. -/
  connection : Option Nat := none
  /-- The bytes on their way to the hub. -/
  up : List UInt8 := []
  /-- The bytes on their way to the endpoint. -/
  down : List UInt8 := []

/-- A hub and the endpoints that connect to it. -/
structure Network (ι : Type) where
  hub : Broker.Session
  seats : ι → Seat

/-- What the hub has read from a connection, if there is one. -/
def receivedOver (connection : Option Nat) (entries : List Broker.Entry) : List UInt8 :=
  connection.elim [] (received · entries)

/-- What the hub has written to a connection, if there is one. -/
def writtenOver (connection : Option Nat) (entries : List Broker.Entry) : List UInt8 :=
  connection.elim [] (written · entries)

namespace Seat

/-- The bytes that the endpoint reads in an event. -/
def readBy (seat : Seat) (event : Endpoint.Event) : List UInt8 :=
  (seat.session.step event).endpoint.read.drop seat.session.endpoint.read.length

/-- An event of the endpoint. What it writes is put into the pipe to the hub, and what it reads is taken
from the other. -/
def act (seat : Seat) (event : Endpoint.Event) : Seat where
  session := seat.session.step event
  connection := seat.connection
  up := seat.up ++ (seat.session.step event).endpoint.written.drop seat.session.endpoint.written.length
  down := seat.down.drop (seat.readBy event).length

/-- What the hub did, as far as it concerns the connection of the seat. -/
def served (seat : Seat) (connection : Option Nat) (entries : List Broker.Entry) : Seat where
  session := seat.session
  connection := connection
  up := seat.up.drop (receivedOver connection entries).length
  down := seat.down ++ writtenOver connection entries

end Seat

namespace Network

variable {ι : Type}

/-- Something that happens in a network. -/
inductive Action (ι : Type) where
  /-- An event of an endpoint. -/
  | endpoint (i : ι) (event : Endpoint.Event)
  /-- An event of the hub, which may accept some of the endpoints. -/
  | hub (event : Broker.Event) (admitted : ι → Option Nat)

/-- The traffic that an event of the hub adds. -/
def newTraffic (net : Network ι) (event : Broker.Event) : List Broker.Entry :=
  (net.hub.step event).broker.traffic.drop net.hub.broker.traffic.length

/-- The connections when the hub has accepted some of the endpoints. A connection once given stays. -/
def connectionsWith (net : Network ι) (admitted : ι → Option Nat) (i : ι) : Option Nat :=
  (net.seats i).connection.or (admitted i)

/-- What an action does. -/
def step [DecidableEq ι] (net : Network ι) : Action ι → Network ι
  | .endpoint i event => { net with seats := Function.update net.seats i ((net.seats i).act event) }
  | .hub event admitted =>
    { hub := net.hub.step event
      seats := fun i => (net.seats i).served (net.connectionsWith admitted i)
        (net.newTraffic event) }

/-- Whether an action is possible: what is read is at the front of the pipe, and the connections that
endpoints get are new and not shared. -/
def Allows (net : Network ι) : Action ι → Prop
  | .endpoint i event => (net.seats i).readBy event <+: (net.seats i).down
  | .hub event admitted =>
    (∀ i, receivedOver (net.connectionsWith admitted i) (net.newTraffic event) <+:
    (net.seats i).up) ∧
    (∀ i, ∀ c ∈ admitted i, (net.seats i).connection = none →
      net.hub.broker.connections ≤ c ∧ c < (net.hub.step event).broker.connections) ∧
    ∀ i j, i ≠ j → ∀ c ∈ net.connectionsWith admitted i, c ∉ net.connectionsWith admitted j

/-- What a run of actions does. -/
def run [DecidableEq ι] (net : Network ι) (actions : List (Action ι)) : Network ι :=
  actions.foldl step net

/-- Whether the actions are possible one after the other. -/
def Runs [DecidableEq ι] (net : Network ι) : List (Action ι) → Prop
  | [] => True
  | action :: rest => net.Allows action ∧ (net.step action).Runs rest

instance [Fintype ι] [DecidableEq ι] (net : Network ι) :
    (action : Action ι) → Decidable (net.Allows action)
  | .endpoint _ _ => inferInstanceAs (Decidable (_ <+: _))
  | .hub _ _ => inferInstanceAs (Decidable (_ ∧ _ ∧ _))

instance Runs.decidable [Fintype ι] [DecidableEq ι] (net : Network ι) :
    (actions : List (Action ι)) → Decidable (net.Runs actions)
  | [] => .isTrue trivial
  | action :: rest =>
    have := Runs.decidable (net.step action) rest
    inferInstanceAs (Decidable (_ ∧ _))

/-- A network in which nothing has happened. -/
def start (settings : BrokerSettings) (multiplexer : Multiplexer) (supply : Broker.Supply)
    (endpoints : ι → EndpointSettings) (multiplexers : ι → Multiplexer)
    (supplies : ι → Endpoint.Supply) : Network ι where
  hub := .start settings multiplexer supply
  seats i := { session := .start (endpoints i) (multiplexers i) (supplies i) }

/-! ### The invariant -/

/-- The sessions are sound, and at both ends of a pipe the streams agree but for what is in it. -/
structure Sound (host : String) (names : ι → String) (net : Network ι) : Prop where
  hub : net.hub.Sound host
  session : ∀ i, (net.seats i).session.Sound (names i)
  up : ∀ i, (net.seats i).session.endpoint.written =
    receivedOver (net.seats i).connection net.hub.broker.traffic ++ (net.seats i).up
  down : ∀ i, writtenOver (net.seats i).connection net.hub.broker.traffic =
    (net.seats i).session.endpoint.read ++ (net.seats i).down
  apart : ∀ i j, i ≠ j → ∀ c ∈ (net.seats i).connection, c ∉ (net.seats j).connection

variable {host : String} {names : ι → String} {net : Network ι}

theorem sound_start (settings : BrokerSettings) (multiplexer : Multiplexer) (supply : Broker.Supply)
    (endpoints : ι → EndpointSettings) (multiplexers : ι → Multiplexer)
    (supplies : ι → Endpoint.Supply) :
    (start settings multiplexer supply endpoints multiplexers supplies).Sound settings.serverAuthor
      (fun i => (endpoints i).name) where
  hub := Broker.Session.sound_start settings multiplexer supply
  session i := Endpoint.Session.sound_start (endpoints i) (multiplexers i) (supplies i)
  up _ := rfl
  down _ := rfl
  apart _ _ _ _ h := nomatch h

/-- An event of an endpoint moves bytes into its one pipe and out of the other. -/
theorem sound_act (h : net.Sound host names) {i : ι} {event : Endpoint.Event}
    (hread : (net.seats i).readBy event <+: (net.seats i).down) :
    ((net.seats i).act event).session.endpoint.written =
        receivedOver (net.seats i).connection net.hub.broker.traffic ++
          ((net.seats i).act event).up ∧
      writtenOver (net.seats i).connection net.hub.broker.traffic =
        ((net.seats i).act event).session.endpoint.read ++ ((net.seats i).act event).down := by
  have hgrows := Endpoint.Session.grows_step (net.seats i).session event
  constructor
  · show ((net.seats i).session.step event).endpoint.written = _ ++ (_ ++ _)
    rw [← List.append_assoc, ← h.up i]
    exact (List.prefix_iff_eq_append.1 hgrows.written).symm
  · have hsplit := List.prefix_iff_eq_append.1 hgrows.read
    rw [h.down i]
    show _ = ((net.seats i).session.step event).endpoint.read ++ (net.seats i).down.drop _
    rw [← hsplit, List.append_assoc]
    exact congrArg _ (List.prefix_iff_eq_append.1 hread).symm

theorem receivedOver_append (connection : Option Nat) (entries more : List Broker.Entry) :
    receivedOver connection (entries ++ more) =
      receivedOver connection entries ++ receivedOver connection more := by
  cases connection with
  | none => rfl
  | some c => exact received_append c entries more

theorem writtenOver_append (connection : Option Nat) (entries more : List Broker.Entry) :
    writtenOver connection (entries ++ more) =
      writtenOver connection entries ++ writtenOver connection more := by
  cases connection with
  | none => rfl
  | some c => exact written_append c entries more

/-- An event of the hub adds to its traffic. -/
theorem traffic_newTraffic (net : Network ι) (event : Broker.Event) :
    (net.hub.step event).broker.traffic = net.hub.broker.traffic ++ net.newTraffic event :=
  (List.prefix_iff_eq_append.1 (Broker.Session.prefix_traffic_step net.hub event)).symm

/-- A connection that is new has moved nothing, so getting one changes nothing yet. -/
theorem over_connectionsWith (h : net.Sound host names) {admitted : ι → Option Nat} {i : ι}
    (hfresh : ∀ c ∈ admitted i, (net.seats i).connection = none → net.hub.broker.connections ≤ c) :
    receivedOver (net.connectionsWith admitted i) net.hub.broker.traffic =
        receivedOver (net.seats i).connection net.hub.broker.traffic ∧
      writtenOver (net.connectionsWith admitted i) net.hub.broker.traffic =
        writtenOver (net.seats i).connection net.hub.broker.traffic := by
  unfold connectionsWith
  cases hconnection : (net.seats i).connection with
  | some c => exact ⟨rfl, rfl⟩
  | none =>
    rw [Option.none_or]
    cases hadmitted : admitted i with
    | none => exact ⟨rfl, rfl⟩
    | some c =>
      have hsilent := h.hub.consistent.fresh c (hfresh c hadmitted hconnection)
      exact ⟨received_eq_nil hsilent, written_eq_nil hsilent⟩

/-- **Every possible action keeps the invariant.** -/
theorem sound_step [DecidableEq ι] (h : net.Sound host names) {action : Action ι}
    (hallowed : net.Allows action) : (net.step action).Sound host names := by
  cases action with
  | endpoint i event =>
    -- only the two pipes of this endpoint are touched
    obtain ⟨hup, hdown⟩ := sound_act h hallowed
    have hseat : ∀ j, (net.step (.endpoint i event)).seats j =
        if j = i then (net.seats i).act event else net.seats j := by
      intro j
      exact Function.update_apply ..
    constructor
    case hub => exact h.hub
    case session =>
      intro j
      rw [hseat]
      split
      · next heq =>
        subst heq
        exact Endpoint.Session.sound_step (h.session j) event
      · exact h.session j
    case up =>
      intro j
      rw [hseat]
      split
      · exact hup
      · exact h.up j
    case down =>
      intro j
      rw [hseat]
      split
      · exact hdown
      · exact h.down j
    case apart =>
      have hsame : ∀ j, ((net.step (.endpoint i event)).seats j).connection =
        (net.seats j).connection := by
        intro j
        rw [hseat]
        split
        · next heq => rw [heq]; rfl
        · rfl
      intro j k hne
      rw [hsame, hsame]
      exact h.apart j k hne
  | hub event admitted =>
    -- every pipe may be touched; one that gets its connection now carried nothing before
    obtain ⟨hread, hfresh, hapart⟩ := hallowed
    constructor
    case hub => exact Broker.Session.sound_step h.hub event
    case session => exact h.session
    case apart => exact hapart
    case up =>
      intro i
      obtain ⟨hreceived, -⟩ := over_connectionsWith h fun c hc hnone => (hfresh i c hc hnone).1
      show (net.seats i).session.endpoint.written =
        receivedOver (net.connectionsWith admitted i) (net.hub.step event).broker.traffic ++
          (net.seats i).up.drop _
      rw [traffic_newTraffic, receivedOver_append, hreceived, List.append_assoc,
        List.prefix_iff_eq_append.1 (hread i)]
      exact h.up i
    case down =>
      intro i
      obtain ⟨-, hwritten⟩ := over_connectionsWith h fun c hc hnone => (hfresh i c hc hnone).1
      show writtenOver (net.connectionsWith admitted i) (net.hub.step event).broker.traffic =
        (net.seats i).session.endpoint.read ++ ((net.seats i).down ++ _)
      rw [traffic_newTraffic, writtenOver_append, hwritten, h.down i, List.append_assoc]

/-- **Every run has it.** -/
theorem sound_run [DecidableEq ι] (h : net.Sound host names) {actions : List (Action ι)}
    (hruns : net.Runs actions) : (net.run actions).Sound host names := by
  induction actions generalizing net with
  | nil => exact h
  | cons action rest ih => exact ih (sound_step h hruns.1) hruns.2

/-- No attempt of an endpoint to connect fails for lack of memory if all is granted to its output. -/
theorem shortages_run [DecidableEq ι] {i : ι} (h : (net.seats i).session.endpoint.outbound.memory.Ample)
    (actions : List (Action ι)) :
    ((net.run actions).seats i).session.shortages = (net.seats i).session.shortages := by
  induction actions generalizing net with
  | nil => rfl
  | cons action rest ih =>
    -- an action of the hub or of another endpoint leaves the session alone
    have hstep : ((net.step action).seats i).session = (net.seats i).session ∨
        ∃ event, ((net.step action).seats i).session = (net.seats i).session.step event := by
      cases action with
      | endpoint j event =>
        by_cases hij : i = j
        · subst hij
          refine Or.inr ⟨event, ?_⟩
          show (Function.update net.seats i ((net.seats i).act event) i).session = _
          rw [Function.update_self]
          rfl
        · exact Or.inl (congrArg Seat.session (Function.update_of_ne hij ..))
      | hub event admitted => exact Or.inl rfl
    have hlater := @ih (net.step action)
    rcases hstep with hsame | ⟨event, hsame⟩ <;> rw [hsame] at hlater
    · exact hlater h
    · exact (hlater ((Endpoint.Session.spares_step _ event).outbound h)).trans
        (Endpoint.Session.shortages_step h event)

end Network

end ChatRelay
