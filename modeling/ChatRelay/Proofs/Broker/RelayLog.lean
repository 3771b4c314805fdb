import ChatRelay.Proofs.Broker.Session

/-!
# The relay log

The log of a broker says what every peer has got and is still to get, and what the hosting application
has taken and is still to take (`relay_log`).
-/

namespace ChatRelay.Broker.Session

open ChatRelay.Broker.Traffic

/-- **The log of a session accounts for all output.** After any run, the bytes written to a live peer
and those that wait for it are the frames of the lines since it was accepted, in order, but for its own.
The lines that some peer sent are the messages, and while there is memory for messages, those taken and
those that wait are all of them; otherwise they are those for which there was memory.

The log holds what it should: for a live peer the lines are its frames behind the first, under the name
that the first gave; for the hosting application they are the lines that the fed text completes. -/
theorem relay_log (settings : BrokerSettings) (multiplexer : Multiplexer) (supply : Supply)
    (events : List Event) :
    let s := (start settings multiplexer supply).run events
    (∀ id p, s.broker.peers.get? id = some p →
      (∃ entry ∈ s.broker.traffic, entry.accepts p.connection) ∧
      written p.connection s.broker.traffic ++ p.outbound.unconsumed =
        wiresFor p.connection (since p.connection s.broker.traffic) ∧
      s.broker.log.filter (·.sender = some p.connection) =
        Line.ofFrames p.connection none (Frame.split (received p.connection s.broker.traffic)).1) ∧
    s.broker.log.filter (·.sender = none) =
      (Frame.split (Frame.ofLines s.fed)).1.map (fun body => ⟨none, settings.serverAuthor, body⟩) ∧
    s.broker.intake.map Prod.fst = s.broker.log.filterMap Line.message? ∧
    s.popped ++ s.broker.messages.toList = keptOf s.broker.intake ∧
    (supply.messages.Ample →
      s.popped ++ s.broker.messages.toList = s.broker.log.filterMap Line.message?) := by
  intro s
  have h := sound_run settings multiplexer supply events
  refine ⟨fun id p hp => ?_, h.hosted, h.messages, h.queued, fun hgranted =>
    h.all_queued (keeping_run hgranted settings multiplexer events)⟩
  obtain ⟨haccepted, -, hinbound, houtbound⟩ := h.consistent.accords id p hp
  refine ⟨haccepted, houtbound, ?_⟩
  rw [hinbound]
  exact h.consistent.named p.connection

/-- In the meeting the log tells what Ann has got and is to get. -/
theorem relay_log_meeting :
    let s := (start {} {}).run meeting
    ∃ p, s.broker.peers.get? firstPeer = some p ∧
      p.outbound.unconsumed = Text.utf8 "hello\x00server\nwelcome\x00" ∧
      s.popped = [⟨"bob", "hello"⟩] ∧
      s.popped ++ s.broker.messages.toList = s.broker.log.filterMap Line.message? ∧
      written p.connection s.broker.traffic ++ p.outbound.unconsumed =
        wiresFor p.connection (since p.connection s.broker.traffic) := by
  intro s
  have hlive : ((s.broker.peers.get? firstPeer).map (·.outbound.unconsumed), s.popped) =
      (some (Text.utf8 "hello\x00server\nwelcome\x00"), [⟨"bob", "hello"⟩]) := by decide +kernel
  obtain ⟨hpeer, hpopped⟩ := Prod.mk.injEq _ _ _ _ ▸ hlive
  obtain ⟨p, hp, hwaits⟩ := Option.map_eq_some_iff.1 hpeer
  obtain ⟨hpeers, -, -, -, hmessages⟩ := relay_log {} {} {} meeting
  exact ⟨p, hp, hwaits, hpopped, hmessages Memory.ample_default, (hpeers firstPeer p hp).2.1⟩

end ChatRelay.Broker.Session
