import ChatRelay.Broker.Basic

/-!
# What serving does not look at

A broker that serves its peers looks neither at what it has written down before nor at whether accepting
is to be tried again, nor at the unfinished text of its hosting application. So two brokers that differ
in nothing else do the same, and differ in nothing else afterwards.

- `Broker.Aside`, `Broker.beside`: what stands aside, and a broker that it is put beside.
- `relay_beside`, `serveReadable_beside`, `serveWritable_beside`: the operations on peers do not look
  aside.
- `serve_beside`: neither does serving a ready socket, unless it is the listening one.
-/

namespace ChatRelay.Broker

/-- What stands aside while peers are served. -/
structure Aside where
  /-- What was written down before. -/
  past : Array Entry
  acceptPending : Bool
  localLines : ByteQueue

/-- A broker with this put aside in place of its own. What it has written down itself comes behind the
past. -/
def beside (a : Aside) (b : Broker) : Broker :=
  { b with
    journal := a.past ++ b.journal
    acceptPending := a.acceptPending
    localLines := a.localLines }

variable (a : Aside) (b : Broker)

@[simp] theorem peers_beside : (beside a b).peers = b.peers := rfl

@[simp] theorem multiplexer_beside : (beside a b).multiplexer = b.multiplexer := rfl

theorem note_beside (entry : Entry) : (beside a b).note entry = beside a (b.note entry) := by
  simp [beside, note]

theorem close_beside (id : PeerId) : (beside a b).close id = beside a (b.close id) := by
  unfold close
  rw [peers_beside]
  split
  · rfl
  · next peer peers _ =>
    simp only [multiplexer_beside]
    rcases peer.deregister b.multiplexer with ⟨multiplexer, cause | ⟨⟩⟩ <;> simp [beside, note]

/-! ### Relaying -/

theorem syncInterest_beside (id : PeerId) :
    (beside a b).syncInterest id = (beside a (b.syncInterest id).1, (b.syncInterest id).2) := by
  unfold syncInterest
  rw [peers_beside]
  split <;> rfl

theorem enqueue_beside (author body : List UInt8) (id : PeerId) :
    (beside a b).enqueue author body id =
      (beside a (b.enqueue author body id).1, (b.enqueue author body id).2) := by
  unfold enqueue
  rw [peers_beside]
  cases b.peers.get? id with
  | none => rfl
  | some peer =>
    simp only
    rcases peer.outbound.tryPushRelayed author body with ⟨outbound, cause | ⟨⟩⟩
    · rfl
    · exact congrArg (fun r : Broker × Except IoError Unit => (r.1, r.2.mapError RelayError.system))
        (syncInterest_beside a { b with peers := b.peers.modify id fun p => { p with outbound } } id)

theorem relayTo_beside (author body : List UInt8) (progress : Broker × List PeerId) (id : PeerId) :
    relayTo author body (beside a progress.1, progress.2) id =
      (beside a (relayTo author body progress id).1, (relayTo author body progress id).2) := by
  unfold relayTo
  simp only [enqueue_beside]
  rcases progress.1.enqueue author body id with ⟨b', cause | ⟨⟩⟩
  · have hconnection : (beside a b').connection? id = b'.connection? id := rfl
    simp only [hconnection]
    cases b'.connection? id with
    | none => rfl
    | some connection => simp only [note_beside]
  · rfl

theorem relay_beside (sender : Option PeerId) (author : String) (body : List UInt8) :
    (beside a b).relay sender author body = beside a (b.relay sender author body) := by
  have hsender : sender.bind (beside a b).connection? = sender.bind b.connection? := rfl
  -- first the line is queued for all, then those that were refused are dropped
  have hqueued (others : List PeerId) (progress : Broker × List PeerId) :
      others.foldl (relayTo (Text.utf8 author) body) (beside a progress.1, progress.2) =
        let result := others.foldl (relayTo (Text.utf8 author) body) progress
        (beside a result.1, result.2) :=
    List.foldl_hom (fun progress : Broker × List PeerId => (beside a progress.1, progress.2))
      (relayTo_beside a (Text.utf8 author) body)
  unfold relay
  simp only [note_beside, hsender, peers_beside]
  rw [hqueued _ (_, [])]
  exact List.foldl_hom (beside a) (close_beside a)

/-! ### Serving -/

theorem queueMessage_beside (message : Message) :
    (beside a b).queueMessage message =
      (beside a (b.queueMessage message).1, (b.queueMessage message).2) := by
  have hmessages : (beside a b).messages = b.messages := rfl
  unfold queueMessage
  rw [hmessages]
  rcases b.messages.tryPush message with ⟨messages, cause | ⟨⟩⟩
  · simp [beside, note]
  · simp [beside, note]

theorem takeFrame_beside (id : PeerId) (frame : List UInt8) :
    takeFrame id (beside a b) frame = (beside a (takeFrame id b frame).1, (takeFrame id b frame).2) := by
  unfold takeFrame
  rw [peers_beside]
  split
  · rfl
  split
  · simp [beside, note]
  · rw [relay_beside, queueMessage_beside]

theorem takeFrames_beside (id : PeerId) (frames : List (List UInt8)) :
    takeFrames id (beside a b) frames =
      (beside a (takeFrames id b frames).1, (takeFrames id b frames).2) := by
  unfold takeFrames inTurn
  refine @List.foldl_hom _ _ _
    (fun progress : Broker × Except RelayError Unit => (beside a progress.1, progress.2)) _ _ frames
    (b, .ok ()) ?_
  intro progress frame
  simp only [takeFrame_beside]

theorem serveReadable_beside (id : PeerId) (reads : List ReadEvent) :
    (beside a b).serveReadable id reads =
      (beside a (b.serveReadable id reads).1, (b.serveReadable id reads).2) := by
  unfold serveReadable
  rw [peers_beside]
  split
  · rfl
  next peer _ =>
  simp only [note_beside, peers_beside]
  split
  · rw [← close_beside]
    refine congrArg (fun b : Broker => (b.close id, (Except.ok () : Except RelayError Unit))) ?_
    simp [beside, note]
  · have hframes (tail : ByteQueue) (b : Broker) (frames : List (List UInt8)) :
        takeFrames id { beside a b with
            peers := b.peers.modify id fun p => { p with inbound := tail } } frames =
          let result := takeFrames id { b with
            peers := b.peers.modify id fun p => { p with inbound := tail } } frames
          (beside a result.1, result.2) :=
      takeFrames_beside a { b with peers := b.peers.modify id fun p => { p with inbound := tail } } id
        frames
    simp only [hframes]
    split
    · rfl
    · rw [close_beside]

theorem serveWritable_beside (id : PeerId) (writes : List WriteEvent) :
    (beside a b).serveWritable id writes = beside a (b.serveWritable id writes) := by
  unfold serveWritable
  rw [peers_beside]
  split
  · rfl
  next peer _ =>
  have hwritten (queue : ByteQueue) (entry : Entry) :
      note { beside a b with peers := b.peers.modify id fun p => { p with outbound := queue } } entry =
        beside a (note
          { b with peers := b.peers.modify id fun p => { p with outbound := queue } } entry) := by
    simp [beside, note]
  simp only [hwritten]
  split
  · rfl
  · rw [syncInterest_beside]
    rcases syncInterest _ id with ⟨b', cause | ⟨⟩⟩
    · exact (congrArg (close · id) (note_beside a b' _)).trans (close_beside ..)
    · rfl
  · rw [note_beside, close_beside]

/-- Nothing aside matters for a ready socket that is not the listening one. -/
theorem serve_beside (accepts : List AcceptEvent) {ready : Readiness}
    (h : ready.token ≠ Token.listener) :
    serve accepts (beside a b) ready =
      (beside a (serve accepts b ready).1, (serve accepts b ready).2) := by
  unfold serve
  rw [if_neg h, if_neg h]
  split
  · rfl
  next id _ =>
  have hread : (if ready.readable then (beside a b).serveReadable id ready.traffic.reads
      else (beside a b, .ok ())) =
        let pass := if ready.readable then b.serveReadable id ready.traffic.reads else (b, .ok ())
        (beside a pass.1, pass.2) := by
    split
    · rw [serveReadable_beside]
    · rfl
  simp only [hread, serveWritable_beside]
  split <;> rfl

end ChatRelay.Broker
