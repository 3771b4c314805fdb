import ChatRelay.Broker.Basic

/-!
# The traffic of a broker

The journal tells everything a broker did. The *traffic* is the part of it that moves bytes, frames
and lines; what follows reads it in several ways:

- `Traffic.received`, `Traffic.written`: the bytes read from and written to a connection.
- `Traffic.frames`: the frames of a connection that were handled, its name the first of them.
- `Traffic.lines`: the log, all lines that went out, in order.
- `Traffic.since`: what followed the acceptance of a connection.
- `Traffic.linesFrom`: the lines of one sender.
- `Traffic.wiresFor`: the bytes that a connection is to get, all lines but its own.
- `Traffic.Silent`: that a piece of traffic is not about a connection, so that no view of it shows
  anything of it.
- `intake`: which messages there were for the hosting application, and for which of them there was memory.

Every view of an appended piece is the view of the parts, put one behind the other.
-/

namespace ChatRelay.Broker

/-- A line of the relay. The hosting application's lines have no sender. -/
structure Line where
  /-- The number of the connection that sent the line. -/
  sender : Option Nat
  author : String
  body : List UInt8
  deriving DecidableEq

/-- The frame in which a line travels. -/
def Line.wire (line : Line) : List UInt8 := Frame.relayed (Text.utf8 line.author) line.body

/-- The name that the frames of a connection give it: the first of them, if there is one. -/
def nameIn (frames : List (List UInt8)) : Option String := frames.head?.map Text.decodeLossy

/-- The lines that the frames of a connection make, given the name it had before. The first frame of a
connection without a name makes none. -/
def Line.ofFrames (connection : Nat) : Option String → List (List UInt8) → List Line
  | some author, frames => frames.map fun body => ⟨some connection, author, body⟩
  | none, [] => []
  | none, first :: later => later.map fun body => ⟨some connection, Text.decodeLossy first, body⟩

@[simp] theorem Line.ofFrames_nil (connection : Nat) (name : Option String) :
    ofFrames connection name [] = [] := by
  cases name <;> rfl

/-- Later frames make their lines under the name that the earlier ones left. -/
theorem Line.ofFrames_append (connection : Nat) (name : Option String)
    (frames more : List (List UInt8)) :
    ofFrames connection name (frames ++ more) =
      ofFrames connection name frames ++ ofFrames connection (name.or (nameIn frames)) more := by
  cases name with
  | some author => exact List.map_append
  | none =>
    cases frames with
    | nil => rfl
    | cons first later => exact List.map_append

/-- The message that a sent line is for the hosting application. Its own lines are none. -/
def Line.message? (line : Line) : Option Message :=
  line.sender.map fun _ => ⟨line.author, Text.decodeLossy line.body⟩

namespace Entry

/-- Whether an entry belongs to the traffic. The others tell of faults and departures. -/
def isTraffic : Entry → Bool
  | accepted .. | received .. | joined .. | relayed .. | wrote .. => true
  | _ => false

/-- The line that an entry tells of. -/
def line? : Entry → Option Line
  | relayed sender author body => some ⟨sender, author, body⟩
  | _ => none

/-- The frame of a connection that an entry tells of. -/
def frame? (connection : Nat) : Entry → Option (List UInt8)
  | joined c frame => if c = connection then some frame else none
  | relayed sender _ frame => if sender = some connection then some frame else none
  | _ => none

/-- The bytes that were read from a connection. -/
def bytesFrom (connection : Nat) : Entry → List UInt8
  | received c bytes => if c = connection then bytes else []
  | _ => []

/-- The bytes that were written to a connection. -/
def bytesTo (connection : Nat) : Entry → List UInt8
  | wrote c bytes => if c = connection then bytes else []
  | _ => []

/-- Whether an entry tells that a connection was accepted. -/
def accepts (connection : Nat) : Entry → Bool
  | accepted c _ => c == connection
  | _ => false

/-- The connection that an entry of the traffic is about. -/
def connection? : Entry → Option Nat
  | accepted c _ | received c _ | joined c _ | wrote c _ => some c
  | relayed sender _ _ => sender
  | _ => none

end Entry

/-! ### Views of a piece of traffic -/

namespace Traffic

variable (connection : Nat) (entries more : List Entry)

/-- All lines, in order. -/
def lines : List Line := entries.filterMap Entry.line?

/-- The frames of a connection that were handled. -/
def frames : List (List UInt8) := entries.filterMap (Entry.frame? connection)

/-- The bytes read from a connection. -/
def received : List UInt8 := entries.flatMap (Entry.bytesFrom connection)

/-- The bytes written to a connection. -/
def written : List UInt8 := entries.flatMap (Entry.bytesTo connection)

/-- The lines for the hosting application. -/
def messages : List Message := (lines entries).filterMap Line.message?

/-- The lines of a sender, or of the hosting application. -/
def linesFrom (sender : Option Nat) : List Line := (lines entries).filter (·.sender = sender)

/-- The lines that are to reach a connection: all but its own. -/
def linesFor : List Line := (lines entries).filter fun line => line.sender ≠ some connection

/-- The bytes in which they travel. -/
def wiresFor : List UInt8 := (linesFor connection entries).flatMap Line.wire

/-- What followed the acceptance of a connection. -/
def since (connection : Nat) : List Entry → List Entry
  | [] => []
  | entry :: rest => if entry.accepts connection then rest else since connection rest

@[simp] theorem lines_append : lines (entries ++ more) = lines entries ++ lines more :=
  List.filterMap_append

@[simp] theorem frames_append :
    frames connection (entries ++ more) = frames connection entries ++ frames connection more :=
  List.filterMap_append

@[simp] theorem received_append :
    received connection (entries ++ more) =
      received connection entries ++ received connection more :=
  List.flatMap_append

@[simp] theorem written_append :
    written connection (entries ++ more) = written connection entries ++ written connection more :=
  List.flatMap_append

@[simp] theorem messages_append :
    messages (entries ++ more) = messages entries ++ messages more := by
  simp [messages]

@[simp] theorem linesFrom_append (sender : Option Nat) :
    linesFrom (entries ++ more) sender = linesFrom entries sender ++ linesFrom more sender := by
  simp [linesFrom]

@[simp] theorem linesFor_append :
    linesFor connection (entries ++ more) =
      linesFor connection entries ++ linesFor connection more := by
  simp [linesFor]

@[simp] theorem wiresFor_append :
    wiresFor connection (entries ++ more) =
      wiresFor connection entries ++ wiresFor connection more := by
  simp [wiresFor]

variable {connection entries}

/-- Once a connection has been accepted, what follows adds to what followed. -/
theorem since_append (h : ∃ entry ∈ entries, entry.accepts connection) :
    since connection (entries ++ more) = since connection entries ++ more := by
  induction entries with
  | nil => simp at h
  | cons entry rest ih =>
    rw [List.cons_append, since, since]
    by_cases hentry : entry.accepts connection
    · rw [if_pos hentry, if_pos hentry]
    rw [if_neg hentry, if_neg hentry]
    obtain ⟨later, hmem, hlater⟩ := h
    rcases List.mem_cons.1 hmem with rfl | hmem
    · exact absurd hlater hentry
    · exact ih ⟨later, hmem, hlater⟩

/-- Nothing has followed yet at the moment a connection is accepted. -/
theorem since_accepted (h : ∀ entry ∈ entries, ¬entry.accepts connection) (slot : Nat) :
    since connection (entries ++ [.accepted connection slot]) = [] := by
  induction entries with
  | nil => simp [since, Entry.accepts]
  | cons entry rest ih =>
    rw [List.cons_append, since, if_neg (h entry List.mem_cons_self)]
    exact ih fun later hmem => h later (List.mem_cons_of_mem _ hmem)

/-! ### Traffic about others -/

/-- No entry is about a connection. -/
def Silent (connection : Nat) (entries : List Entry) : Prop :=
  ∀ entry ∈ entries, entry.connection? ≠ some connection

theorem silent_nil : Silent connection [] := List.forall_mem_nil _

theorem silent_cons_iff {entry : Entry} :
    Silent connection (entry :: entries) ↔ entry.connection? ≠ some connection ∧
      Silent connection entries :=
  List.forall_mem_cons

theorem silent_singleton_iff {entry : Entry} :
    Silent connection [entry] ↔ entry.connection? ≠ some connection :=
  silent_cons_iff.trans (and_iff_left silent_nil)

theorem received_eq_nil (h : Silent connection entries) : received connection entries = [] := by
  rw [received, List.flatMap_eq_nil_iff]
  intro entry hmem
  have hentry := h entry hmem
  cases entry <;> simp_all [Entry.bytesFrom, Entry.connection?]

theorem written_eq_nil (h : Silent connection entries) : written connection entries = [] := by
  rw [written, List.flatMap_eq_nil_iff]
  intro entry hmem
  have hentry := h entry hmem
  cases entry <;> simp_all [Entry.bytesTo, Entry.connection?]

theorem frames_eq_nil (h : Silent connection entries) : frames connection entries = [] := by
  rw [frames, List.filterMap_eq_nil_iff]
  intro entry hmem
  have hentry := h entry hmem
  cases entry <;> simp_all [Entry.frame?, Entry.connection?]

/-- Who is not spoken of has sent none of the lines. -/
theorem sender_ne (h : Silent connection entries) {line : Line} (hline : line ∈ lines entries) :
    line.sender ≠ some connection := by
  obtain ⟨entry, hmem, hentry⟩ := List.mem_filterMap.1 hline
  have hne := h entry hmem
  cases entry with
  | relayed sender author body =>
    cases hentry
    exact hne
  | _ => cases hentry

theorem linesFrom_eq_nil (h : Silent connection entries) :
    linesFrom entries (some connection) = [] := by
  rw [linesFrom, List.filter_eq_nil_iff]
  intro line hline
  simpa using sender_ne h hline

/-- Every line is for a connection that has sent none. -/
theorem linesFor_eq_lines (h : Silent connection entries) :
    linesFor connection entries = lines entries := by
  rw [linesFor, List.filter_eq_self]
  intro line hline
  simpa using sender_ne h hline

end Traffic

/-! ### The traffic of a broker -/

/-- The part of the journal that moves bytes, frames and lines. -/
def traffic (b : Broker) : List Entry := b.journal.toList.filter Entry.isTraffic

/-- All lines of a broker, in the order in which they went out. -/
def log (b : Broker) : List Line := Traffic.lines b.traffic

/-! ### The messages of a broker -/

/-- The message that an entry tells of, and whether it has been queued. -/
def Entry.intake? : Entry → Option (Message × Bool)
  | queued message => some (message, true)
  | messageLost message _ => some (message, false)
  | _ => none

/-- The messages for the hosting application, in the order of their lines, and whether each has been
queued. -/
def intake (b : Broker) : List (Message × Bool) := b.journal.toList.filterMap Entry.intake?

end ChatRelay.Broker
