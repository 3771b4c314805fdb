import ChatRelay.Toml.Scalar

/-!
# TOML documents

A document is a sequence of lines, each a pair of a key and a value, the header of a table, or blank. A
table may be begun by a header, or come about because a header or a dotted key leads through it. It may be
begun by a header only once, and dotted keys extend only tables that dotted keys brought about.

- `Toml.valueWithin`: read any value.
- `Toml.parse`: read a document.
-/

namespace ChatRelay.Toml

/-- How deep arrays and inline tables nest, and how long a dotted key is, at most. -/
def depthLimit : Nat := 79

/-! ## Keys -/

/-- Characters of a key without quotes. -/
def isBareKey (c : Char) : Bool := c.isAlphanum || c = '_' || c = '-'

/-- Read one part of a key. -/
def keyPart (s : List Char) : Option (String × List Char) :=
  match s with
  | '"' :: _ => basicString s
  | '\'' :: _ => literalString s
  | _ =>
    let (name, rest) := s.span isBareKey
    if name.isEmpty then none else some (String.ofList name, rest)

/-- Read the parts of a key, with dots between them and blanks around each. -/
def keyParts : Nat → Reader (List String)
  | 0, _ => none
  | fuel + 1, s => do
    let (part, rest) ← keyPart (skipBlanks s)
    match skipBlanks rest with
    | '.' :: rest =>
      let (parts, rest) ← keyParts fuel rest
      some (part :: parts, rest)
    | rest => some ([part], rest)

/-- Read a key: the way to it, and its last part. -/
def key (s : List Char) : Option ((List String × String) × List Char) := do
  let (parts, rest) ← keyParts depthLimit s
  let last ← parts.getLast?
  some ((parts.dropLast, last), rest)

/-! ## Tables under construction -/

/-- Work on the table that a path leads to. A table that is missing on the way comes about as `way` says.
No way leads through a table between braces, and no dotted key through a table that a header began. The
work is told how its table came about. -/
def alter {α : Type} (way : Origin) (work : Origin → Entries → Option (α × Entries)) (here : Origin) :
    List String → Entries → Option (α × Entries)
  | [], entries => work here entries
  | key :: path, entries =>
    match entries.get? key with
    | none => do
      let (a, sub) ← alter way work way path {}
      some (a, entries.insert key (.table way sub))
    | some (.tables (latest :: others)) => do
      let (a, latest) ← alter way work .header path latest
      some (a, entries.insert key (.tables (latest :: others)))
    | some (.table origin sub) =>
      if origin = .braces || (way = .dottedKey && origin = .header) then none
      else do
        let (a, sub) ← alter way work origin path sub
        some (a, entries.insert key (.table origin sub))
    | some _ => none

/-- Add a pair. The key must be new, and a dotted key must end in a table of dotted keys. -/
def addPair (path : List String) (key : String) (v : Value) (entries : Entries) : Option Entries :=
  let work (here : Origin) (entries : Entries) : Option (Unit × Entries) :=
    if (here == .dottedKey) == path.isEmpty || entries.contains key then none
    else some ((), entries.insert key v)
  (alter .dottedKey work .header path entries).map (·.2)

/-! ## Values -/

theorem length_dropWhile_le {α : Type} (p : α → Bool) (s : List α) :
    (s.dropWhile p).length ≤ s.length := (List.dropWhile_sublist p).length_le

theorem length_skipComment_le (s : List Char) : (skipComment s).length ≤ s.length := by
  unfold skipComment
  split
  · have := length_dropWhile_le isPlain (by assumption)
    simp only [List.length_cons]
    omega
  · exact Nat.le_refl _

/-- Leave out all blanks, comments and line ends. A comment that no line end follows stays. -/
def skipToValue (s : List Char) : List Char :=
  match _h : newline? (skipComment (skipBlanks s)) with
  | some rest => skipToValue rest
  | none => skipBlanks s
termination_by s.length
decreasing_by
  have h₁ := length_newline? _h
  have h₂ := length_skipComment_le (skipBlanks s)
  have h₃ := length_dropWhile_le isBlank s
  unfold skipBlanks at h₁ h₂
  omega

mutual

/-- Read a value in which arrays and inline tables nest at most `depth` deep. -/
def valueWithin (depth : Nat) : Nat → Reader Value
  | 0, _ => none
  | fuel + 1, s =>
    match s with
    | '"' :: _ | '\'' :: _ => (string s).map fun (text, rest) => (.string text, rest)
    | '[' :: rest =>
      match depth with
      | 0 => none
      | depth + 1 =>
        match skipToValue rest with
        | ']' :: rest => some (.array [], rest)
        | rest => arrayItems depth #[] fuel rest
    | '{' :: rest =>
      match depth with
      | 0 => none
      | depth + 1 =>
        match skipBlanks rest with
        | '}' :: rest => some (.table .braces {}, rest)
        | rest => inlinePairs depth {} fuel rest
    | 't' :: _ => (text? "true" s).map fun rest => (.boolean true, rest)
    | 'f' :: _ => (text? "false" s).map fun rest => (.boolean false, rest)
    | _ => number s

/-- Read the items of an array up to its bracket. A comma may stand behind the last one. -/
def arrayItems (depth : Nat) (items : Array Value) : Nat → Reader Value
  | 0, _ => none
  | fuel + 1, s => do
    let (item, rest) ← valueWithin depth fuel s
    match skipToValue rest with
    | ']' :: rest => some (.array (items.push item).toList, rest)
    | ',' :: rest =>
      match skipToValue rest with
      | ']' :: rest => some (.array (items.push item).toList, rest)
      | rest => arrayItems depth (items.push item) fuel rest
    | _ => none

/-- Read the pairs of an inline table up to its brace. -/
def inlinePairs (depth : Nat) (entries : Entries) : Nat → Reader Value
  | 0, _ => none
  | fuel + 1, s => do
    let ((path, last), rest) ← key s
    let rest ← char? '=' rest
    let (v, rest) ← valueWithin depth fuel (skipBlanks rest)
    let entries ← addPair path last v entries
    match skipBlanks rest with
    | '}' :: rest => some (.table .braces entries, rest)
    | ',' :: rest => inlinePairs depth entries fuel rest
    | _ => none

end

/-! ## Lines -/

/-- A document under construction: the finished tables, and the one that the last header began. -/
structure Draft where
  root : Entries := .empty
  /-- The way to the present table and its key; none before the first header. -/
  path : Option (List String × String) := none
  /-- Whether the present table is one of several under its key. -/
  several : Bool := false
  present : Entries := .empty

namespace Draft

/-- Put the present table into its place. -/
def finish (d : Draft) : Option Entries :=
  match d.path with
  | none => some d.present
  | some (path, key) =>
    let work (_ : Origin) (entries : Entries) : Option (Unit × Entries) :=
      match entries.get? key, d.several with
      | none, false => some ((), entries.insert key (.table .header d.present))
      | none, true => some ((), entries.insert key (.tables [d.present]))
      | some (.tables others), true => some ((), entries.insert key (.tables (d.present :: others)))
      | _, _ => none
    (alter .passage work .header path d.root).map (·.2)

/-- Begin a table. One that came about on the way to another keeps its entries. -/
def beginTable (d : Draft) (path : List String) (key : String) : Option Draft := do
  let root ← d.finish
  let work (_ : Origin) (entries : Entries) : Option (Entries × Entries) :=
    match entries.get? key with
    | none => some ({}, entries)
    | some (.table .passage sub) => some (sub, entries.erase key)
    | _ => none
  let (present, root) ← alter .passage work .header path root
  some { root, path := some (path, key), several := false, present }

/-- Begin one more of several tables. -/
def beginOneOf (d : Draft) (path : List String) (key : String) : Option Draft := do
  let root ← d.finish
  let work (_ : Origin) (entries : Entries) : Option (Unit × Entries) :=
    match entries.get? key with
    | none => some ((), entries)
    | some (.tables _) => some ((), entries)
    | _ => none
  let ((), root) ← alter .passage work .header path root
  some { root, path := some (path, key), several := true, present := {} }

/-- Add a pair to the present table. -/
def add (d : Draft) (path : List String) (key : String) (v : Value) : Option Draft := do
  let present ← addPair path key v d.present
  some { d with present }

end Draft

/-- Read the end of a line behind blanks and a comment. The end of the text is one. -/
def lineEnd (s : List Char) : Option (List Char) :=
  match skipComment (skipBlanks s) with
  | [] => some []
  | rest => newline? rest

/-- Read one line that is not blank. A value in it takes at most `steps` steps. -/
def line (steps : Nat) (d : Draft) (s : List Char) : Option (Draft × List Char) :=
  match s with
  | '[' :: '[' :: rest => do
    let ((path, last), rest) ← key rest
    let rest ← lineEnd (← text? "]]" rest)
    some (← d.beginOneOf path last, rest)
  | '[' :: rest => do
    let ((path, last), rest) ← key rest
    let rest ← lineEnd (← char? ']' rest)
    some (← d.beginTable path last, rest)
  | _ => do
    let ((path, last), rest) ← key s
    let rest ← char? '=' rest
    let (v, rest) ← valueWithin depthLimit steps (skipBlanks rest)
    let rest ← lineEnd rest
    some (← d.add path last v, rest)

/-- Read lines up to the end of the text. -/
def lines (steps : Nat) (d : Draft) : Nat → List Char → Option Draft
  | 0, _ => none
  | fuel + 1, s =>
    match skipBlanks s with
    | [] => some d
    | '#' :: rest => do lines steps d fuel (← lineEnd ('#' :: rest))
    | c :: rest =>
      match newline? (c :: rest) with
      | some rest => lines steps d fuel rest
      | none => do
        let (d, rest) ← line steps d (c :: rest)
        lines steps d fuel rest

/-- Read a document, with a byte order mark in front or not. -/
def parse (text : String) : Option Value := do
  let s := match text.toList with
    | '\uFEFF' :: rest => rest
    | s => s
  -- Each line takes a character, and a value at most two steps for each.
  let d ← lines (2 * s.length + 2) {} (s.length + 1) s
  let root ← d.finish
  some (.table .header root)

end ChatRelay.Toml
