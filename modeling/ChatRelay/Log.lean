/-!
# Log lines

A line of the log has a level, a message, and fields. What the broker and the endpoint did is kept in
their journals; a journal entry that a reader of the log should see has a line.
-/

namespace ChatRelay.Log

/-- How much a line matters. -/
inductive Level where
  | error | warn | info | debug
  deriving DecidableEq, Repr

/-- The level as it is printed. -/
def Level.name : Level → String
  | .error => "ERROR"
  | .warn => "WARN"
  | .info => "INFO"
  | .debug => "DEBUG"

/-- How many levels are louder. -/
def Level.rank : Level → Nat
  | .error => 0
  | .warn => 1
  | .info => 2
  | .debug => 3

/-- The least level that a setting lets through, if it lets any. Errors alone pass a setting that names
no level. -/
def threshold? (setting : String) : Option Level :=
  match setting.toLower with
  | "off" => none
  | "warn" => some .warn
  | "info" => some .info
  | "debug" | "trace" => some .debug
  | _ => some .error

/-- The value of a field. -/
inductive Value where
  | text (value : String)
  | number (value : Nat)
  deriving DecidableEq, Repr

/-- One line of the log. -/
structure Line where
  level : Level
  message : String
  fields : List (String × Value) := []
  deriving DecidableEq, Repr

/-- The line as it is printed: the level, the message, and the fields by name. -/
def Line.render (l : Line) : String :=
  let value : Value → String
    | .text t => t
    | .number n => toString n
  l.fields.foldl (fun out (name, v) => out ++ " " ++ name ++ "=" ++ value v)
    (l.level.name ++ " " ++ l.message)

/-- Whether a setting lets a line through. -/
def Line.passes (l : Line) (setting : String) : Bool :=
  (threshold? setting).any (l.level.rank ≤ ·.rank)

end ChatRelay.Log
