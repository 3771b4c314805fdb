import ChatRelay.System.Errno
import ChatRelay.Text.Quoted

/-!
# Failed operations of the operating system

An `IoError` is what a read, a write, a registration or a wait reports when it fails: a bare kind, an
error number, or a text of its own.
-/

namespace ChatRelay

/-- A failed operation of the operating system. -/
inductive IoError where
  /-- Only the kind is known. -/
  | simple (kind : ErrorKind)
  /-- The error number the system returned. -/
  | os (code : Int)
  /-- A kind with a fixed text that replaces its description. -/
  | described (kind : ErrorKind) (text : String)
  /-- A kind with another failure, given by its text, as the cause. -/
  | custom (kind : ErrorKind) (text : String)
  deriving DecidableEq, Repr, Inhabited

namespace IoError

/-- The kind of a failure. An error number determines it. -/
def kind : IoError → ErrorKind
  | simple kind => kind
  | os code => .ofErrno code
  | described kind _ => kind
  | custom kind _ => kind

/-- The error number of a failure, when the system gave one. -/
def osCode : IoError → Option Int
  | os code => some code
  | _ => none

/-- The text a user sees. -/
def message : IoError → String
  | simple kind => kind.description
  | os code => s!"{errnoText code} (os error {code})"
  | described _ text => text
  | custom _ text => text

/-- The record a programmer sees: the parts of the failure by name. -/
def record : IoError → String
  | simple kind => s!"Kind({kind.name})"
  | os code =>
    s!"Os \x7b code: {code}, kind: {(ErrorKind.ofErrno code).name}, message: {Text.quoted (errnoText code)} \x7d"
  | described kind text =>
    s!"Error \x7b kind: {kind.name}, message: {Text.quoted text} \x7d"
  | custom kind text => s!"Custom \x7b kind: {kind.name}, error: {Text.quoted text} \x7d"

/-- The operation would have to wait. -/
def wouldBlock : IoError := simple .wouldBlock

/-- A name that is handed to the system cannot contain a NUL. -/
def nulInName : IoError := described .invalidInput "file name contained an unexpected NUL byte"

@[simp] theorem kind_wouldBlock : wouldBlock.kind = .wouldBlock := rfl

end IoError

end ChatRelay
