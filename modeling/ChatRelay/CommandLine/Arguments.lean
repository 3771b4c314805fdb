import ChatRelay.CommandLine.Grammar
import ChatRelay.Settings.File
import ChatRelay.Text.Digit

/-!
# Reading the command line

An option's value stands in the next argument, or behind the option in the same one (`--port=1`, `-p1`,
`-p=1`). An argument that begins with a dash is an option, never a value; behind `--` there are no options.
An option is checked when the next one begins, or at the end of its level; the options in front of a
command are checked after those behind it.

- `Arguments.parse`: what the arguments ask for, or why they ask for nothing that can be done.
- `Arguments.settings`: the settings that hold, given the settings file.
-/

namespace ChatRelay.CommandLine

/-- Why the arguments do not name a role to run. -/
inductive Refusal where
  /-- A help text was asked for. -/
  | help (text : String)
  /-- The version was asked for. -/
  | version
  | nothingGiven
  | missingCommand
  | unknownArgument
  | invalidCommand
  /-- A value is missing, or is empty where that cannot be. -/
  | invalidValue
  /-- A value is not of its option's kind. -/
  | valueValidation
  /-- An option was given twice. -/
  | conflict
  /-- A value was given to an option that takes none. -/
  | tooManyValues
  deriving DecidableEq, Repr

namespace Refusal

/-- What is printed on standard output, if anything. -/
def output? : Refusal → Option String
  | help text => some text
  | version => some (Level.programName ++ " " ++ Level.version ++ "\n")
  | _ => none

/-- The exit code of the program. -/
def exitCode (r : Refusal) : Nat := if r.output?.isSome then 0 else 2

end Refusal

/-- A checked option. -/
inductive Given where
  | config (path : String)
  | logLevel (level : String)
  | port (port : Nat)
  | maxPeers (count : Nat)
  | address (address : String)
  | name (name : String)
  deriving DecidableEq, Repr

/-- The option that was given. -/
def Given.word : Given → Word
  | config _ => .config
  | logLevel _ => .logLevel
  | port _ => .port
  | maxPeers _ => .maxPeers
  | address _ => .address
  | name _ => .name

/-- A port: a number from 0 to 65535 with or without a sign. -/
def port? (text : List Char) : Option Nat :=
  match text with
  | '+' :: digits => Text.numberUpTo? 65535 10 digits
  | '-' :: digits => Text.numberUpTo? 0 10 digits
  | digits => Text.numberUpTo? 65535 10 digits

/-- A count: a number of at most 64 bits, with or without a plus sign. -/
def count? (text : List Char) : Option Nat :=
  let digits := match text with
    | '+' :: digits => digits
    | digits => digits
  Text.numberUpTo? (UInt64.size - 1) 10 digits

/-- Check the value of an option. -/
def check (word : Word) (value : String) : Except Refusal Given :=
  match word with
  | .config => if value.isEmpty then .error .invalidValue else .ok (.config value)
  | .logLevel => .ok (.logLevel value)
  | .port => match port? value.toList with
    | some port => .ok (.port port)
    | none => .error .valueValidation
  | .maxPeers => match count? value.toList with
    | some count => .ok (.maxPeers count)
    | none => .error .valueValidation
  | .address => .ok (.address value)
  | .name => .ok (.name value)

/-- What has been read of one level: the checked options, and the last one if it is not checked yet, with
its value if that has come. -/
structure Reading where
  given : List Given := []
  open? : Option (Word × Option String) := none

namespace Reading

/-- Take in an option with its value. -/
def take (r : Reading) (word : Word) (value : String) : Except Refusal Reading :=
  if r.given.any (·.word = word) then .error .conflict
  else match check word value with
    | .error refusal => .error refusal
    | .ok given => .ok { given := given :: r.given }

/-- Check the last option. -/
def settle (r : Reading) : Except Refusal Reading :=
  match r.open? with
  | none => .ok r
  | some (_, none) => .error .invalidValue
  | some (word, some value) => { r with open? := none }.take word value

/-- Begin an option whose value is to come. -/
def begin (r : Reading) (word : Word) : Except Refusal Reading := do
  let r ← r.settle
  return { r with open? := some (word, none) }

/-- Take in an option that brings its value along. -/
def attach (r : Reading) (word : Word) (value : String) : Except Refusal Reading := do
  (← r.settle).take word value

/-- Answer a request for help or the version, after checking the last option. -/
def answer (r : Reading) (refusal : Refusal) : Except Refusal Reading := do
  let _ ← r.settle
  throw refusal

/-- Whether the next argument can be the value of the last option. -/
def isWaiting (r : Reading) : Bool :=
  match r.open? with
  | some (_, none) => true
  | _ => false

/-- Read an argument with two dashes: a name, and a value behind an equals sign. -/
def long (r : Reading) (level : Level) (text : List Char) : Except Refusal Reading :=
  let (name, behind) := text.span (· != '=')
  let name := String.ofList name
  let value? := match behind with
    | _ :: value => some (String.ofList value)
    | [] => none
  match level.long? name, value? with
  | some word, some value => r.attach word value
  | some word, none => r.begin word
  | none, value? =>
    let flag? : Option Refusal :=
      if name = "help" then some (.help level.help)
      else if name = "version" ∧ level = .program then some .version
      else none
    match flag?, value? with
    | some flag, none => r.answer flag
    | some _, some _ => .error .tooManyValues
    | none, _ => .error .unknownArgument

/-- Read an argument with one dash: a letter, and a value right behind it. -/
def short (r : Reading) (level : Level) (letter : Char) (behind : List Char) :
    Except Refusal Reading :=
  match level.short? letter with
  | some word =>
    match behind with
    | [] => r.begin word
    | '=' :: value => r.attach word (String.ofList value)
    | value => r.attach word (String.ofList value)
  | none =>
    if letter = 'h' then r.answer (.help level.help)
    else if letter = 'V' ∧ level = .program then r.answer .version
    else .error .unknownArgument

end Reading

/-- Why an argument that is no option cannot stand where it does. -/
def misplaced (level : Level) (afterDashes : Bool) (argument : String) : Refusal :=
  match level with
  | .program =>
    if afterDashes ∧ ((Level.command? argument).isSome ∨ argument = Level.helpCommand) then
      .unknownArgument
    else .invalidCommand
  | _ => .unknownArgument

/-- The answer to the command that prints help. -/
def helpFor : List String → Refusal
  | [] => .help (Level.help .program)
  | topic :: rest =>
    let text? := match Level.command? topic with
      | some command => some command.help
      | none => if topic = Level.helpCommand then some Level.helpOfHelp else none
    match text?, rest with
    | some text, [] => .help text
    | _, _ => .invalidCommand

/-- Read the arguments of one level: what they give, and the command that follows with its arguments. -/
def readLevel (level : Level) (r : Reading) :
    List String → Except Refusal (Reading × Option (Level × List String))
  | [] => .ok (r, none)
  | argument :: rest =>
    match if r.isWaiting ∨ level ≠ .program then none else Level.command? argument with
    | some command => .ok (r, some (command, rest))
    | none =>
      if !r.isWaiting && level = .program && argument = Level.helpCommand then .error (helpFor rest)
      else match argument.toList with
        | ['-', '-'] =>
          match rest with
          | [] => .ok (r, none)
          | next :: _ => .error (misplaced level true next)
        | '-' :: '-' :: text =>
          match r.long level text with
          | .ok r => readLevel level r rest
          | .error refusal => .error refusal
        | '-' :: letter :: behind =>
          match r.short level letter behind with
          | .ok r => readLevel level r rest
          | .error refusal => .error refusal
        | _ =>
          match r.open? with
          | some (word, none) => readLevel level { r with open? := some (word, some argument) } rest
          | _ => .error (misplaced level false argument)

/-- What a command line asks for. -/
structure Arguments where
  /-- The command. -/
  command : Level
  /-- The options behind the command, then those in front of it. -/
  given : List Given
  deriving DecidableEq, Repr

/-- The two roles of the program. -/
inductive Role where
  | serve
  | connect
  deriving DecidableEq, Repr

namespace Arguments

/-- Read the arguments behind the program's name. -/
def parse (arguments : List String) : Except Refusal Arguments := do
  let (front, command?) ← readLevel .program {} arguments
  match command? with
  | none =>
    let front ← front.settle
    throw (if front.given.isEmpty then .nothingGiven else .missingCommand)
  | some (command, rest) =>
    let (behind, _) ← readLevel command {} rest
    let behind ← behind.settle
    let front ← front.settle
    return { command, given := behind.given ++ front.given }

/-- The role that was asked for. -/
def role (a : Arguments) : Role :=
  match a.command with
  | .connect => .connect
  | _ => .serve

/-- The path of the settings file. -/
def configPath? (a : Arguments) : Option String :=
  a.given.findSome? fun
    | .config path => some path
    | _ => none

/-- Put what was given over settings. -/
def override (a : Arguments) (settings : Settings) : Settings :=
  -- The options behind the command come first in the list and win.
  a.given.foldr (fun given s =>
    match given with
    | .config _ => s
    | .logLevel level => { s with logging.level := level }
    | .port port => { s with broker.port := port }
    | .maxPeers maxPeers => { s with broker.maxPeers := maxPeers }
    | .address address => { s with endpoint.address := address }
    | .name name => { s with endpoint.name := name }) settings

/-- The settings that hold, given what reading a file comes to. -/
def settings (a : Arguments) (readFile : String → Except IoError ByteArray) :
    Except SettingsError Settings :=
  match a.configPath? with
  | none => .ok (a.override {})
  | some path => (Settings.load path (readFile path)).map a.override

end Arguments

end ChatRelay.CommandLine
