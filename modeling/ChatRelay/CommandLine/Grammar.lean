/-!
# The words of the command line

The program has two commands, `serve` and `connect`, with options of their own and options that may
stand in front of the command or behind it.

- `Word`: the options, with how they are written and what value they take.
- `Level`: the program itself and its commands, with their options.
- `Level.help`: the help that a level prints.
-/

namespace ChatRelay.CommandLine

/-- An option that takes a value. -/
inductive Word where
  | config | logLevel | port | maxPeers | address | name
  deriving DecidableEq, Repr

namespace Word

/-- The letter behind one dash. -/
def short? : Word → Option Char
  | config => some 'c'
  | logLevel => none
  | port => some 'p'
  | maxPeers => none
  | address => some 'a'
  | name => some 'n'

/-- The name behind two dashes. -/
def long : Word → String
  | config => "config"
  | logLevel => "log-level"
  | port => "port"
  | maxPeers => "max-peers"
  | address => "address"
  | name => "name"

/-- What stands for the value in the help. -/
def placeholder : Word → String
  | config => "<CONFIG>"
  | logLevel => "<LOG_LEVEL>"
  | port => "<PORT>"
  | maxPeers => "<MAX_PEERS>"
  | address => "<ADDRESS>"
  | name => "<NAME>"

/-- What the option is for. -/
def summary : Word → String
  | config => "Path to TOML configuration file"
  | logLevel => "Log level (trace, debug, info, warn, error)"
  | port => "Port to listen on"
  | maxPeers => "Maximum number of connected endpoints"
  | address => "Broker address (host:port)"
  | name => "Display name announced to the broker"

end Word

/-- Where on the command line an option stands: in front of the command, or behind one. -/
inductive Level where
  | program | serve | connect
  deriving DecidableEq, Repr

namespace Level

/-- The name of the program. -/
def programName : String := "nul-relay"

/-- The version of the program. -/
def version : String := "0.1.0"

/-- The name of a command. -/
def name : Level → String
  | program => programName
  | serve => "serve"
  | connect => "connect"

/-- What a level is for. -/
def about : Level → String
  | program => "Text chat relay over NUL-delimited frames"
  | serve => "Run a broker that relays lines between connected endpoints"
  | connect => "Connect to a broker as an endpoint"

/-- The options of a level, in the order of the help. -/
def words : Level → List Word
  | program => [.config, .logLevel]
  | serve => [.config, .port, .logLevel, .maxPeers]
  | connect => [.address, .config, .logLevel, .name]

/-- The commands. -/
def commands : List Level := [.serve, .connect]

/-- The command that prints help. -/
def helpCommand : String := "help"

/-- The command of a given name. -/
def command? (text : String) : Option Level := commands.find? (·.name == text)

/-- The option of a letter. -/
def short? (level : Level) (c : Char) : Option Word := level.words.find? (·.short? == some c)

/-- The option of a name. -/
def long? (level : Level) (text : String) : Option Word := level.words.find? (·.long == text)

/-- Lines of two columns, the second behind the longest entry of the first. -/
def columns (rows : List (String × String)) : String :=
  let width := rows.foldl (fun width row => max width row.1.length) 0
  String.join (rows.map fun row =>
    "  " ++ row.1 ++ "".pushn ' ' (width + 2 - row.1.length) ++ row.2 ++ "\n")

/-- What the command that prints help is for. -/
def helpAbout : String := "Print this message or the help of the given subcommand(s)"

/-- The rows of the options in the help. -/
def optionRows (level : Level) : List (String × String) :=
  let row (w : Word) :=
    let letter := match w.short? with
      | some c => "-" ++ c.toString ++ ", "
      | none => "    "
    (letter ++ "--" ++ w.long ++ " " ++ w.placeholder, w.summary)
  level.words.map row ++ [("-h, --help", "Print help")] ++
    if level = .program then [("-V, --version", "Print version")] else []

/-- The help of a level. -/
def help (level : Level) : String :=
  let usage := match level with
    | .program => programName ++ " [OPTIONS] <COMMAND>"
    | command => programName ++ " " ++ command.name ++ " [OPTIONS]"
  let commandRows := commands.map (fun c => (c.name, c.about)) ++ [(helpCommand, helpAbout)]
  level.about ++ "\n\nUsage: " ++ usage ++ "\n\n" ++
    (if level = .program then "Commands:\n" ++ columns commandRows ++ "\n" else "") ++
    "Options:\n" ++ columns level.optionRows

/-- The help of the command that prints help. -/
def helpOfHelp : String :=
  helpAbout ++ "\n\nUsage: " ++ programName ++ " " ++ helpCommand ++ " [COMMAND]...\n\n" ++
    "Arguments:\n" ++ columns [("[COMMAND]...", "Print help for the subcommand(s)")]

end Level

end ChatRelay.CommandLine
