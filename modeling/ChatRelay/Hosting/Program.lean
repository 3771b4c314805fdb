import ChatRelay.CommandLine.Arguments
import ChatRelay.Hosting.Basic

/-!
# The program

What the program does from its arguments to its exit code, except for the waiting itself.

- `Plan`: what the arguments and the settings file come to.
- `Exit`: how the program ends.
- `startServing`, `startConnecting`: the two roles up to their first wait.
- `serve`, `connect`: the two roles to their end, given what happens to them and what the allocator
  answers.
-/

namespace ChatRelay.Hosting

/-- How the program ends: its exit code, and what it has printed. -/
structure Exit where
  code : Nat := 0
  output : String := ""
  /-- The line on standard error that tells why it gave up. -/
  complaint : Option String := none
  deriving DecidableEq, Repr

namespace Exit

/-- The end of a program that gives up for a cause. -/
def givingUp (output record : String) : Exit := ⟨1, output, some ("Error: " ++ record)⟩

/-- The end of a program that the arguments sent away. -/
def ofRefusal (refusal : CommandLine.Refusal) : Exit :=
  { code := refusal.exitCode, output := refusal.output?.getD "" }

end Exit

/-- What the program is to do. -/
structure Plan where
  role : CommandLine.Role
  settings : Settings
  deriving DecidableEq, Repr

/-- What the arguments come to: a role with its settings, or an end right away. -/
def plan (arguments : List String) (readFile : String → Except IoError ByteArray) :
    Except Exit Plan :=
  match CommandLine.Arguments.parse arguments with
  | .error refusal => .error (.ofRefusal refusal)
  | .ok arguments =>
    match arguments.settings readFile with
    | .error cause => .error (.givingUp "" cause.record)
    | .ok settings => .ok ⟨arguments.role, settings⟩

/-- A message as the program shows it, behind the time of day. -/
def line (time : String) (m : Message) : String := "[" ++ time ++ "] " ++ m.render ++ "\n"

/-- The end of a loop, with the messages it has shown. A loop that has not ended counts as stopped. -/
def Progress.exit {α : Type} (time : String) (p : Progress α) : Exit :=
  let output := p.shown.foldl (fun out m => out ++ line time m) ""
  match p.ending with
  | some (.error cause) => .givingUp output cause.record
  | _ => { output }

/-- Begin to serve, given how setting up the listening socket goes. -/
def startServing (settings : BrokerSettings) (setup : Except ListenFault Unit)
    (supply : Broker.Supply := {}) : Except Exit (Progress Broker) :=
  match (Broker.ofSettings settings supply).listen settings.port setup with
  | (_, .error cause) => .error (.givingUp "" cause.record)
  | (b, .ok ()) => .ok { party := b }

/-- Begin to be connected, given how connecting goes. -/
def startConnecting (settings : EndpointSettings) (dialer : Dialer)
    (supply : Endpoint.Supply := {}) : Except Exit (Progress Endpoint) :=
  match Endpoint.ofSettings settings supply with
  | .error cause => .error (.givingUp "" cause.record)
  | .ok e =>
    match e.connect settings.address dialer with
    | (_, .error cause) => .error (.givingUp "" cause.record)
    | (e, .ok ()) => .ok { party := e }

/-- Run a broker: how setting up its socket goes, and what each wait brings. -/
def serve (settings : BrokerSettings) (setup : Except ListenFault Unit) (time : String)
    (waits : List (Except IoError Wakeup)) (supply : Broker.Supply := {}) : Exit :=
  match startServing settings setup supply with
  | .error exit => exit
  | .ok p => (run Serving.step p waits).exit time

/-- Run an endpoint: how connecting goes, and what each wait brings. -/
def connect (settings : EndpointSettings) (dialer : Dialer) (time : String)
    (waits : List (Except IoError Wakeup)) (supply : Endpoint.Supply := {}) : Exit :=
  match startConnecting settings dialer supply with
  | .error exit => exit
  | .ok p => (run Connecting.step p waits).exit time

end ChatRelay.Hosting
