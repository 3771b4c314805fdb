import ChatRelay.Settings.Basic
import ChatRelay.System.IoError
import ChatRelay.Text.Quoted
import ChatRelay.Toml.Document

/-!
# Settings from a file

A settings file is TOML with the tables `broker`, `endpoint` and `logging`. A field that is missing keeps
its usual value, and an unknown one is passed over. A table may also be written as an array of its fields
in order.

- `Settings.ofToml?`: the settings that a document gives.
- `Settings.load`: the settings of a file, given what reading it came to.
-/

namespace ChatRelay

/-- Why the settings of a file cannot be had. -/
inductive SettingsError where
  | fileRead (path : String) (cause : IoError)
  | tomlParse (path : String)
  deriving DecidableEq, Repr

namespace SettingsError

/-- The text a user sees, where the relay itself words it. -/
def message : SettingsError → String
  | fileRead path cause => s!"Failed to read config file '{path}': {cause.message}"
  | tomlParse path => s!"Failed to parse config file '{path}'"

/-- The cause by name, with its parts. -/
def record : SettingsError → String
  | fileRead path cause => s!"FileRead({Text.quoted path}, {cause.record})"
  | tomlParse _ => "TomlParse"

end SettingsError

namespace Settings

/-- The greatest number a count can be given as. -/
def greatestCount : Nat := Int64.maxValue.toInt.toNat

/-- A field that may be missing. -/
def optional {α : Type} (read : Toml.Value → Option α) (default : α) : Option Toml.Value → Option α
  | none => some default
  | some v => read v

/-- The broker's settings given by a value. -/
def brokerOf? (v : Toml.Value) : Option BrokerSettings := do
  let usual : BrokerSettings := {}
  match ← v.fields? ["port", "max_peers", "server_author", "event_capacity"] with
  | [port, maxPeers, serverAuthor, eventCapacity] =>
    some
      { port := ← optional (Toml.Value.natural? 65535) usual.port port
        maxPeers := ← optional (Toml.Value.natural? greatestCount) usual.maxPeers maxPeers
        serverAuthor := ← optional Toml.Value.string? usual.serverAuthor serverAuthor
        eventCapacity :=
          ← optional (Toml.Value.natural? greatestCount) usual.eventCapacity eventCapacity }
  | _ => none

/-- The endpoint's settings given by a value. -/
def endpointOf? (v : Toml.Value) : Option EndpointSettings := do
  let usual : EndpointSettings := {}
  match ← v.fields? ["address", "name", "event_capacity"] with
  | [address, name, eventCapacity] =>
    some
      { address := ← optional Toml.Value.string? usual.address address
        name := ← optional Toml.Value.string? usual.name name
        eventCapacity :=
          ← optional (Toml.Value.natural? greatestCount) usual.eventCapacity eventCapacity }
  | _ => none

/-- The log's settings given by a value. -/
def loggingOf? (v : Toml.Value) : Option LoggingSettings := do
  let usual : LoggingSettings := {}
  match ← v.fields? ["level"] with
  | [level] => some { level := ← optional Toml.Value.string? usual.level level }
  | _ => none

/-- The settings given by a document. -/
def ofToml? (document : Toml.Value) : Option Settings := do
  match ← document.fields? ["broker", "endpoint", "logging"] with
  | [broker, endpoint, logging] =>
    some
      { broker := ← optional brokerOf? {} broker
        endpoint := ← optional endpointOf? {} endpoint
        logging := ← optional loggingOf? {} logging }
  | _ => none

/-- Why a file that is not UTF-8 cannot be read. -/
def notUtf8 : IoError := .described .invalidData "stream did not contain valid UTF-8"

/-- What reading the file at `path` comes to, given what it comes to if the system takes the name. -/
def readable (path : String) (contents : Except IoError ByteArray) : Except IoError ByteArray :=
  if path.toList.contains '\x00' then .error .nulInName else contents

/-- The settings of the file at `path`, given its bytes or why it could not be read. -/
def load (path : String) (contents : Except IoError ByteArray) : Except SettingsError Settings :=
  match readable path contents with
  | .error cause => .error (.fileRead path cause)
  | .ok bytes =>
    match String.fromUTF8? bytes with
    | none => .error (.fileRead path notUtf8)
    | some text =>
      match (Toml.parse text).bind ofToml? with
      | none => .error (.tomlParse path)
      | some settings => .ok settings

end Settings

end ChatRelay
