import ChatRelay.Hosting.Event
import ChatRelay.Hosting.Program
import Std.Async.DNS
import Std.Async.TCP
import Std.Async.Timer
import Std.Sync.Channel
import Std.Time

/-!
# The command line

`main` runs a broker or an endpoint over real sockets. Standard input, the listening socket and every
connection put events into one inbox; the hosting loop takes them out one at a time. What the loop wrote
down in its journal is then carried out on the sockets, and what it has shown is printed.
-/

open Std.Async

namespace ChatRelay.Main

open Hosting

/-- What comes from outside: an event, or a connection that asks to be accepted. -/
inductive Incoming where
  | event (event : Event)
  | arrival (socket : TCP.Socket.Client)

instance : Inhabited Incoming := ⟨.event default⟩

/-- Where events wait for the loop. -/
abbrev Inbox := Std.Channel.Sync Incoming

/-! ## Failures -/

/-- The number of an error. Sockets give it negated, in 32 bits. -/
def errorNumber (code : UInt32) : Int :=
  if code < 0x80000000 then (code.toNat : Int) else (UInt32.size : Int) - code.toNat

/-- The failure behind an exception. -/
def failure : IO.Error → IoError
  | .alreadyExists _ code _ | .otherError code _ | .resourceBusy code _ | .resourceVanished code _
  | .unsupportedOperation code _ | .hardwareFault code _ | .unsatisfiedConstraints code _
  | .illegalOperation code _ | .protocolError code _ | .timeExpired code _ | .interrupted _ code _
  | .noFileOrDirectory _ code _ | .invalidArgument _ code _ | .permissionDenied _ code _
  | .resourceExhausted _ code _ | .inappropriateType _ code _ | .noSuchThing _ code _ =>
    .os (errorNumber code)
  | .unexpectedEof => .simple .unexpectedEof
  | .userError text => .custom .other text

/-- Do something that may fail. -/
def attempt {α : Type} (action : IO α) : IO (Except IoError α) := do
  try
    return .ok (← action)
  catch e =>
    return .error (failure e)

/-! ## Events -/

/-- Read standard input up to a newline, for at most 1024 bytes. No bytes are its end. -/
def readInput (stdin : IO.FS.Stream) : IO (List UInt8) := do
  let mut bytes := ByteArray.empty
  for _ in [0:1024] do
    let next ← stdin.read 1
    bytes := bytes ++ next
    if next.isEmpty || next.data.contains Frame.separator then break
  return bytes.toList

/-- Put what is typed into the inbox, up to its end. -/
def followInput (inbox : Inbox) : IO Unit := do
  let stdin ← IO.getStdin
  let mut going := true
  while going do
    let outcome ← attempt (readInput stdin)
    inbox.send (.event (.input outcome))
    going := match outcome with
      | .ok bytes => !bytes.isEmpty
      | .error _ => false

/-- Put what a connection receives into the inbox, up to its end. -/
def followConnection (inbox : Inbox) (connection : Nat) (socket : TCP.Socket.Client) : Async Unit := do
  let mut going := true
  while going do
    let event ← try
        match ← socket.recv? 4096 with
        | some bytes => pure (ReadEvent.data bytes.toList)
        | none => pure ReadEvent.endOfStream
      catch e => pure (ReadEvent.fault (failure e))
    match event with
    | .data [] => pure ()
    | event => inbox.send (.event (.readable connection event))
    going := match event with
      | .data _ => true
      | _ => false

/-- Put the connections that come into the inbox. After a failure it waits before it goes on. -/
def followListener (inbox : Inbox) (server : TCP.Socket.Server) : Async Unit := do
  while true do
    try
      inbox.send (.arrival (← server.accept))
    catch e =>
      inbox.send (.event (.acceptFailed (failure e)))
      sleep (.ofNat Serving.retryInterval)

/-- Start something that goes on by itself. -/
def start (action : Async Unit) : IO Unit := do
  let _ ← Async.toIO action

/-! ## Sockets -/

/-- The addresses of a text. -/
def lookUp (text : String) : IO (Except IoError (List SocketAddress)) := do
  match SocketAddress.split text with
  | .error cause => return .error cause
  | .ok address =>
    match ← attempt (DNS.getAddrInfo address.host (toString address.port)).block with
    | .error _ => return .error SocketAddress.unknownHost
    | .ok found => return .ok (found.toList.map fun ip => ⟨toString ip, address.port⟩).eraseDups

/-- Open a connection to an address. -/
def openConnection (address : SocketAddress) : IO TCP.Socket.Client := do
  let port := address.port.toUInt16
  let target : Std.Net.SocketAddress ←
    match Std.Net.IPv4Addr.ofString address.host, Std.Net.IPv6Addr.ofString address.host with
    | some ip, _ => pure (.v4 ⟨ip, port⟩)
    | none, some ip => pure (.v6 ⟨ip, port⟩)
    | none, none => throw (.userError "not an address")
  let socket ← TCP.Socket.Client.mk
  (socket.connect target).block
  return socket

/-- Try the addresses of a text in order until one accepts: what came of each, and the socket. -/
def dial (text : String) : IO (Dialer × Option TCP.Socket.Client) := do
  let addresses ← lookUp text
  let mut causes : List (SocketAddress × IoError) := []
  let mut socket? := none
  for address in addresses.toOption.getD [] do
    if socket?.isNone then
      match ← attempt (openConnection address) with
      | .ok socket => socket? := some socket
      | .error cause => causes := (address, cause) :: causes
  let failed := causes
  return ({ resolve := fun _ => addresses, attempt := fun address => failed.lookup address }, socket?)

/-- Listen on a port of all IPv4 interfaces. -/
def openListener (port : Nat) : IO (TCP.Socket.Server × Except ListenFault Unit) := do
  let server ← TCP.Socket.Server.mk
  let outcome ← attempt do
    server.bind (.v4 ⟨⟨.replicate 4 0⟩, port.toUInt16⟩)
    server.listen 128
  return (server, outcome.mapError .bind)

/-- Send bytes without waiting for them to go out. -/
def send (socket : TCP.Socket.Client) (bytes : List UInt8) : IO Unit :=
  start (socket.send ⟨bytes.toArray⟩)

/-! ## Output -/

/-- Print the messages that have been shown. -/
def printShown (messages : Array Message) : IO Unit := do
  let stdout ← IO.getStdout
  for message in messages do
    let now ← Std.Time.PlainTime.now
    stdout.putStr (line (now.format "HH:mm:ss") message)
  stdout.flush

/-- Print a line of the log, if the setting lets it through. -/
def printLog (level : String) (entry : Option Log.Line) : IO Unit :=
  match entry with
  | some l => if l.passes level then IO.eprintln l.render else pure ()
  | none => pure ()

/-! ## The roles -/

/-- The sockets of a broker by the number of their connection, as long as they are open. -/
abbrev Sockets := Array (Option TCP.Socket.Client)

/-- Carry out one thing the broker wrote down: follow the connections it took in, send what it wrote, and
let go of those it dropped. -/
def carryOut (inbox : Inbox) (sockets : Sockets) (entry : Broker.Entry) : IO Sockets := do
  let socket? (connection : Nat) := sockets[connection]?.join
  match entry with
  | .accepted connection _ =>
    if let some socket := socket? connection then start (followConnection inbox connection socket)
    return sockets
  | .wrote connection bytes =>
    if let some socket := socket? connection then send socket bytes
    return sockets
  | .turnedAway connection _ | .registrationRefused connection _ | .left connection _ _ _ =>
    if let some socket := socket? connection then start socket.shutdown
    return sockets.modify connection fun _ => none
  | _ => return sockets

/-- Carry out what a broker wrote down, and print what has been shown. -/
def publishServing (settings : Settings) (inbox : Inbox) (sockets : Sockets) (p : Progress Broker) :
    IO (Sockets × Progress Broker) := do
  let mut sockets := sockets
  for entry in p.party.journal do
    printLog settings.logging.level entry.log?
    sockets ← carryOut inbox sockets entry
  printShown p.shown
  return (sockets, { p with shown := #[], party := { p.party with journal := #[] } })

/-- Run a broker until standard input ends. -/
def serve (settings : Settings) : IO Exit := do
  let (server, setup) ← openListener settings.broker.port
  match startServing settings.broker setup with
  | .error exit => return exit
  | .ok begun =>
    let inbox : Inbox ← Std.Channel.Sync.new
    let _ ← IO.asTask (followInput inbox) .dedicated
    start (followListener inbox server)
    let mut (sockets, p) ← publishServing settings inbox #[] begun
    while p.ending.isNone do
      match ← inbox.recv with
      | .event event => p := Serving.turn p event
      | .arrival socket =>
        sockets := sockets.push (some socket)
        p := Serving.turn p .arrival
      (sockets, p) ← publishServing settings inbox sockets p
    return p.exit ""

/-- Carry out what an endpoint wrote down: send what it wrote, and print what has been shown. -/
def publishConnecting (settings : Settings) (socket : TCP.Socket.Client) (p : Progress Endpoint) :
    IO (Progress Endpoint) := do
  for entry in p.party.journal do
    printLog settings.logging.level entry.log?
    if let .wrote bytes := entry then send socket bytes
  printShown p.shown
  return { p with shown := #[], party := { p.party with journal := #[] } }

/-- Run an endpoint until standard input ends or the connection closes. A line that is being typed when
the connection closes is waited for. -/
def connect (settings : Settings) : IO Exit := do
  -- Under a name that cannot travel no connection is opened.
  let (dialer, socket?) ← if DisplayName.isFramable settings.endpoint.name then
      dial settings.endpoint.address
    else pure ({ resolve := fun _ => .ok [], attempt := fun _ => none }, none)
  match startConnecting settings.endpoint dialer, socket? with
  | .error exit, _ => return exit
  | .ok p, none => return p.exit ""
  | .ok begun, some socket =>
    let inbox : Inbox ← Std.Channel.Sync.new
    let _ ← IO.asTask (followInput inbox) .dedicated
    start (followConnection inbox 0 socket)
    let mut p ← publishConnecting settings socket
      (Connecting.step begun (.ok (Connecting.flush begun.party)))
    while p.ending.isNone do
      if let .event event ← inbox.recv then
        p ← publishConnecting settings socket (Connecting.turn p event)
    start socket.shutdown
    return p.exit ""

/-- The contents of the settings file that the arguments name. -/
def readSettingsFile (arguments : List String) : IO (Except IoError ByteArray) :=
  match (CommandLine.Arguments.parse arguments).toOption.bind (·.configPath?) with
  | some path => attempt (IO.FS.readBinFile path)
  | none => pure (.error (.simple .notFound))

/-- Run the program to its end. -/
def run (arguments : List String) : IO Exit := do
  let contents ← readSettingsFile arguments
  match plan arguments fun _ => contents with
  | .error exit => return exit
  | .ok ⟨.serve, settings⟩ => serve settings
  | .ok ⟨.connect, settings⟩ => connect settings

end ChatRelay.Main

open ChatRelay in
/-- Run the program. Wrong arguments are answered with the help. -/
def main (arguments : List String) : IO UInt32 := do
  let exit ← Main.run arguments
  IO.print exit.output
  if exit.code = 2 then IO.eprint (CommandLine.Level.help .program)
  if let some complaint := exit.complaint then IO.eprintln complaint
  return exit.code.toUInt32
