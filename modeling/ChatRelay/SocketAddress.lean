import ChatRelay.System.IoError
import ChatRelay.Text.Digit

/-!
# Socket addresses

An address is written `host:port`. A numeric host stands for itself; any other has to be looked up.
An IPv6 address may stand in brackets, and may tell behind a `%` through which interface it is reached.

- `SocketAddress.split`: the host and the port, or why there is none.
- `SocketAddress.isNumeric`: whether a host is an IPv4 or IPv6 address.
- `SocketAddress.resolveLocally`: the addresses of a text when no name service answers.
-/

namespace ChatRelay

/-- Where a socket can be connected to. -/
structure SocketAddress where
  host : String
  port : Nat
  deriving DecidableEq, Repr, Inhabited

namespace SocketAddress

/-- A port: decimal digits, with a plus sign allowed in front. -/
def port? (text : List Char) : Option Nat :=
  let digits := match text with
    | '+' :: digits => digits
    | digits => digits
  Text.numberUpTo? 65535 10 digits

/-- Why a text without a colon is refused. -/
def noPort : IoError := .described .invalidInput "invalid socket address"

/-- Why a text with a bad port is refused. -/
def badPort : IoError := .described .invalidInput "invalid port value"

/-- Why a host that nobody knows is refused. -/
def unknownHost : IoError :=
  .custom .uncategorized "failed to lookup address information: Name or service not known"

/-- The parts of a text between the occurrences of `separator`. -/
def parts (separator : Char) (text : List Char) : List (List Char) :=
  text.foldr (fun c acc =>
    if c = separator then [] :: acc
    else match acc with
      | first :: rest => (c :: first) :: rest
      | [] => [[c]]) [[]]

/-- A part of an IPv4 address of at most 32 bits: hexadecimal behind `0x`, octal behind `0`, else
decimal. -/
def ipv4Part? : List Char → Option Nat
  | '0' :: 'x' :: digits | '0' :: 'X' :: digits => Text.numberUpTo? (UInt32.size - 1) 16 digits
  | '0' :: digit :: digits => Text.numberUpTo? (UInt32.size - 1) 8 (digit :: digits)
  | digits => Text.numberUpTo? (UInt32.size - 1) 10 digits

/-- Whether a text is an IPv4 address: up to four numbers, of which the last fills what the others
leave of 32 bits. -/
def isIpv4 (text : List Char) : Bool :=
  match (parts '.' text).mapM ipv4Part? with
  | none => false
  | some numbers =>
    let count := numbers.length
    count ≤ 4 && numbers.dropLast.all (· < 256) &&
      numbers.getLast?.any (· < 1 <<< (8 * (5 - count)))

/-- Whether a text is an IPv4 address of four plain decimal numbers. -/
def isDottedQuad (text : List Char) : Bool :=
  let quads := parts '.' text
  quads.length == 4 && quads.all fun quad =>
    (Text.numberUpTo? 255 10 quad).isSome && (quad == ['0'] || quad.head? != some '0')

/-- Whether a text is a group of an IPv6 address: one to four hexadecimal digits. -/
def isGroup (text : List Char) : Bool := text.length ≤ 4 && (Text.number? 16 text).isSome

/-- How many groups a run of them has; an IPv4 address may stand last and counts as two. -/
def groupCount? (text : List Char) (dottedEnd : Bool) : Option Nat :=
  if text.isEmpty then some 0
  else
    let groups := parts ':' text
    match groups.getLast? with
    | none => none
    | some last =>
      if !groups.dropLast.all isGroup then none
      else if isGroup last then some groups.length
      else if dottedEnd && isDottedQuad last then some (groups.length + 1)
      else none

/-- Cut a text at the first `::`. -/
def cutAtGap : List Char → Option (List Char × List Char)
  | ':' :: ':' :: rest => some ([], rest)
  | c :: rest => (cutAtGap rest).map fun (before, behind) => (c :: before, behind)
  | [] => none

/-- Whether a text is an IPv6 address: eight groups, or fewer with one `::` for the missing ones. -/
def isIpv6 (text : List Char) : Bool :=
  match cutAtGap text with
  | none => groupCount? text true == some 8
  | some (before, behind) =>
    match groupCount? before false, groupCount? behind true with
    | some m, some n => m + n ≤ 7
    | _, _ => false

/-- Whether a text is the number of a network interface. -/
def isInterfaceNumber (text : List Char) : Bool :=
  (Text.numberUpTo? (UInt32.size - 1) 10 text).isSome

/-- Whether a text is an IPv6 address, alone or with the number of an interface behind a `%`. -/
def isNumberedIpv6 (text : List Char) : Bool :=
  match text.span (· != '%') with
  | (address, []) => isIpv6 address
  | (address, _ :: interface) => isIpv6 address && isInterfaceNumber interface

/-- Whether an IPv6 address, be it of one host or of a group, holds on one link only. -/
def isLinkLocal (text : List Char) : Bool :=
  (Text.number? 16 (text.takeWhile (· != ':'))).any fun group =>
    (0xFE80 ≤ group && group < 0xFEC0) || (0xFF00 ≤ group && group % 16 = 2)

/-- The name of the interface that every host has. -/
def ownInterface : String := "lo"

/-- Whether a text is an IPv6 address with the name of an interface behind a `%`. Only an address that
holds on one link can have it. -/
def isNamedIpv6 (text : List Char) : Bool :=
  match text.span (· != '%') with
  | (_, []) => false
  | (address, _ :: interface) =>
    isIpv6 address && isLinkLocal address && interface == ownInterface.toList

/-- Whether a host is an address and needs no looking up. -/
def isNumeric (host : String) : Bool :=
  isIpv4 host.toList || isNumberedIpv6 host.toList || isNamedIpv6 host.toList

/-- The host that stands in front of a port. An IPv6 address may stand in brackets, provided that the
port is written in digits alone. -/
def hostBefore (port host : List Char) : List Char :=
  match host with
  | '[' :: rest =>
    if rest.getLast? == some ']' && isNumberedIpv6 rest.dropLast && port.all Char.isDigit then
      rest.dropLast
    else host
  | _ => host

/-- Split a text at its last colon into host and port. A bad port is found before a bad host. -/
def split (text : String) : Except IoError SocketAddress :=
  match text.toList.reverse.span (· != ':') with
  | (_, []) => .error noPort
  | (port, _ :: host) =>
    match port? port.reverse with
    | none => .error badPort
    | some number =>
      if host.contains '\x00' then .error .nulInName
      else .ok ⟨String.ofList (hostBefore port host.reverse), number⟩

/-- The name by which every host knows itself. -/
def ownName : String := "localhost"

/-- Whether a host is known by its own name. Case makes no difference. -/
def isOwnName (host : String) : Bool := host.toList.map Char.toLower == ownName.toList

/-- The addresses of a text when no name service answers: a host knows its own name only. -/
def resolveLocally (text : String) : Except IoError (List SocketAddress) :=
  match split text with
  | .error cause => .error cause
  | .ok address =>
    if isNumeric address.host || isOwnName address.host then .ok [address] else .error unknownHost

end SocketAddress

end ChatRelay
