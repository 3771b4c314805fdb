/-!
# Kinds of input and output failures

`ErrorKind` classifies a failed operation of the operating system. A kind has a name, by which it
is shown to a programmer, and a description, by which it is shown to a user.
-/

namespace ChatRelay

/-- What went wrong in an operation of the operating system. -/
inductive ErrorKind where
  | notFound | permissionDenied | connectionRefused | connectionReset | hostUnreachable
  | networkUnreachable | connectionAborted | notConnected | addrInUse | addrNotAvailable
  | networkDown | brokenPipe | alreadyExists | wouldBlock | notADirectory | isADirectory
  | directoryNotEmpty | readOnlyFilesystem | filesystemLoop | staleNetworkFileHandle
  | invalidInput | invalidData | timedOut | writeZero | storageFull | notSeekable
  | quotaExceeded | fileTooLarge | resourceBusy | executableFileBusy | deadlock
  | crossesDevices | tooManyLinks | invalidFilename | argumentListTooLong | interrupted
  | unsupported | unexpectedEof | outOfMemory | inProgress | other | uncategorized
  deriving DecidableEq, Repr, Inhabited

namespace ErrorKind

/-- Every kind with its name and its description. -/
def table : List (ErrorKind × String × String) :=
  [(.notFound, "NotFound", "entity not found"),
   (.permissionDenied, "PermissionDenied", "permission denied"),
   (.connectionRefused, "ConnectionRefused", "connection refused"),
   (.connectionReset, "ConnectionReset", "connection reset"),
   (.hostUnreachable, "HostUnreachable", "host unreachable"),
   (.networkUnreachable, "NetworkUnreachable", "network unreachable"),
   (.connectionAborted, "ConnectionAborted", "connection aborted"),
   (.notConnected, "NotConnected", "not connected"),
   (.addrInUse, "AddrInUse", "address in use"),
   (.addrNotAvailable, "AddrNotAvailable", "address not available"),
   (.networkDown, "NetworkDown", "network down"),
   (.brokenPipe, "BrokenPipe", "broken pipe"),
   (.alreadyExists, "AlreadyExists", "entity already exists"),
   (.wouldBlock, "WouldBlock", "operation would block"),
   (.notADirectory, "NotADirectory", "not a directory"),
   (.isADirectory, "IsADirectory", "is a directory"),
   (.directoryNotEmpty, "DirectoryNotEmpty", "directory not empty"),
   (.readOnlyFilesystem, "ReadOnlyFilesystem", "read-only filesystem or storage medium"),
   (.filesystemLoop, "FilesystemLoop", "filesystem loop or indirection limit (e.g. symlink loop)"),
   (.staleNetworkFileHandle, "StaleNetworkFileHandle", "stale network file handle"),
   (.invalidInput, "InvalidInput", "invalid input parameter"),
   (.invalidData, "InvalidData", "invalid data"),
   (.timedOut, "TimedOut", "timed out"),
   (.writeZero, "WriteZero", "write zero"),
   (.storageFull, "StorageFull", "no storage space"),
   (.notSeekable, "NotSeekable", "seek on unseekable file"),
   (.quotaExceeded, "QuotaExceeded", "quota exceeded"),
   (.fileTooLarge, "FileTooLarge", "file too large"),
   (.resourceBusy, "ResourceBusy", "resource busy"),
   (.executableFileBusy, "ExecutableFileBusy", "executable file busy"),
   (.deadlock, "Deadlock", "deadlock"),
   (.crossesDevices, "CrossesDevices", "cross-device link or rename"),
   (.tooManyLinks, "TooManyLinks", "too many links"),
   (.invalidFilename, "InvalidFilename", "invalid filename"),
   (.argumentListTooLong, "ArgumentListTooLong", "argument list too long"),
   (.interrupted, "Interrupted", "operation interrupted"),
   (.unsupported, "Unsupported", "unsupported"),
   (.unexpectedEof, "UnexpectedEof", "unexpected end of file"),
   (.outOfMemory, "OutOfMemory", "out of memory"),
   (.inProgress, "InProgress", "in progress"),
   (.other, "Other", "other error"),
   (.uncategorized, "Uncategorized", "uncategorized error")]

/-- The name of a kind. -/
def name (kind : ErrorKind) : String :=
  match table.lookup kind with
  | some (name, _) => name
  | none => ""

/-- The description of a kind. -/
def description (kind : ErrorKind) : String :=
  match table.lookup kind with
  | some (_, description) => description
  | none => ""

/-- The kind of a given name. -/
def ofName? (name : String) : Option ErrorKind :=
  (table.find? (·.2.1 == name)).map (·.1)

/-- Every kind is in the table. -/
theorem isSome_lookup (kind : ErrorKind) : (table.lookup kind).isSome := by
  cases kind <;> decide

end ErrorKind

end ChatRelay
