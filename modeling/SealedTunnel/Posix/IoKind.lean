namespace SealedTunnel

inductive IoKind
  | addrInUse
  | addrNotAvailable
  | alreadyExists
  | argumentListTooLong
  | brokenPipe
  | connectionAborted
  | connectionRefused
  | connectionReset
  | crossesDevices
  | deadlock
  | directoryNotEmpty
  | executableFileBusy
  | fileTooLarge
  | filesystemLoop
  | hostUnreachable
  | inProgress
  | inputOutputError
  | interrupted
  | invalidData
  | invalidFilename
  | invalidInput
  | isADirectory
  | networkDown
  | networkUnreachable
  | notADirectory
  | notConnected
  | notFound
  | notSeekable
  | other
  | outOfMemory
  | permissionDenied
  | quotaExceeded
  | readOnlyFilesystem
  | resourceBusy
  | staleNetworkFileHandle
  | storageFull
  | timedOut
  | tooManyLinks
  | uncategorized
  | unexpectedEof
  | unsupported
  | wouldBlock
  | writeZero
  deriving DecidableEq, Repr

namespace IoKind

def table : List (IoKind × String × String) := [
  (addrInUse, "AddrInUse", "address in use"),
  (addrNotAvailable, "AddrNotAvailable", "address not available"),
  (alreadyExists, "AlreadyExists", "entity already exists"),
  (argumentListTooLong, "ArgumentListTooLong", "argument list too long"),
  (brokenPipe, "BrokenPipe", "broken pipe"),
  (connectionAborted, "ConnectionAborted", "connection aborted"),
  (connectionRefused, "ConnectionRefused", "connection refused"),
  (connectionReset, "ConnectionReset", "connection reset"),
  (crossesDevices, "CrossesDevices", "cross-device link or rename"),
  (deadlock, "Deadlock", "deadlock"),
  (directoryNotEmpty, "DirectoryNotEmpty", "directory not empty"),
  (executableFileBusy, "ExecutableFileBusy", "executable file busy"),
  (fileTooLarge, "FileTooLarge", "file too large"),
  (filesystemLoop, "FilesystemLoop", "filesystem loop or indirection limit (e.g. symlink loop)"),
  (hostUnreachable, "HostUnreachable", "host unreachable"),
  (inProgress, "InProgress", "in progress"),
  (inputOutputError, "InputOutputError", "input/output error"),
  (interrupted, "Interrupted", "operation interrupted"),
  (invalidData, "InvalidData", "invalid data"),
  (invalidFilename, "InvalidFilename", "invalid filename"),
  (invalidInput, "InvalidInput", "invalid input parameter"),
  (isADirectory, "IsADirectory", "is a directory"),
  (networkDown, "NetworkDown", "network down"),
  (networkUnreachable, "NetworkUnreachable", "network unreachable"),
  (notADirectory, "NotADirectory", "not a directory"),
  (notConnected, "NotConnected", "not connected"),
  (notFound, "NotFound", "entity not found"),
  (notSeekable, "NotSeekable", "seek on unseekable file"),
  (other, "Other", "other error"),
  (outOfMemory, "OutOfMemory", "out of memory"),
  (permissionDenied, "PermissionDenied", "permission denied"),
  (quotaExceeded, "QuotaExceeded", "quota exceeded"),
  (readOnlyFilesystem, "ReadOnlyFilesystem", "read-only filesystem or storage medium"),
  (resourceBusy, "ResourceBusy", "resource busy"),
  (staleNetworkFileHandle, "StaleNetworkFileHandle", "stale network file handle"),
  (storageFull, "StorageFull", "no storage space"),
  (timedOut, "TimedOut", "timed out"),
  (tooManyLinks, "TooManyLinks", "too many links"),
  (uncategorized, "Uncategorized", "uncategorized error"),
  (unexpectedEof, "UnexpectedEof", "unexpected end of file"),
  (unsupported, "Unsupported", "unsupported"),
  (wouldBlock, "WouldBlock", "operation would block"),
  (writeZero, "WriteZero", "write zero")]

def entry? (kind : IoKind) : Option (String × String) := (table.find? fun row => row.1 = kind).map (·.2)

def label (kind : IoKind) : String := (kind.entry?.map (·.1)).getD ""

def description (kind : IoKind) : String := (kind.entry?.map (·.2)).getD ""

def ofLabel? (text : String) : Option IoKind := (table.find? fun row => row.2.1 == text).map (·.1)

end IoKind
end SealedTunnel
