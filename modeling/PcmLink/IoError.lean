/-!
# Failures of the system

A failure is either a numbered error of the operating system or one that a component raises with a
kind and a text of its own. The number decides the kind and the text of the former.
-/

namespace PcmLink

/-- What sort of failure it is. -/
inductive IoKind where
  | notFound | permissionDenied | connectionRefused | connectionReset | hostUnreachable
  | networkUnreachable | connectionAborted | notConnected | addrInUse | addrNotAvailable
  | networkDown | brokenPipe | alreadyExists | wouldBlock | notADirectory | isADirectory
  | directoryNotEmpty | readOnlyFilesystem | filesystemLoop | staleNetworkFileHandle
  | invalidInput | invalidData | timedOut | writeZero | storageFull | notSeekable | quotaExceeded
  | fileTooLarge | resourceBusy | executableFileBusy | deadlock | crossesDevices | tooManyLinks
  | invalidFilename | argumentListTooLong | interrupted | unsupported | unexpectedEof
  | outOfMemory | inProgress | inputOutputError | other | uncategorized
  deriving DecidableEq, Repr

/-- The name under which a kind is reported. -/
def IoKind.name : IoKind → String
  | .notFound => "NotFound"
  | .permissionDenied => "PermissionDenied"
  | .connectionRefused => "ConnectionRefused"
  | .connectionReset => "ConnectionReset"
  | .hostUnreachable => "HostUnreachable"
  | .networkUnreachable => "NetworkUnreachable"
  | .connectionAborted => "ConnectionAborted"
  | .notConnected => "NotConnected"
  | .addrInUse => "AddrInUse"
  | .addrNotAvailable => "AddrNotAvailable"
  | .networkDown => "NetworkDown"
  | .brokenPipe => "BrokenPipe"
  | .alreadyExists => "AlreadyExists"
  | .wouldBlock => "WouldBlock"
  | .notADirectory => "NotADirectory"
  | .isADirectory => "IsADirectory"
  | .directoryNotEmpty => "DirectoryNotEmpty"
  | .readOnlyFilesystem => "ReadOnlyFilesystem"
  | .filesystemLoop => "FilesystemLoop"
  | .staleNetworkFileHandle => "StaleNetworkFileHandle"
  | .invalidInput => "InvalidInput"
  | .invalidData => "InvalidData"
  | .timedOut => "TimedOut"
  | .writeZero => "WriteZero"
  | .storageFull => "StorageFull"
  | .notSeekable => "NotSeekable"
  | .quotaExceeded => "QuotaExceeded"
  | .fileTooLarge => "FileTooLarge"
  | .resourceBusy => "ResourceBusy"
  | .executableFileBusy => "ExecutableFileBusy"
  | .deadlock => "Deadlock"
  | .crossesDevices => "CrossesDevices"
  | .tooManyLinks => "TooManyLinks"
  | .invalidFilename => "InvalidFilename"
  | .argumentListTooLong => "ArgumentListTooLong"
  | .interrupted => "Interrupted"
  | .unsupported => "Unsupported"
  | .unexpectedEof => "UnexpectedEof"
  | .outOfMemory => "OutOfMemory"
  | .inProgress => "InProgress"
  | .inputOutputError => "InputOutputError"
  | .other => "Other"
  | .uncategorized => "Uncategorized"

namespace Errno

/-- The operation is not permitted. -/
def notPermitted : Nat := 1
/-- There is no such file or directory. -/
def noEntry : Nat := 2
/-- There is no such device or address. -/
def noDeviceOrAddress : Nat := 6
/-- The descriptor is not open. -/
def badDescriptor : Nat := 9
/-- Access is denied. -/
def accessDenied : Nat := 13
/-- The device or resource is busy. -/
def busy : Nat := 16
/-- There is no such device. -/
def noDevice : Nat := 19
/-- A directory was expected. -/
def notDirectory : Nat := 20
/-- A directory was not expected. -/
def isDirectory : Nat := 21
/-- An argument is invalid. -/
def invalidArgument : Nat := 22
/-- No space is left on the device. -/
def noSpace : Nat := 28
/-- A file name is too long. -/
def nameTooLong : Nat := 36
/-- A message is too long. -/
def messageTooLong : Nat := 90
/-- The option is not known. -/
def noOption : Nat := 92
/-- The protocol is not supported for the address family. -/
def protocolNotSupported : Nat := 93
/-- The socket type is not supported. -/
def typeNotSupported : Nat := 94
/-- The address family is not supported. -/
def familyNotSupported : Nat := 97
/-- The socket is not connected. -/
def notConnected : Nat := 107
/-- The other end refuses. -/
def refused : Nat := 111

/-- The kind and the text of an error number. -/
def describe : Nat → IoKind × String
  | 1 => (.permissionDenied, "Operation not permitted")
  | 2 => (.notFound, "No such file or directory")
  | 3 => (.uncategorized, "No such process")
  | 4 => (.interrupted, "Interrupted system call")
  | 5 => (.inputOutputError, "Input/output error")
  | 6 => (.uncategorized, "No such device or address")
  | 7 => (.argumentListTooLong, "Argument list too long")
  | 8 => (.uncategorized, "Exec format error")
  | 9 => (.uncategorized, "Bad file descriptor")
  | 10 => (.uncategorized, "No child processes")
  | 11 => (.wouldBlock, "Resource temporarily unavailable")
  | 12 => (.outOfMemory, "Cannot allocate memory")
  | 13 => (.permissionDenied, "Permission denied")
  | 14 => (.uncategorized, "Bad address")
  | 15 => (.uncategorized, "Block device required")
  | 16 => (.resourceBusy, "Device or resource busy")
  | 17 => (.alreadyExists, "File exists")
  | 18 => (.crossesDevices, "Invalid cross-device link")
  | 19 => (.uncategorized, "No such device")
  | 20 => (.notADirectory, "Not a directory")
  | 21 => (.isADirectory, "Is a directory")
  | 22 => (.invalidInput, "Invalid argument")
  | 23 => (.uncategorized, "Too many open files in system")
  | 24 => (.uncategorized, "Too many open files")
  | 25 => (.uncategorized, "Inappropriate ioctl for device")
  | 26 => (.executableFileBusy, "Text file busy")
  | 27 => (.fileTooLarge, "File too large")
  | 28 => (.storageFull, "No space left on device")
  | 29 => (.notSeekable, "Illegal seek")
  | 30 => (.readOnlyFilesystem, "Read-only file system")
  | 31 => (.tooManyLinks, "Too many links")
  | 32 => (.brokenPipe, "Broken pipe")
  | 35 => (.deadlock, "Resource deadlock avoided")
  | 36 => (.invalidFilename, "File name too long")
  | 38 => (.unsupported, "Function not implemented")
  | 39 => (.directoryNotEmpty, "Directory not empty")
  | 40 => (.filesystemLoop, "Too many levels of symbolic links")
  | 71 => (.uncategorized, "Protocol error")
  | 75 => (.uncategorized, "Value too large for defined data type")
  | 88 => (.uncategorized, "Socket operation on non-socket")
  | 89 => (.uncategorized, "Destination address required")
  | 90 => (.uncategorized, "Message too long")
  | 91 => (.uncategorized, "Protocol wrong type for socket")
  | 92 => (.uncategorized, "Protocol not available")
  | 93 => (.uncategorized, "Protocol not supported")
  | 94 => (.uncategorized, "Socket type not supported")
  | 95 => (.unsupported, "Operation not supported")
  | 96 => (.uncategorized, "Protocol family not supported")
  | 97 => (.uncategorized, "Address family not supported by protocol")
  | 98 => (.addrInUse, "Address already in use")
  | 99 => (.addrNotAvailable, "Cannot assign requested address")
  | 100 => (.networkDown, "Network is down")
  | 101 => (.networkUnreachable, "Network is unreachable")
  | 102 => (.uncategorized, "Network dropped connection on reset")
  | 103 => (.connectionAborted, "Software caused connection abort")
  | 104 => (.connectionReset, "Connection reset by peer")
  | 105 => (.uncategorized, "No buffer space available")
  | 106 => (.uncategorized, "Transport endpoint is already connected")
  | 107 => (.notConnected, "Transport endpoint is not connected")
  | 110 => (.timedOut, "Connection timed out")
  | 111 => (.connectionRefused, "Connection refused")
  | 112 => (.uncategorized, "Host is down")
  | 113 => (.hostUnreachable, "No route to host")
  | 114 => (.uncategorized, "Operation already in progress")
  | 115 => (.inProgress, "Operation now in progress")
  | 116 => (.staleNetworkFileHandle, "Stale file handle")
  | 122 => (.quotaExceeded, "Disk quota exceeded")
  | code => (.uncategorized, s!"Unknown error {code}")

end Errno

/-- A failure of the system. -/
inductive IoError where
  /-- A numbered error of the operating system. -/
  | os (code : Nat)
  /-- A failure with a kind and a text of its own. -/
  | custom (kind : IoKind) (text : String)
  deriving DecidableEq, Repr

namespace IoError

/-- The kind of a failure. -/
def kind : IoError → IoKind
  | .os code => (Errno.describe code).1
  | .custom kind _ => kind

/-- The text of a failure; a numbered one shows its number. -/
def message : IoError → String
  | .os code => s!"{(Errno.describe code).2} (os error {code})"
  | .custom _ text => text

/-- Trying again may succeed: the wait ran out, nothing was ready, or a signal came between. -/
def isTransient (failure : IoError) : Bool :=
  match failure.kind with
  | .timedOut | .wouldBlock | .interrupted => true
  | _ => false

/-- A wait ran out. -/
def timedOut : IoError := .custom .timedOut "Timed out"

/-- Bytes that were expected to be text are not. -/
def notText : IoError := .custom .invalidData "stream did not contain valid UTF-8"

end IoError

end PcmLink
