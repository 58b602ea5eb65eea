import PolledTls.Status
import PolledTls.Time

/-!
What can go wrong: errors of the operating system and of record streams, and those of a connection.
-/
namespace PolledTls

/-!
Errors of the operating system and of record streams: a kind and a text.
-/

inductive IoKind where
  | notFound
  | permissionDenied
  | connectionRefused
  | connectionReset
  | hostUnreachable
  | networkUnreachable
  | connectionAborted
  | notConnected
  | addrInUse
  | addrNotAvailable
  | networkDown
  | brokenPipe
  | alreadyExists
  | wouldBlock
  | invalidInput
  | invalidData
  | timedOut
  | writeZero
  | interrupted
  | unsupported
  | unexpectedEof
  | outOfMemory
  | other
deriving DecidableEq

namespace IoKind

def all : List IoKind :=
  [.notFound, .permissionDenied, .connectionRefused, .connectionReset, .hostUnreachable,
    .networkUnreachable, .connectionAborted, .notConnected, .addrInUse, .addrNotAvailable,
    .networkDown, .brokenPipe, .alreadyExists, .wouldBlock, .invalidInput, .invalidData, .timedOut,
    .writeZero, .interrupted, .unsupported, .unexpectedEof, .outOfMemory, .other]

def name : IoKind → String
  | .notFound => "NotFound"
  | .permissionDenied => "PermissionDenied"
  | .connectionRefused => "ConnectionRefused"
  | .connectionReset => "ConnectionReset"
  | .hostUnreachable => "HostUnreachable"
  | .networkUnreachable => "NetworkUnreachable"
  | .connectionAborted => "ConnectionAborted"
  | .notConnected => "NotConnected"
  | .addrInUse => "AddrInUse"
  | .addrNotAvailable => "AddrNotAvailable"
  | .networkDown => "NetworkDown"
  | .brokenPipe => "BrokenPipe"
  | .alreadyExists => "AlreadyExists"
  | .wouldBlock => "WouldBlock"
  | .invalidInput => "InvalidInput"
  | .invalidData => "InvalidData"
  | .timedOut => "TimedOut"
  | .writeZero => "WriteZero"
  | .interrupted => "Interrupted"
  | .unsupported => "Unsupported"
  | .unexpectedEof => "UnexpectedEof"
  | .outOfMemory => "OutOfMemory"
  | .other => "Other"

/-- The text of an error of this kind that carries no text of its own. -/
def text : IoKind → String
  | .notFound => "entity not found"
  | .permissionDenied => "permission denied"
  | .connectionRefused => "connection refused"
  | .connectionReset => "connection reset"
  | .hostUnreachable => "host unreachable"
  | .networkUnreachable => "network unreachable"
  | .connectionAborted => "connection aborted"
  | .notConnected => "not connected"
  | .addrInUse => "address in use"
  | .addrNotAvailable => "address not available"
  | .networkDown => "network down"
  | .brokenPipe => "broken pipe"
  | .alreadyExists => "entity already exists"
  | .wouldBlock => "operation would block"
  | .invalidInput => "invalid input parameter"
  | .invalidData => "invalid data"
  | .timedOut => "timed out"
  | .writeZero => "write zero"
  | .interrupted => "operation interrupted"
  | .unsupported => "unsupported"
  | .unexpectedEof => "unexpected end of file"
  | .outOfMemory => "out of memory"
  | .other => "other error"

/-- The kinds that say "poll again later" rather than "failed". -/
def isNotReady : IoKind → Bool
  | .wouldBlock | .interrupted => true
  | _ => false

end IoKind

structure IoError where
  kind : IoKind
  text : String
deriving DecidableEq

def IoKind.error (kind : IoKind) : IoError :=
  ⟨kind, kind.text⟩

/-!
What can go wrong with a connection. Arguments, states and allocations are refused at once and
change nothing; timeouts may succeed on a fresh attempt; the rest are hard failures of one phase.
-/

inductive Error where
  | invalidArgument (reason : String)
  | invalidState (status : Status) (operation : String)
  | allocation (size : Nat)
  | openTimeout (status : Status) (elapsed : Duration)
  | sendTimeout (elapsed : Duration) (unsent : Nat)
  | dns (reason : String)
  | connect (reason : String)
  | tls (reason : String)
  | io (reason : String)
deriving DecidableEq

namespace Error

def name : Error → String
  | .invalidArgument _ => "InvalidArgument"
  | .invalidState .. => "InvalidState"
  | .allocation _ => "Allocation"
  | .openTimeout .. => "OpenTimeout"
  | .sendTimeout .. => "SendTimeout"
  | .dns _ => "Dns"
  | .connect _ => "Connect"
  | .tls _ => "Tls"
  | .io _ => "Io"

def message : Error → String
  | .invalidArgument reason => "invalid argument: " ++ reason
  | .invalidState status operation =>
    "invalid state: cannot " ++ operation ++ " while " ++ status.text
  | .allocation size => "allocation of " ++ toString size ++ " bytes failed"
  | .openTimeout status elapsed =>
    "open timed out in " ++ status.text ++ " after " ++ elapsed.text
  | .sendTimeout elapsed unsent =>
    "send timed out after " ++ elapsed.text ++ " with " ++ toString unsent ++ " bytes unsent"
  | .dns reason => "dns error: " ++ reason
  | .connect reason => "connect error: " ++ reason
  | .tls reason => "tls error: " ++ reason
  | .io reason => "io error: " ++ reason

/-- The text that spells out the constructor and its fields. -/
def spelled (e : Error) : String :=
  match e with
  | .invalidState status operation =>
    Text.record e.name
      [("state", status.text), ("operation", Text.quoted operation)] false
  | .allocation size => Text.record e.name [("size", toString size)] false
  | .openTimeout status elapsed =>
    Text.record e.name [("state", status.text), ("elapsed", elapsed.text)] false
  | .sendTimeout elapsed unsent =>
    Text.record e.name [("elapsed", elapsed.text), ("unsent", toString unsent)] false
  | .invalidArgument reason | .dns reason | .connect reason | .tls reason | .io reason =>
    Text.applied e.name [Text.quoted reason]

def isRetryable : Error → Bool
  | .openTimeout .. | .sendTimeout .. => true
  | _ => false

def ioKind : Error → IoKind
  | .openTimeout .. | .sendTimeout .. => .timedOut
  | .invalidArgument _ => .invalidInput
  | .invalidState .. => .notConnected
  | .allocation _ => .outOfMemory
  | .connect _ => .connectionRefused
  | .tls _ => .invalidData
  | .dns _ | .io _ => .other

/-- An I/O error keeps a kind and the message, nothing else. -/
def toIoError (e : Error) : IoError :=
  ⟨e.ioKind, e.message⟩

def ofIoError (e : IoError) : Error :=
  .io e.text

/-- The error as a failed lookup; one that already is stays as it is. -/
def asDns : Error → Error
  | .dns reason => .dns reason
  | other => .dns other.message

def asConnect : Error → Error
  | .connect reason => .connect reason
  | other => .connect other.message

/-- The error as a failed step of the TLS setup, named in front of the reason. -/
def asTls (step : String) : Error → Error
  | .tls reason => .tls (step ++ ": " ++ reason)
  | other => .tls (step ++ ": " ++ other.message)

end Error

end PolledTls
