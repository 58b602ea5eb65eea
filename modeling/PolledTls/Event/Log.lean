import PolledTls.Address
import PolledTls.Error
import PolledTls.Config

/-!
Log events: one constructor for each thing a connection reports on its way, with its level, its
message and its fields as a reader of the log sees them.
-/
namespace PolledTls

/-- Levels of detail, from the gravest to the most talkative. -/
inductive Level where
  | error
  | warn
  | debug
  | trace
deriving DecidableEq

namespace Level

def all : List Level :=
  [.error, .warn, .debug, .trace]

def text : Level → String
  | .error => "ERROR"
  | .warn => "WARN"
  | .debug => "DEBUG"
  | .trace => "TRACE"

def rank : Level → Nat
  | .error => 0
  | .warn => 1
  | .debug => 2
  | .trace => 3

def shownAt (level limit : Level) : Bool :=
  level.rank ≤ limit.rank

end Level

inductive Direction where
  | read
  | write
deriving DecidableEq

def Direction.text : Direction → String
  | .read => "read"
  | .write => "write"

/-- What a platform says on its own account: a fault it was told to inject. -/
structure Notice where
  direction : Direction
  kind : IoKind
deriving DecidableEq

inductive LogEvent where
  | created (host : String) (port : UInt16)
  | opening (host : String) (port : UInt16)
  | opened (host : String) (port : UInt16)
  | openRejected (host : String) (status : Status)
  | lookupRefused (host : String) (error : Error)
  | lookupStarted (hostname : String)
  | connecting (host : String) (endpoint : Endpoint)
  | handshaking (host : String) (endpoint : Endpoint)
  | dialStarted (endpoint : Endpoint)
  | openFailed (host : String) (status : Status) (error : Error)
  | closeIgnored (host : String)
  | sendQueued (length queued : Nat)
  | received (count : Nat)
  | sent (count unsent : Nat)
  | sendTimedOut (host : String) (error : Error)
  | readFailed (host : String) (error : Error)
  | writeFailed (host : String) (error : Error)
  | shutDown (serverName : String)
  | closed (host : String) (cancelled : Nat)
  | abandoned (host : String) (status : Status)
  | optionIgnored (name : String) (value : Options.Value)
  | notice (notice : Notice)
deriving DecidableEq

inductive LogField where
  | number (n : Nat)
  | text (s : String)

namespace LogEvent

/-- A failed open is a warning when a fresh attempt may succeed. -/
def level : LogEvent → Level
  | .created .. | .opening .. | .opened .. | .connecting .. | .handshaking ..
  | .closeIgnored _ | .closed .. | .optionIgnored .. | .notice _ => .debug
  | .openRejected .. | .sendTimedOut .. | .abandoned .. => .warn
  | .lookupRefused .. | .readFailed .. | .writeFailed .. => .error
  | .lookupStarted _ | .dialStarted _ | .sendQueued .. | .received _ | .sent .. | .shutDown _ =>
    .trace
  | .openFailed _ _ error => if error.isRetryable then .warn else .error

def message : LogEvent → String
  | .created .. => "connection created"
  | .opening .. => "opening"
  | .opened .. => "open"
  | .openRejected .. => "open rejected"
  | .lookupRefused .. => "dns lookup failed to start"
  | .lookupStarted _ => "dns lookup started"
  | .connecting .. => "resolved, connecting"
  | .handshaking .. => "connected, handshaking"
  | .dialStarted _ => "tcp connect started"
  | .openFailed .. => "open failed"
  | .closeIgnored _ => "close on a connection that is not open"
  | .sendQueued .. => "send queued"
  | .received _ => "received"
  | .sent .. => "sent"
  | .sendTimedOut .. => "send timed out"
  | .readFailed .. => "read failed"
  | .writeFailed .. => "write failed"
  | .shutDown _ => "tls session shut down"
  | .closed .. => "closed"
  | .abandoned .. => "connection dropped without close"
  | .optionIgnored .. => "option ignored"
  | .notice n => "injecting " ++ n.direction.text ++ " fault"

def fields : LogEvent → List (String × LogField)
  | .created host port | .opening host port | .opened host port =>
    [("host", .text host), ("port", .number port.toNat)]
  | .openRejected host status | .abandoned host status =>
    [("host", .text host), ("state", .text status.text)]
  | .lookupRefused host error | .sendTimedOut host error | .readFailed host error
  | .writeFailed host error =>
    [("host", .text host), ("error", .text error.message)]
  | .lookupStarted hostname => [("hostname", .text hostname)]
  | .connecting host endpoint | .handshaking host endpoint =>
    [("host", .text host), ("addr", .text endpoint.text)]
  | .dialStarted endpoint => [("addr", .text endpoint.text)]
  | .openFailed host status error =>
    [("host", .text host), ("state", .text status.text), ("error", .text error.message)]
  | .closeIgnored host => [("host", .text host)]
  | .sendQueued length queued => [("len", .number length), ("queued", .number queued)]
  | .received count => [("bytes", .number count)]
  | .sent count unsent => [("bytes", .number count), ("unsent", .number unsent)]
  | .shutDown serverName => [("server_name", .text serverName)]
  | .closed host cancelled => [("host", .text host), ("cancelled", .number cancelled)]
  | .optionIgnored name value => [("option", .text name), ("value", .text value.spelled)]
  | .notice n => [("kind", .text n.kind.name)]

end LogEvent
end PolledTls
