/-!
Where a connection stands, and how an asynchronous operation ended.
-/
namespace PolledTls

inductive Status where
  | notOpen
  | openingDns
  | openingSocket
  | openingTls
  | opened
  | failed
deriving DecidableEq

namespace Status

def all : List Status :=
  [.notOpen, .openingDns, .openingSocket, .openingTls, .opened, .failed]

def text : Status → String
  | .notOpen => "NotOpen"
  | .openingDns => "OpeningDns"
  | .openingSocket => "OpeningSocket"
  | .openingTls => "OpeningTls"
  | .opened => "Open"
  | .failed => "Error"

/-- An attempt to open is under way. -/
def isOpening : Status → Bool
  | .openingDns | .openingSocket | .openingTls => true
  | .notOpen | .opened | .failed => false

end Status

/-- How an open or a send ended. -/
inductive Completion where
  | ok
  | error
  | cancelled
deriving DecidableEq

namespace Completion

def all : List Completion :=
  [.ok, .error, .cancelled]

def text : Completion → String
  | .ok => "Ok"
  | .error => "Error"
  | .cancelled => "Cancelled"

def isOk : Completion → Bool
  | .ok => true
  | .error | .cancelled => false

end Completion
end PolledTls
