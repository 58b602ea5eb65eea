import PolledTls.Error
import PolledTls.Net.Certificate
import PolledTls.Net.Greeting
import PolledTls.Net.ServerName

/-!
Client sessions up to the end of the handshake, which none of the peers known here completes. Until
then a session takes plaintext as far as it can keep it. How a session binds its socket is the
program's; how far it gets then is the TLS library's, which is not part of the program. Sessions are
here to be run, and nothing that is proved of a connection rests on them.
-/
namespace PolledTls.Net

/-!
Failures inside the real network's collaborators, and the error each is reported as.
-/

inductive TlsFault where
  | general (text : String)
  | handshakeNotComplete
  | certificate (fault : CertificateFault)
deriving DecidableEq

def TlsFault.text : TlsFault → String
  | .general text => "unexpected error: " ++ text
  | .handshakeNotComplete => "handshake not complete"
  | .certificate fault => "invalid peer certificate: " ++ fault.text

inductive Failure where
  | io (error : IoError)
  | tls (fault : TlsFault)
  | invalidServerName (name : String)
  | resolverThread (error : IoError)
deriving DecidableEq

namespace Failure

def message : Failure → String
  | .io e => "io: " ++ e.text
  | .tls fault => "rustls: " ++ fault.text
  | .invalidServerName name => "invalid server name " ++ Text.quoted name
  | .resolverThread e => "resolver thread: " ++ e.text

/-- The error a connection reports; a name that is no server name is an unusable argument. -/
def toError : Failure → Error
  | .io e => .io e.text
  | .tls fault => .tls fault.text
  | .invalidServerName name => .invalidArgument (invalidServerName name).message
  | .resolverThread e => .dns e.text

end Failure

/-! Sessions. -/

/-- Client settings: the application protocols to offer, best first, and further trust anchors. -/
structure Settings where
  protocols : List (List UInt8) := []
  roots : List (List UInt8) := []

namespace Settings

/-- The settings as a context, if every further root can be an anchor. -/
def context (settings : Settings) : Except Error Settings :=
  match settings.roots.mapM Certificate.check with
  | .ok _ => .ok settings
  | .error fault => .error (Failure.tls (.certificate fault)).toError

end Settings

/-- A session still shaking hands: its peer once a socket is bound, and the plaintext it keeps. -/
structure Session where
  peer : Option Peer
  kept : Nat

namespace Session

/-- The most plaintext one write takes: one record. -/
def longestWrite : Nat := 16 * 1024

def mostKept : Nat := 64 * 1024

def create (serverName : String) : Except Error Session :=
  if isServerName serverName then .ok ⟨none, 0⟩
  else .error (Failure.invalidServerName serverName).toError

inductive Refusal where
  | error (error : Error)
  /-- A protocol without a name cannot be offered. -/
  | namelessProtocol

def namelessText : String := "assertion failed: bytes.len() >= C::MIN"

/-- A session with a context's settings. The greeting, with the protocols offered, is written as
soon as there is one. -/
def start (settings : Settings) (serverName : String) : Except Refusal Session :=
  match create serverName with
  | .error e => .error (.error e)
  | .ok session => if [] ∈ settings.protocols then .error .namelessProtocol else .ok session

/-- Binds a socket connected to `peer`; a second one is refused. -/
def bind (session : Session) (peer : Peer) : Except Error Unit × Session :=
  match session.peer with
  | none => (.ok (), { session with peer := some peer })
  | some _ => (.error (.tls "session already bound to a socket"), session)

/-- What a call that has to wait for the peer answers. -/
def waiting (session : Session) : IoError :=
  match session.peer with
  | none => ⟨.notConnected, "no socket bound"⟩
  | some peer => peer.fault.getD IoKind.wouldBlock.error

def handshake (session : Session) : Except IoError Unit :=
  .error session.waiting

def read (session : Session) : Except IoError Nat :=
  .error session.waiting

/-- Takes as much of `count` bytes as one write may and as there is room for. -/
def write (session : Session) (count : Nat) : Except IoError Nat × Session :=
  match session.peer with
  | none => (.error session.waiting, session)
  | some _ =>
    let taken := min (min count longestWrite) (mostKept - session.kept)
    (.ok taken, { session with kept := session.kept + taken })

def spelled (session : Session) : String :=
  Text.record "RustlsSession"
    [("handshaking", "true"), ("bound", toString session.peer.isSome)] false

end Session

end PolledTls.Net
