import PolledTls.Error

/-!
What a client learns from the first bytes a peer answers its greeting with, when they are not the
beginning of a handshake. This stands for the TLS library, which is not part of the program, and is
here to be run; nothing that is proved of a connection rests on it.
-/
namespace PolledTls.Net

/-- A peer: the bytes it answers the client's greeting with, and whether it then stays connected
and silent or closes. -/
structure Peer where
  reply : List UInt8
  holds : Bool
deriving DecidableEq

def Peer.silent : Peer := ⟨[], true⟩

namespace Greeting

/-- The longest payload of a record: the plaintext limit and what encryption may add. -/
def longestPayload : Nat := 16384 + 2048

def alertName : Nat → String
  | 10 => "UnexpectedMessage"
  | 40 => "HandshakeFailure"
  | 42 => "BadCertificate"
  | 47 => "IllegalParameter"
  | 48 => "UnknownCA"
  | 70 => "ProtocolVersion"
  | 80 => "InternalError"
  | 112 => "UnrecognisedName"
  | 120 => "NoApplicationProtocol"
  | n => "AlertDescription(0x" ++ String.ofList (Nat.toDigits 16 n) ++ ")"

def corrupt (what : String) : IoError :=
  ⟨.invalidData, "received corrupt message of type " ++ what⟩

def unexpected (what : String) : IoError :=
  ⟨.invalidData, "received unexpected message: got " ++ what ++ " when expecting Handshake"⟩

/-- What a record with a type and a payload says; nothing if the client goes on waiting. -/
def recordFault (kind : Nat) (payload : List UInt8) : Option IoError :=
  match kind, payload with
  | 21, [2, description] =>
    some ⟨.invalidData, "received fatal alert: " ++ alertName description.toNat⟩
  | 23, _ => some (unexpected "ApplicationData")
  | 20, _ => some (unexpected "ChangeCipherSpec")
  | _, _ => none

/-- What the bytes say so far; nothing if they are no whole record. -/
def fault (bytes : List UInt8) : Option IoError :=
  match bytes with
  | kind :: rest =>
    if kind.toNat < 20 ∨ 24 < kind.toNat then some (corrupt "InvalidContentType")
    else match rest with
      | _ :: _ :: high :: low :: rest =>
        let size := 256 * high.toNat + low.toNat
        if size = 0 ∧ kind ≠ 23 then some (corrupt "InvalidEmptyPayload")
        else if longestPayload < size then some (corrupt "MessageTooLarge")
        else if rest.length < size then none
        else recordFault kind.toNat (rest.take size)
      | _ => none
  | [] => none

end Greeting

/-- How a handshake with the peer fails; it waits for ever if it does not. -/
def Peer.fault (peer : Peer) : Option IoError :=
  match Greeting.fault peer.reply with
  | some e => some e
  | none => if peer.holds then none else some ⟨.unexpectedEof, "peer closed the socket"⟩

end PolledTls.Net
