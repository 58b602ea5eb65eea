/-!
IPv4 addresses and endpoints, with their dotted text.
-/
namespace PolledTls

/-- An IPv4 address, most significant byte first. -/
structure IPv4 where
  a : UInt8
  b : UInt8
  c : UInt8
  d : UInt8
deriving DecidableEq

namespace IPv4

def ofNat (n : Nat) : IPv4 :=
  ⟨(n >>> 24).toUInt8, (n >>> 16).toUInt8, (n >>> 8).toUInt8, n.toUInt8⟩

/-- The address that stands for no address at all. -/
def unspecified : IPv4 := ⟨0, 0, 0, 0⟩

def text (ip : IPv4) : String :=
  ".".intercalate ([ip.a, ip.b, ip.c, ip.d].map fun part => toString part.toNat)

end IPv4

structure Endpoint where
  ip : IPv4
  port : UInt16
deriving DecidableEq

def Endpoint.text (e : Endpoint) : String :=
  e.ip.text ++ ":" ++ toString e.port.toNat

end PolledTls

/-!
Host strings that are addresses, found without asking anyone: one to four numbers with points
between, each decimal, octal after `0` or hexadecimal after `0x`. The last number fills all the
bytes that are left.
-/
namespace PolledTls.Net

def digit? (base : Nat) (c : Char) : Option Nat :=
  let value :=
    if '0' ≤ c ∧ c ≤ '9' then some (c.toNat - '0'.toNat)
    else if 'a' ≤ c ∧ c ≤ 'f' then some (c.toNat - 'a'.toNat + 10)
    else if 'A' ≤ c ∧ c ≤ 'F' then some (c.toNat - 'A'.toNat + 10)
    else none
  value.filter (· < base)

/-- The number the digits write, which go on from `sum`. -/
def digits? (base : Nat) : Nat → List Char → Option Nat
  | sum, [] => some sum
  | sum, c :: rest => (digit? base c).bind fun d => digits? base (base * sum + d) rest

def number? : List Char → Option Nat
  | [] => none
  | ['0'] => some 0
  | '0' :: 'x' :: c :: rest | '0' :: 'X' :: c :: rest => digits? 16 0 (c :: rest)
  | '0' :: rest => digits? 8 0 rest
  | digits => digits? 10 0 digits

/-- The address of numbers from left to right: all but the last are single bytes, and the last is
below `room`. -/
def assemble? : Nat → Nat → List Nat → Option IPv4
  | _, _, [] => none
  | sum, room, [last] => if last < room then some (.ofNat (sum * room + last)) else none
  | sum, room, next :: rest =>
    if next < 256 ∧ 256 < room then assemble? (256 * sum + next) (room / 256) rest else none

def hostAddress? (host : String) : Option IPv4 :=
  ((host.toList.splitOn '.').mapM number?).bind (assemble? 0 UInt32.size)

end PolledTls.Net
