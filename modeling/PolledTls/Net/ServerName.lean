import PolledTls.Address

/-!
Names a TLS peer can be verified against: a DNS name, or an address in its strict text. This stands
for the TLS library, which is not part of the program, and is here to be run; nothing that is proved
of a connection rests on it.
-/
namespace PolledTls.Net

namespace ServerName

def longestName : Nat := 253
def longestLabel : Nat := 63

def isLabelChar (c : Char) : Bool :=
  c.isAlphanum || c == '-' || c == '_'

/-- Letters, digits, hyphens and underscores, with no hyphen at either end. -/
def isLabel (label : List Char) : Bool :=
  label ≠ [] && label.length ≤ longestLabel && label.all isLabelChar
    && label.head? != some '-' && label.getLast? != some '-'

/-- The labels of a name; one point may stand after the last. -/
def labels (name : List Char) : List (List Char) :=
  let parts := name.splitOn '.'
  if parts.getLast? = some [] then parts.dropLast else parts

/-- A last label of digits alone would read as an address. -/
def isDns (name : List Char) : Bool :=
  let labels := labels name
  name.length ≤ longestName && labels ≠ [] && labels.all isLabel
    && labels.getLast?.any fun last => !last.all Char.isDigit

def isByte (part : List Char) : Bool :=
  part.length ≤ 3 && (part == ['0'] || part.head? != some '0')
    && part ≠ [] && (digits? 10 0 part).any (· < 256)

def isIPv4 (name : List Char) : Bool :=
  let parts := name.splitOn '.'
  parts.length == 4 && parts.all isByte

def isGroup (part : List Char) : Bool :=
  part ≠ [] && part.length ≤ 4 && (digits? 16 0 part).isSome

/-- How many groups the parts stand for; an IPv4 address may stand last, for two. -/
def groupCount? (ipv4Last : Bool) : List (List Char) → Option Nat
  | [] => some 0
  | [last] =>
    if isGroup last then some 1 else if ipv4Last && isIPv4 last then some 2 else none
  | next :: rest => if isGroup next then (groupCount? ipv4Last rest).map (· + 1) else none

def parts (text : List Char) : List (List Char) :=
  if text = [] then [] else text.splitOn ':'

/-- The text before and after the first two colons in a row. -/
def splitAtGap : List Char → Option (List Char × List Char)
  | ':' :: ':' :: rest => some ([], rest)
  | c :: rest => (splitAtGap rest).map fun (before, after) => (c :: before, after)
  | [] => none

/-- Eight groups, or fewer with one gap that stands for at least one. -/
def isIPv6 (name : List Char) : Bool :=
  match splitAtGap name with
  | none => groupCount? true (parts name) == some 8
  | some (before, after) =>
    match groupCount? false (parts before), groupCount? true (parts after) with
    | some b, some a => b + a ≤ 7
    | _, _ => false

end ServerName

def isServerName (name : String) : Bool :=
  let name := name.toList
  ServerName.isDns name || ServerName.isIPv4 name || ServerName.isIPv6 name

end PolledTls.Net
