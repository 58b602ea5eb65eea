/-!
Which certificates can be trust anchors. A certificate is read as far as its form goes: nested
values, each a tag, a length in its shortest form and as many bytes. Its dates and its signature are
not looked at. This stands for the TLS library, which is not part of the program, and is here to be
run: what is proved of a connection holds on every platform and rests on nothing that is said here.
-/
namespace PolledTls.Net

inductive CertificateFault where
  | badEncoding
  /-- The two places that name the algorithm of the signature differ. -/
  | signatureAlgorithmMismatch
  /-- An extension that is kept comes twice. -/
  | repeatedExtension
deriving DecidableEq

def CertificateFault.text : CertificateFault → String
  | .badEncoding => "BadEncoding"
  | .signatureAlgorithmMismatch => "Other(OtherError(SignatureAlgorithmMismatch))"
  | .repeatedExtension => "Other(OtherError(ExtensionValueInvalid))"

namespace Certificate

/-! Nested values. -/

inductive Tag where
  | boolean
  | integer
  | bitString
  | octetString
  | identifier
  | sequence
  /-- A value in the place with this number. -/
  | place (number : UInt8)

def Tag.byte : Tag → UInt8
  | .boolean => 0x01
  | .integer => 0x02
  | .bitString => 0x03
  | .octetString => 0x04
  | .identifier => 0x06
  | .sequence => 0x30
  | .place number => 0xA0 + number

def lengthLimit : Nat := 0xFFFF

/-- The length in front of the bytes, in its shortest form, and the bytes. -/
def length? : List UInt8 → Option (Nat × List UInt8)
  | 0x81 :: a :: rest => if 0x80 ≤ a then some (a.toNat, rest) else none
  | 0x82 :: a :: b :: rest =>
    let n := 256 * a.toNat + b.toNat
    if 0x100 ≤ n ∧ n < lengthLimit then some (n, rest) else none
  | n :: rest => if n < 0x80 then some (n.toNat, rest) else none
  | [] => none

/-- The value with the given tag that the bytes begin with, and what follows it. -/
def value? (tag : Tag) : List UInt8 → Option (List UInt8 × List UInt8)
  | [] => none
  | byte :: rest =>
    if byte = tag.byte then
      match length? rest with
      | some (n, rest) => if n ≤ rest.length then some (rest.take n, rest.drop n) else none
      | none => none
    else none

theorem length_of_length? {bytes rest : List UInt8} {n : Nat} (h : length? bytes = some (n, rest)) :
    rest.length < bytes.length := by
  unfold length? at h
  split at h <;> grind

theorem length_of_value? {tag : Tag} {bytes value rest : List UInt8}
    (h : value? tag bytes = some (value, rest)) : rest.length < bytes.length := by
  cases bytes with
  | nil => simp [value?] at h
  | cons byte bytes =>
    simp only [value?] at h
    split at h
    · split at h
      · next n after found =>
        have := length_of_length? found
        grind
      · simp at h
    · simp at h

def value (tag : Tag) (bytes : List UInt8) : Except CertificateFault (List UInt8 × List UInt8) :=
  match value? tag bytes with
  | some found => .ok found
  | none => .error .badEncoding

def skip : List Tag → List UInt8 → Except CertificateFault (List UInt8)
  | [], bytes => .ok bytes
  | tag :: tags, bytes => do
    let (_, rest) ← value tag bytes
    skip tags rest

def ended (rest : List UInt8) : Except CertificateFault Unit :=
  if rest = [] then .ok () else .error .badEncoding

/-! Extensions. -/

/-- The standard extensions that are kept, by the last byte of their identifiers: key usage,
alternative names, basic constraints, name constraints, revocation lists and extended usage. -/
def keptExtensions : List UInt8 := [15, 17, 19, 30, 31, 37]

/-- The key usage, which is kept as it stands; all others must be one sequence. -/
def keyUsage : UInt8 := 15

/-- Reads past the mark that tells whether an extension may be ignored, if there is one. -/
def skipMark (bytes : List UInt8) : Except CertificateFault (List UInt8) :=
  if bytes.head? = some Tag.boolean.byte then do
    let (mark, rest) ← value .boolean bytes
    if mark = [0xFF] ∨ mark = [0x00] then return rest else throw .badEncoding
  else return bytes

/-- Takes in one extension, given those kept so far. An anchor is trusted as it is, so that what it
asks for and is not kept is ignored, marked or not. -/
def takeExtension (kept : List UInt8) (bytes : List UInt8) :
    Except CertificateFault (List UInt8) := do
  let (identifier, rest) ← value .identifier bytes
  let (content, rest) ← value .octetString (← skipMark rest)
  let known := match identifier with
    | [0x55, 0x1D, last] => if last ∈ keptExtensions then some last else none
    | _ => none
  match known with
  | none =>
    ended rest
    return kept
  | some last =>
    if last ∈ kept then throw .repeatedExtension
    if last ≠ keyUsage then ended (← skip [.sequence] content)
    ended rest
    return last :: kept

def takeExtensions (kept : List UInt8) (bytes : List UInt8) : Except CertificateFault Unit :=
  match _found : value? .sequence bytes with
  | none => .error .badEncoding
  | some (extension, rest) =>
    match takeExtension kept extension with
    | .error fault => .error fault
    | .ok kept => if rest = [] then .ok () else takeExtensions kept rest
termination_by bytes.length
decreasing_by exact length_of_value? _found

/-- The extensions of a certificate; there may be none. -/
def checkExtensions (bytes : List UInt8) : Except CertificateFault Unit := do
  let (outer, rest) ← value (.place 3) bytes
  let (extensions, afterwards) ← value .sequence outer
  if extensions ≠ [] then takeExtensions [] extensions
  ended afterwards
  ended rest

/-! Certificates. -/

def checkThird (algorithm bytes : List UInt8) : Except CertificateFault Unit := do
  let rest ← skip [.integer] bytes
  let (named, rest) ← value .sequence rest
  if named ≠ algorithm then throw .signatureAlgorithmMismatch
  let rest ← skip [.sequence, .sequence, .sequence, .sequence] rest
  if rest ≠ [] then checkExtensions rest

/-- The signed part of a certificate of the first version, which does not say so and has no
extensions. -/
def checkFirst (bytes : List UInt8) : Except CertificateFault Unit := do
  ended (← skip [.integer, .sequence, .sequence, .sequence, .sequence, .sequence] bytes)

/-- Whether a certificate can be an anchor. There is no second version. -/
def check (bytes : List UInt8) : Except CertificateFault Unit := do
  let (whole, rest) ← value .sequence bytes
  let (signed, whole) ← value .sequence whole
  let (algorithm, whole) ← value .sequence whole
  let (signature, whole) ← value .bitString whole
  if signature.head? ≠ some 0 then throw .badEncoding
  ended whole
  ended rest
  match value? (.place 0) signed with
  | none => checkFirst signed
  | some (version, rest) =>
    if version = [0x02, 0x01, 0x02] then checkThird algorithm rest else throw .badEncoding

end Certificate
end PolledTls.Net
