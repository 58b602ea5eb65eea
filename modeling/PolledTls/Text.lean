import PolledTls.Text.Hidden

/-!
How values are written as text, and how bytes are read as text.
-/
namespace PolledTls.Text

/-! Structured values: records, tuples and lists. -/

def commas (items : List String) : String :=
  String.intercalate ", " items

def list (items : List String) : String :=
  "[" ++ commas items ++ "]"

def tuple (items : List String) : String :=
  "(" ++ commas items ++ ")"

/-- A constructor with unnamed arguments. -/
def applied (name : String) (items : List String) : String :=
  name ++ tuple items

/-- A constructor with named fields. An open record ends in two dots for what it leaves out. -/
def record (name : String) (fields : List (String × String)) (isOpen : Bool) : String :=
  let written := fields.map fun (field, value) => field ++ ": " ++ value
  name ++ " \x7b " ++ commas (written ++ if isOpen then [".."] else []) ++ " \x7d"

/-!
Text in double quotes. The quote, the backslash and the common controls have short escapes; a
hidden character is written by its number in lower-case hexadecimal.
-/

def escaped (c : Char) : List Char :=
  match c with
  | '"' => ['\\', '"']
  | '\\' => ['\\', '\\']
  | '\n' => ['\\', 'n']
  | '\r' => ['\\', 'r']
  | '\t' => ['\\', 't']
  | '\x00' => ['\\', '0']
  | c => if isHidden c then "\\u\x7b".toList ++ Nat.toDigits 16 c.toNat ++ ['\x7d'] else [c]

def quoted (s : String) : String :=
  String.ofList ('"' :: s.toList.flatMap escaped ++ ['"'])

/-!
Reading bytes as UTF-8 text. Each maximal part that no character can start with or go on with
becomes one replacement character, so every byte string has a text.
-/

/-- A character whose first bytes have been read: the bits so far, how many bytes are still owed,
and the range the next one must lie in. -/
structure Unfinished where
  bits : Nat
  owed : Nat
  least : Nat
  most : Nat

def replacement : Char := '\uFFFD'

/-- What a byte begins when no character is under way. -/
def beginning (b : Nat) : Option Unfinished :=
  if 0xC2 ≤ b ∧ b ≤ 0xDF then some ⟨b - 0xC0, 1, 0x80, 0xBF⟩
  else if b = 0xE0 then some ⟨0, 2, 0xA0, 0xBF⟩
  else if b = 0xED then some ⟨b - 0xE0, 2, 0x80, 0x9F⟩
  else if 0xE1 ≤ b ∧ b ≤ 0xEF then some ⟨b - 0xE0, 2, 0x80, 0xBF⟩
  else if b = 0xF0 then some ⟨0, 3, 0x90, 0xBF⟩
  else if 0xF1 ≤ b ∧ b ≤ 0xF3 then some ⟨b - 0xF0, 3, 0x80, 0xBF⟩
  else if b = 0xF4 then some ⟨b - 0xF0, 3, 0x80, 0x8F⟩
  else none

/-- Characters of the bytes that follow `pending`, the character under way. -/
def lossyFrom : Option Unfinished → List UInt8 → List Char
  | none, [] => []
  | some _, [] => [replacement]
  | none, b :: rest =>
    if b.toNat < 0x80 then Char.ofNat b.toNat :: lossyFrom none rest
    else match beginning b.toNat with
      | some u => lossyFrom (some u) rest
      | none => replacement :: lossyFrom none rest
  | some u, b :: rest =>
    if u.least ≤ b.toNat ∧ b.toNat ≤ u.most then
      let bits := u.bits * 64 + (b.toNat - 0x80)
      if u.owed ≤ 1 then Char.ofNat bits :: lossyFrom none rest
      else lossyFrom (some ⟨bits, u.owed - 1, 0x80, 0xBF⟩) rest
    else if b.toNat < 0x80 then replacement :: Char.ofNat b.toNat :: lossyFrom none rest
    else match beginning b.toNat with
      | some v => replacement :: lossyFrom (some v) rest
      | none => replacement :: replacement :: lossyFrom none rest

/-- The text of a byte string, with a replacement character for each part that is no text. -/
def lossy (bytes : List UInt8) : String :=
  String.ofList (lossyFrom none bytes)

end PolledTls.Text
