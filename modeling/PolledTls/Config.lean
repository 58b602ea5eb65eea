import PolledTls.Error

/-!
What a connection is configured with, and which configurations are refused.
-/
namespace PolledTls

structure Config where
  /-- The name that is resolved and that the peer must be. -/
  host : String
  port : UInt16
  /-- The window for resolving, connecting and handshaking together. -/
  operationTimeout : Duration := 40 * Duration.second
  /-- The window of a send, from when it first heads the queue. -/
  sendTimeout : Duration := 40 * Duration.second
  readChunkSize : Nat := 64
deriving DecidableEq

namespace Config

def longestHost : Nat := 255

def check (config : Config) : Except Error Unit :=
  let size := config.host.utf8ByteSize
  if size = 0 then .error (.invalidArgument "host is empty")
  else if longestHost < size then
    .error (.invalidArgument
      ("host is " ++ toString size ++ " bytes, maximum is " ++ toString longestHost))
  else if '\x00' ∈ config.host.toList then .error (.invalidArgument "host contains NUL")
  else if config.readChunkSize = 0 then .error (.invalidArgument "read chunk size is zero")
  else .ok ()

theorem readChunkSize_of_check {config : Config} (checked : config.check = .ok ()) :
    1 ≤ config.readChunkSize := by
  unfold check at checked
  apply Nat.one_le_iff_ne_zero.mpr
  intro none
  simp only [none, if_true] at checked
  split at checked
  · cases checked
  · split at checked
    · cases checked
    · split at checked <;> cases checked

end Config

/-!
Named options in the order in which their names first came; a name that comes again keeps its
place and takes the new value.
-/

inductive Options.Value where
  | bool (value : Bool)
  | int (value : Int)
  | text (value : String)
  | bytes (value : List UInt8)
deriving DecidableEq

def Options.Value.spelled : Options.Value → String
  | .bool value => Text.applied "Bool" [toString value]
  | .int value => Text.applied "Int" [toString value]
  | .text value => Text.applied "Str" [Text.quoted value]
  | .bytes value => Text.applied "Bytes" [Text.list (value.map fun b => toString b.toNat)]

structure Options where
  entries : List (String × Options.Value)
deriving DecidableEq

namespace Options

def empty : Options := ⟨[]⟩

/-- Entries with `name` set to `value`, at its old place or else last. -/
def place (name : String) (value : Options.Value) :
    List (String × Options.Value) → List (String × Options.Value)
  | [] => [(name, value)]
  | (n, v) :: rest =>
    if n = name then (n, value) :: rest else (n, v) :: place name value rest

theorem place_of_not_mem {name : String} {value : Options.Value}
    {entries : List (String × Options.Value)} (h : name ∉ entries.map (·.1)) :
    place name value entries = entries ++ [(name, value)] := by
  induction entries with
  | nil => rfl
  | cons entry rest ih =>
    simp only [List.map_cons, List.mem_cons, not_or] at h
    simp [place, Ne.symm h.1, ih h.2]

/-- A name that is there keeps its place, and so do all others. -/
theorem names_place {name : String} {value : Options.Value}
    {entries : List (String × Options.Value)} (h : name ∈ entries.map (·.1)) :
    (place name value entries).map (·.1) = entries.map (·.1) := by
  induction entries with
  | nil => simp at h
  | cons entry rest ih =>
    simp only [place]
    split <;> grind

def insert (options : Options) (name : String) (value : Options.Value) : Options :=
  ⟨place name value options.entries⟩

def get? (options : Options) (name : String) : Option Options.Value :=
  (options.entries.find? fun entry => entry.1 = name).map (·.2)

theorem get?_insert (options : Options) (name other : String) (value : Options.Value) :
    (options.insert name value).get? other =
      if name = other then some value else options.get? other := by
  obtain ⟨entries⟩ := options
  simp only [get?, insert]
  induction entries with
  | nil => simp only [place, List.find?]; grind
  | cons entry rest ih =>
    simp only [place]
    split <;> simp only [List.find?_cons] <;> grind

def toList (options : Options) : List (String × Options.Value) :=
  options.entries

def size (options : Options) : Nat :=
  options.entries.length

def isEmpty (options : Options) : Bool :=
  options.entries.isEmpty

def spelled (options : Options) : String :=
  let entries := options.entries.map fun (name, value) =>
    Text.tuple [Text.quoted name, value.spelled]
  Text.record "TransportOptions" [("entries", Text.list entries)] false

end Options

end PolledTls
