import PolledTls.Sim.Rig

/-!
Exercising a connection with arbitrary bytes. The first byte is the seed and sets the delays, every
other byte is one operation: its low half says which, its high half with what. However the bytes
fall, an idle connection stays idle when polled, and after a last close every callback has fired
once and every resource is back.
-/
namespace PolledTls.Sim.Exercise

/-- A promise of the connection that an exercise found broken. -/
inductive Violation where
  | moved (before after : Status)
  | clockOverflow
  | fault (fault : Fault)
  | notClosed (status : Status)
  | opensLost (asked completed : Nat)
  | sendsLost (accepted completed : Nat)
  | leaked (tally : Tally)

structure Course where
  rig : Rig
  opens : Nat

def config : Config where
  host := "fuzz.test"
  port := 443
  operationTimeout := 500 * Duration.millisecond
  sendTimeout := 500 * Duration.millisecond
  readChunkSize := 16

/-- The delays of the three opening steps, two bits of the seed each. -/
def delays (seed : UInt8) : List Network.Command :=
  let n := seed.toNat
  [.delayLookups (n % 4), .delayConnects (n / 4 % 4), .delayHandshakes (n / 16 % 4)]

def writeRule (arg : Nat) : WriteRule :=
  match arg % 4 with
  | 0 => .unlimited
  | 1 => .blocked
  | 2 => .random arg
  | _ => .chunked arg

/-- A poll, which must not move a connection that is not at work. -/
def poll (course : Course) : Except Violation Course :=
  let before := course.rig.status
  let rig := course.rig.poll
  match before with
  | .notOpen | .failed =>
    if rig.status = before then .ok { course with rig } else .error (.moved before rig.status)
  | _ => .ok { course with rig }

def operate (course : Course) (byte : UInt8) : Except Violation Course :=
  let rig := course.rig
  let arg := byte.toNat / 16
  match byte.toNat % 16 with
  | 0 => .ok { rig := rig.start.2, opens := course.opens + 1 }
  | 1 => .ok { course with rig := rig.close.2 }
  | 2 | 3 => .ok { course with rig := (rig.send (List.replicate (arg * 7) byte)).2 }
  | 4 =>
    match rig.advance? (arg * (50 * Duration.millisecond)) with
    | some rig => .ok { course with rig }
    | none => .error .clockOverflow
  | 5 => .ok { course with rig := rig.deliver (List.replicate (arg + 1) byte) }
  | 6 => .ok { course with rig := rig.commands [.failNextRead .connectionReset] }
  | 7 => .ok { course with rig := rig.commands [.failNextWrite .brokenPipe] }
  | 8 => .ok { course with rig := rig.commands [.write (writeRule arg)] }
  | _ => poll course

def operateAll : List UInt8 → Course → Except Violation Course
  | [], course => .ok course
  | byte :: rest, course =>
    match operate course byte with
    | .ok course => operateAll rest course
    | .error violation => .error violation

def opensCompleted (record : List Event) : Nat :=
  record.countP fun
    | .callback (.opened ..) => true
    | _ => false

def sendsCompleted (record : List Event) : Nat :=
  record.countP fun
    | .callback (.sent ..) => true
    | _ => false

def faults (record : List Event) : List Fault :=
  record.filterMap fun
    | .fault f => some f
    | _ => none

/-- What must hold after the last close. -/
def settle (course : Course) : Except Violation Rig :=
  let rig := course.rig.close.2
  let record := rig.record.toList
  match faults record with
  | f :: _ => .error (.fault f)
  | [] =>
    if rig.status ≠ .notOpen then .error (.notClosed rig.status)
    else if opensCompleted record ≠ course.opens then
      .error (.opensLost course.opens (opensCompleted record))
    else if sendsCompleted record ≠ rig.sends then
      .error (.sendsLost rig.sends (sendsCompleted record))
    else if !rig.network.tally.allReleased then .error (.leaked rig.network.tally)
    else .ok rig

/-- The exercise the bytes spell out: its log, or the promise it found broken. Without a byte, or
without a connection, there is nothing to do. -/
def run : List UInt8 → Except Violation (List LogEvent)
  | [] => .ok []
  | seed :: operations =>
    let network := (Network.ofSeed seed.toUInt64).commands (delays seed)
    match Rig.create "client" config network with
    | .error _ => .ok []
    | .ok rig =>
      match operateAll operations ⟨rig, 0⟩ with
      | .error violation => .error violation
      | .ok course => (settle course).map fun rig => rig.drop.logged

end PolledTls.Sim.Exercise
