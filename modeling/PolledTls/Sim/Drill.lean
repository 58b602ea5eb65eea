import PolledTls.Sim.Rig

/-!
A drill: a network is set up, a client is driven through a list of steps, and what became of the
world can then be checked. An operation the connection refuses is noted and the drill goes on; a
status that is not reached in time ends it.
-/
namespace PolledTls.Sim.Drill

inductive Step where
  | start
  | poll (count : Nat)
  | reach (target : Status) (most : Nat)
  | advance (step : Duration)
  | send (bytes : List UInt8)
  | deliver (bytes : List UInt8)
  | network (commands : List Network.Command)
  | close

/-- Why a drill comes to no good end. -/
inductive Halt where
  | failed (text : String)
  | clockOverflow

/-- The client with its surroundings, the status after each poll, and what was refused. -/
structure World where
  rig : Rig
  trace : Trail Status
  rejections : Trail (String × Error)

namespace World

def clientName : String := "client"
def peerName : String := "peer"

def create (config : Config) (network : Network) : Except String World :=
  match Rig.create clientName config network with
  | .ok rig => .ok ⟨rig, .ofList [rig.status], ∅⟩
  | .error e => .error ("connection create failed: " ++ e.message)

def status (w : World) : Status :=
  w.rig.status

def poll (w : World) : World :=
  let rig := w.rig.poll
  { w with rig, trace := w.trace.push rig.status }

def pollTimes : Nat → World → World
  | 0, w => w
  | n + 1, w => pollTimes n w.poll

def pollWhileNot (target : Status) : Nat → World → Bool × World
  | left, w =>
    if w.status = target then (true, w)
    else match left with
      | 0 => (false, w)
      | left + 1 => pollWhileNot target left w.poll

/-- Keeps the rig an operation left, and its error if it was refused. -/
def note {α : Type} (w : World) (operation : String) : Except Error α × Rig → World
  | (.ok _, rig) => { w with rig }
  | (.error e, rig) => { w with rig, rejections := w.rejections.push (operation, e) }

/-- One step of a drill, with the reason if the drill ends here. -/
def step (w : World) : Step → Option Halt × World
  | .start => (none, w.note "open" w.rig.start)
  | .poll count => (none, w.pollTimes count)
  | .reach target most =>
    match pollWhileNot target most w with
    | (true, w) => (none, w)
    | (false, w) =>
      (some (.failed ("client did not reach " ++ target.text ++ " within " ++ toString most
        ++ " polls, stuck in " ++ w.status.text)), w)
  | .advance d =>
    match w.rig.advance? d with
    | some rig => (none, { w with rig })
    | none => (some .clockOverflow, w)
  | .send bytes => (none, w.note "send" (w.rig.send bytes))
  | .deliver bytes => (none, { w with rig := w.rig.deliver bytes })
  | .network commands => (none, { w with rig := w.rig.commands commands })
  | .close => (none, w.note "close" w.rig.close)

def steps : List Step → World → Option Halt × World
  | [], w => (none, w)
  | next :: rest, w =>
    match w.step next with
    | (none, w) => steps rest w
    | ended => ended

/-! What has come of it. -/

def opens (w : World) : List Completion :=
  w.rig.heard.filterMap fun
    | .opened _ result => some result
    | _ => none

/-- The sends that completed, in firing order. -/
def sends (w : World) : List (Ticket × Completion) :=
  w.rig.heard.filterMap fun
    | .sent ticket result => some (ticket, result)
    | _ => none

def ioErrors (w : World) : List Error :=
  w.rig.heard.filterMap fun
    | .failed _ e => some e
    | _ => none

def received (w : World) : List UInt8 :=
  w.rig.heard.flatMap fun
    | .received _ bytes => bytes
    | _ => []

def closes (w : World) : Nat :=
  w.rig.heard.countP fun
    | .closed _ => true
    | _ => false

def tally (w : World) : Tally :=
  w.rig.network.tally

end World
end PolledTls.Sim.Drill
