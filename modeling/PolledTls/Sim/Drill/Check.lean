import PolledTls.Sim.Drill
import PolledTls.Text

/-!
Checks of the world a drill leaves, and the drill as a whole. A check that fails says what it found.
-/
namespace PolledTls.Sim.Drill

inductive Check where
  | statusIs (expected : Status)
  /-- One open completion, with this result. -/
  | openedWith (expected : Completion)
  /-- The sends completed in the order in which they were queued, with these results. -/
  | sendsCompleted (expected : List Completion)
  | peerReceived (expected : List UInt8)
  | clientReceived (expected : List UInt8)
  | resourcesReleased
  | noIoErrors
  | noRejections
  | allOf (checks : List Check)

namespace Check

def shown (bytes : List UInt8) : String :=
  Text.quoted (Text.lossy bytes)

def results (list : List Completion) : String :=
  Text.list (list.map Completion.text)

/-- `.ok` if the condition holds, and else the text. -/
def ensure (condition : Bool) (text : String) : Except String Unit :=
  if condition then .ok () else .error text

mutual

def run (w : World) : Check → Except String Unit
  | .statusIs expected => w.rig.expect expected
  | .openedWith expected =>
    ensure (w.opens = [expected])
      ("expected one open completion " ++ expected.text ++ ", got " ++ results w.opens)
  | .sendsCompleted expected => do
    let ids := w.sends.map (·.1)
    ensure (ids = List.range ids.length)
      ("sends completed out of order: " ++ Text.list (ids.map toString))
    let found := w.sends.map (·.2)
    ensure (found = expected)
      ("expected send results " ++ results expected ++ ", got " ++ results found)
  | .peerReceived expected =>
    let received := w.rig.peerReceived
    ensure (received = expected)
      ("peer received " ++ toString received.length ++ " bytes, expected "
        ++ toString expected.length ++ ": " ++ shown received)
  | .clientReceived expected =>
    ensure (w.received = expected)
      ("client received " ++ shown w.received ++ ", expected " ++ shown expected)
  | .resourcesReleased => ensure w.tally.allReleased ("resources leaked: " ++ w.tally.spelled)
  | .noIoErrors =>
    ensure w.ioErrors.isEmpty
      ("unexpected I/O errors: " ++ Text.list (w.ioErrors.map Error.spelled))
  | .noRejections =>
    let rejections := w.rejections.toList
    ensure rejections.isEmpty
      ("operations rejected: " ++ Text.list (rejections.map fun (operation, e) =>
        Text.tuple [Text.quoted operation, e.spelled]))
  | .allOf checks => runAll w checks

def runAll (w : World) : List Check → Except String Unit
  | [] => .ok ()
  | check :: rest =>
    match run w check with
    | .ok () => runAll w rest
    | .error text => .error text

end
end Check

/-- What a drill came to: the verdict, the world if all steps were taken, and the rig after the
final drop of the client, if there was one. -/
structure Report where
  verdict : Except Halt Unit
  world : Option World
  left : Option Rig

def Report.log (report : Report) : List LogEvent :=
  (report.left.map Rig.logged).getD []

def usualConfig : Config :=
  { host := "scenario.test", port := 443 }

def run (config : Config) (seed : UInt64) (setup : List Network.Command) (steps : List Step)
    (checks : List Check) : Report :=
  match World.create config ((Network.ofSeed seed).commands setup) with
  | .error text => ⟨.error (.failed text), none, none⟩
  | .ok w =>
    match World.steps steps w with
    | (some halt, w) => ⟨.error halt, none, some w.rig.drop⟩
    | (none, w) => ⟨(Check.runAll w checks).mapError .failed, some w, some w.rig.drop⟩

end PolledTls.Sim.Drill
