import PolledTls.Scripted
import PolledTls.Connection

/-!
A connection on a bench: a scripted platform and a clock set by hand, worked step by step, with
everything seen at each step.
-/
namespace PolledTls.Scripted

structure Bench where
  connection : Connection Script.platform
  script : Script
  now : Instant
  /-- How many sends were asked for, refused ones too; each has its number as its ticket. -/
  sends : Nat

inductive Step where
  | start
  | close
  | send (bytes : List UInt8)
  | poll
  | setOption (name : String) (value : Options.Value)
  | advance (step : Duration)
  /-- Sets the clock, also back. -/
  | clock (now : Instant)
  | script (more : Script)
  | options
  | look

inductive Answer where
  | unit (result : Except Error Unit)
  | nothing
  /-- The clock would pass the longest duration; it stays where it is. -/
  | clockOverflow
  | options (options : Options)
  | look

namespace Bench

/-- How a bench works its connection: by its own operations or through the transport surface. -/
inductive Surface where
  | direct
  | transport

def create (config : Config) (script : Script) : Except Error Bench × List Event :=
  let run := Connection.create (P := Script.platform) config script
  (run.value.map fun connection => ⟨connection, run.state, 0, 0⟩, run.events)

def request (b : Bench) (surface : Surface) (request : Connection.Request) :
    Answer × List Event × Bench :=
  let act := match surface with
    | .direct => b.connection.carryOut b.now request
    | .transport => Polled.carryOut b.connection b.now request
  let run := act b.script
  (.unit run.value.1, run.events, { b with connection := run.value.2, script := run.state })

/-- Open and close callbacks need no telling apart here. -/
def plainTicket : Ticket := 0

def step (b : Bench) (surface : Surface) : Step → Answer × List Event × Bench
  | .start => b.request surface (.start plainTicket)
  | .close => b.request surface (.close plainTicket)
  | .send bytes =>
    let (answer, events, b) := b.request surface (.send bytes b.sends)
    (answer, events, { b with sends := b.sends + 1 })
  | .poll => b.request surface .poll
  | .setOption name value => b.request surface (.setOption name value)
  | .advance d =>
    match Duration.add? b.now d with
    | some now => (.nothing, [], { b with now })
    | none => (.clockOverflow, [], b)
  | .clock now => (.nothing, [], { b with now })
  | .script more => (.nothing, [], { b with script := b.script.append more })
  | .options =>
    let options := match surface with
      | .direct => b.connection.options
      | .transport => Polled.options Script.platform b.connection
    (.options options, [], b)
  | .look => (.look, [], b)

def drop (b : Bench) : List Event :=
  (b.connection.discard b.script).events

end Bench
end PolledTls.Scripted
