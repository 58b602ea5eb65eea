import PolledTls.Bytes
import PolledTls.Event
import PolledTls.Trail

/-!
The platform a connection runs on, and actions over it. A platform is a bundle of handle types and
of calls that answer at once and pass its state on; an action runs calls in order and keeps the
record of what was seen. No call blocks: "not ready" is an answer like any other.
-/
namespace PolledTls

/-- What a read leaves: the bytes it stored at the front of the buffer, what the platform remarked,
and the count it reports. -/
structure Reading where
  stored : List UInt8
  notices : List Notice := []
  answer : Except IoError Nat

structure Writing where
  notices : List Notice := []
  answer : Except IoError Nat

/-- Name lookup, connecting sockets, TLS contexts and sessions, and memory. -/
structure Platform where
  State : Type
  Lookup : Type
  Socket : Type
  Context : Type
  Session : Type
  beginLookup : String → State → Except Error Lookup × State
  isComplete : Lookup → State → Bool × Lookup × State
  /-- The address found, once the lookup is complete. -/
  result : Lookup → State → Option IPv4 × State
  beginConnect : Endpoint → State → Except Error Socket × State
  pollConnect : Socket → State → Except IoError Bool × Socket × State
  newContext : State → Except Error Context × State
  newSession : Context → String → State → Except Error Session × State
  bindSocket : Session → Socket → State → Except Error Unit × Session × State
  handshake : Session → State → Except IoError Unit × Session × State
  /-- Reads into a buffer with the given room. -/
  read : Nat → Session → State → Reading × Session × State
  write : Bytes → Session → State → Writing × Session × State
  shutdown : Session → State → Session × State
  releaseLookup : Lookup → State → State
  releaseSocket : Socket → State → State
  releaseContext : Context → State → State
  releaseSession : Session → State → State
  grants : Nat → State → Bool

/-- The sizes of memory that can be had where nothing else is said: less than a tebibyte. -/
def attainable (size : Nat) : Bool :=
  size < 1 <<< 40

/-- What an action leaves: its value, the platform's state and the events in order. -/
structure Traced (P : Platform) (α : Type) where
  value : α
  state : P.State
  events : List Event

/-- A computation over a platform that records events. -/
def Act (P : Platform) (α : Type) : Type :=
  P.State → Traced P α

namespace Act

variable {P : Platform} {α β : Type}

protected def pure (a : α) : Act P α :=
  fun s => ⟨a, s, []⟩

protected def bind (x : Act P α) (f : α → Act P β) : Act P β := fun s =>
  let first := x s
  let second := f first.value first.state
  ⟨second.value, second.state, first.events ++ second.events⟩

instance : Monad (Act P) where
  pure := Act.pure
  bind := Act.bind

@[simp] theorem pure_apply (a : α) (s : P.State) : (pure a : Act P α) s = ⟨a, s, []⟩ := rfl

@[simp] theorem bind_apply (x : Act P α) (f : α → Act P β) (s : P.State) :
    (x >>= f) s =
      ⟨(f (x s).value (x s).state).value, (f (x s).value (x s).state).state,
        (x s).events ++ (f (x s).value (x s).state).events⟩ := rfl

@[simp] theorem map_apply (g : α → β) (x : Act P α) (s : P.State) :
    (g <$> x) s = ⟨g (x s).value, (x s).state, (x s).events⟩ :=
  congrArg (Traced.mk _ _) (List.append_nil _)

instance : LawfulMonad (Act P) := LawfulMonad.mk' (Act P)
  (fun x => funext fun s => by simp)
  (fun a f => funext fun s => by simp)
  (fun x f g => funext fun s => by simp)

def emit (event : Event) : Act P Unit :=
  fun s => ⟨(), s, [event]⟩

def log (event : LogEvent) : Act P Unit :=
  emit (.log event)

def fire (callback : Callback) : Act P Unit :=
  emit (.callback callback)

def fireAll (callbacks : List Callback) : Act P Unit :=
  fun s => ⟨(), s, callbacks.map .callback⟩

/-- Hands the events over with the value instead of recording them. -/
def observe (x : Act P α) : Act P (α × List Event) := fun s =>
  let run := x s
  ⟨(run.value, run.events), run.state, []⟩

/-- Takes a step `n` times, each from what the one before left, and keeps every answer. -/
def repeated {σ : Type} (step : σ → Act P (α × σ)) (n : Nat) (a : σ) : Act P (List α × σ) :=
  let rec go : Nat → σ → P.State → Trail α → Trail Event → Traced P (List α × σ)
    | 0, a, s, seen, events => ⟨(seen.toList, a), s, events.toList⟩
    | n + 1, a, s, seen, events =>
      let run := step a s
      go n run.value.2 run.state (seen.push run.value.1) (events ++ run.events)
  fun s => go n a s ∅ ∅

theorem repeated_go {σ : Type} (step : σ → Act P (α × σ)) (n : Nat) (a : σ) (s : P.State)
    (seen : Trail α) (events : Trail Event) :
    repeated.go step n a s seen events =
      let run := repeated step n a s
      ⟨(seen.toList ++ run.value.1, run.value.2), run.state, events.toList ++ run.events⟩ := by
  induction n generalizing a s seen events with
  | zero => simp [repeated, repeated.go]
  | succ n ih =>
    simp only [repeated, repeated.go] at ih ⊢
    rw [ih _ _ (seen.push _), ih _ _ (Trail.push ∅ _)]
    simp

theorem repeated_zero {σ : Type} (step : σ → Act P (α × σ)) (a : σ) :
    repeated step 0 a = pure ([], a) := rfl

theorem repeated_succ {σ : Type} (step : σ → Act P (α × σ)) (n : Nat) (a : σ) :
    repeated step (n + 1) a = do
      let (answer, a) ← step a
      let (answers, a) ← repeated step n a
      return (answer :: answers, a) := by
  funext s
  change repeated.go step n _ _ _ _ = _
  rw [repeated_go]
  simp

def check (rule : Prop) [Decidable rule] (fault : Fault) : Act P Unit :=
  if rule then pure () else emit (.fault fault)

/-! The platform's calls, each recorded with its answer. -/

def beginLookup (hostname : String) : Act P (Except Error P.Lookup) := fun s =>
  let (answer, s) := P.beginLookup hostname s
  ⟨answer, s, [.call (.beginLookup hostname (answer.map fun _ => ()))]⟩

def isComplete (lookup : P.Lookup) : Act P (Bool × P.Lookup) := fun s =>
  let (answer, lookup, s) := P.isComplete lookup s
  ⟨(answer, lookup), s, [.call (.isComplete answer)]⟩

def result (lookup : P.Lookup) : Act P (Option IPv4) := fun s =>
  let (answer, s) := P.result lookup s
  ⟨answer, s, [.call (.result answer)]⟩

def beginConnect (endpoint : Endpoint) : Act P (Except Error P.Socket) := fun s =>
  let (answer, s) := P.beginConnect endpoint s
  ⟨answer, s, [.call (.beginConnect endpoint (answer.map fun _ => ()))]⟩

def pollConnect (socket : P.Socket) : Act P (Except IoError Bool × P.Socket) := fun s =>
  let (answer, socket, s) := P.pollConnect socket s
  ⟨(answer, socket), s, [.call (.pollConnect answer)]⟩

def newContext : Act P (Except Error P.Context) := fun s =>
  let (answer, s) := P.newContext s
  ⟨answer, s, [.call (.newContext (answer.map fun _ => ()))]⟩

def newSession (context : P.Context) (serverName : String) : Act P (Except Error P.Session) :=
  fun s =>
    let (answer, s) := P.newSession context serverName s
    ⟨answer, s, [.call (.newSession serverName (answer.map fun _ => ()))]⟩

def bindSocket (session : P.Session) (socket : P.Socket) :
    Act P (Except Error Unit × P.Session) := fun s =>
  let (answer, session, s) := P.bindSocket session socket s
  ⟨(answer, session), s, [.call (.bindSocket answer)]⟩

def handshake (session : P.Session) : Act P (Except IoError Unit × P.Session) := fun s =>
  let (answer, session, s) := P.handshake session s
  ⟨(answer, session), s, [.call (.handshake answer)]⟩

/-- A read. What it stores replaces the front of the buffer, as far as there is room. -/
def read (buffer : Buffer) (session : P.Session) :
    Act P (Except IoError Nat × Buffer × P.Session) := fun s =>
  let (reading, session, s) := P.read buffer.room session s
  ⟨(reading.answer, buffer.store reading.stored, session), s,
    .call (.read buffer.room (reading.stored.take buffer.room) reading.answer) ::
      reading.notices.map fun n => .log (.notice n)⟩

def write (offered : Bytes) (session : P.Session) :
    Act P (Except IoError Nat × P.Session) := fun s =>
  let (writing, session, s) := P.write offered session s
  ⟨(writing.answer, session), s,
    .call (.write offered.toList writing.answer) ::
      writing.notices.map fun n => .log (.notice n)⟩

def shutdown (session : P.Session) : Act P P.Session := fun s =>
  let (session, s) := P.shutdown session s
  ⟨session, s, [.call .shutdown]⟩

/-! Giving resources back. -/

def releaseLookup (lookup : P.Lookup) : Act P Unit := fun s =>
  ⟨(), P.releaseLookup lookup s, [.release .lookup]⟩

def releaseSocket (socket : P.Socket) : Act P Unit := fun s =>
  ⟨(), P.releaseSocket socket s, [.release .socket]⟩

def releaseContext (context : P.Context) : Act P Unit := fun s =>
  ⟨(), P.releaseContext context s, [.release .context]⟩

def releaseSession (session : P.Session) : Act P Unit := fun s =>
  ⟨(), P.releaseSession session s, [.release .session]⟩

/-- Which sizes can be had now. Asking leaves no trace. -/
def granting : Act P (Nat → Bool) := fun s =>
  ⟨fun size => P.grants size s, s, []⟩

end Act
end PolledTls
