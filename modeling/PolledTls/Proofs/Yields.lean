import PolledTls.Platform

/-!
What an action can leave, whatever the platform answers. The laws speak of the value and the events
alone and forget the state between two calls, so a sequence is known from its parts.
-/
namespace PolledTls

/-- The platform's remarks as they stand in a record. -/
def Event.remarks (notices : List Notice) : List Event :=
  notices.map fun n => .log (.notice n)

namespace Act

variable {P : Platform} {α β : Type}

/-- Whatever the platform answers, the value and the events satisfy `Q`. -/
def Yields (x : Act P α) (Q : α → List Event → Prop) : Prop :=
  ∀ s, Q (x s).value (x s).events

namespace Yields

theorem pure {a : α} {Q : α → List Event → Prop} (h : Q a []) :
    (Pure.pure a : Act P α).Yields Q :=
  fun _ => h

/-- The end of a sequence, where no more is seen. -/
theorem done {a : α} {before : List Event} {Q : α → List Event → Prop} (h : Q a before) :
    (Pure.pure a : Act P α).Yields fun b after => Q b (before ++ after) := by
  intro s
  rw [← List.append_nil before] at h
  exact h

theorem bind {x : Act P α} {f : α → Act P β} {R : α → List Event → Prop}
    {Q : β → List Event → Prop} (first : x.Yields R)
    (second : ∀ a before, R a before → (f a).Yields fun b after => Q b (before ++ after)) :
    (x >>= f).Yields Q :=
  fun s => second _ _ (first s) (x s).state

theorem after {x : Act P α} {f : α → Act P β} {before : List Event} {Q : β → List Event → Prop}
    (first : x.Yields fun _ es => es = before)
    (second : ∀ a, (f a).Yields fun b after => Q b (before ++ after)) : (x >>= f).Yields Q := by
  refine first.bind ?_
  rintro a _ rfl
  exact second a

theorem mono {x : Act P α} {R Q : α → List Event → Prop} (h : x.Yields R)
    (weaker : ∀ a events, R a events → Q a events) : x.Yields Q :=
  fun s => weaker _ _ (h s)

end Yields

theorem emit_yields (event : Event) : (emit event : Act P Unit).Yields fun _ es => es = [event] :=
  fun _ => rfl

theorem log_yields (event : LogEvent) :
    (log event : Act P Unit).Yields fun _ es => es = [.log event] :=
  emit_yields _

theorem fire_yields (callback : Callback) :
    (fire callback : Act P Unit).Yields fun _ es => es = [.callback callback] :=
  emit_yields _

theorem fireAll_yields (callbacks : List Callback) :
    (fireAll callbacks : Act P Unit).Yields fun _ es => es = callbacks.map .callback :=
  fun _ => rfl

theorem check_yields {rule : Prop} [Decidable rule] (fault : Fault) (holds : rule) :
    (check rule fault : Act P Unit).Yields fun _ es => es = [] := by
  rw [check, if_pos holds]
  exact .pure rfl

theorem granting_yields : (granting : Act P (Nat → Bool)).Yields fun _ es => es = [] :=
  fun _ => rfl

/-! The platform's calls. -/

theorem beginLookup_yields (hostname : String) :
    (beginLookup hostname : Act P (Except Error P.Lookup)).Yields fun answer es =>
      es = [.call (.beginLookup hostname (answer.map fun _ => ()))] :=
  fun _ => rfl

theorem isComplete_yields (lookup : P.Lookup) :
    (isComplete lookup).Yields fun r es => es = [.call (.isComplete r.1)] :=
  fun _ => rfl

theorem result_yields (lookup : P.Lookup) :
    (result lookup).Yields fun answer es => es = [.call (.result answer)] :=
  fun _ => rfl

theorem beginConnect_yields (endpoint : Endpoint) :
    (beginConnect endpoint : Act P (Except Error P.Socket)).Yields fun answer es =>
      es = [.call (.beginConnect endpoint (answer.map fun _ => ()))] :=
  fun _ => rfl

theorem pollConnect_yields (socket : P.Socket) :
    (pollConnect socket).Yields fun r es => es = [.call (.pollConnect r.1)] :=
  fun _ => rfl

theorem newContext_yields : (newContext : Act P (Except Error P.Context)).Yields fun answer es =>
    es = [.call (.newContext (answer.map fun _ => ()))] :=
  fun _ => rfl

theorem newSession_yields (context : P.Context) (serverName : String) :
    (newSession context serverName).Yields fun answer es =>
      es = [.call (.newSession serverName (answer.map fun _ => ()))] :=
  fun _ => rfl

theorem bindSocket_yields (session : P.Session) (socket : P.Socket) :
    (bindSocket session socket).Yields fun r es => es = [.call (.bindSocket r.1)] :=
  fun _ => rfl

theorem handshake_yields (session : P.Session) :
    (handshake session).Yields fun r es => es = [.call (.handshake r.1)] :=
  fun _ => rfl

theorem read_yields (buffer : Buffer) (session : P.Session) :
    (read buffer session).Yields fun r es => ∃ stored notices,
      r.2.1 = buffer.store stored ∧
      es = .call (.read buffer.room (stored.take buffer.room) r.1) :: Event.remarks notices :=
  fun _ => ⟨_, _, rfl, rfl⟩

theorem write_yields (offered : Bytes) (session : P.Session) :
    (write offered session).Yields fun r es => ∃ notices,
      es = .call (.write offered.toList r.1) :: Event.remarks notices :=
  fun _ => ⟨_, rfl⟩

theorem shutdown_yields (session : P.Session) :
    (shutdown session).Yields fun _ es => es = [.call .shutdown] :=
  fun _ => rfl

theorem releaseLookup_yields (lookup : P.Lookup) :
    (releaseLookup lookup).Yields fun _ es => es = [.release .lookup] :=
  fun _ => rfl

theorem releaseSocket_yields (socket : P.Socket) :
    (releaseSocket socket).Yields fun _ es => es = [.release .socket] :=
  fun _ => rfl

theorem releaseContext_yields (context : P.Context) :
    (releaseContext context).Yields fun _ es => es = [.release .context] :=
  fun _ => rfl

theorem releaseSession_yields (session : P.Session) :
    (releaseSession session).Yields fun _ es => es = [.release .session] :=
  fun _ => rfl

end Act
end PolledTls
