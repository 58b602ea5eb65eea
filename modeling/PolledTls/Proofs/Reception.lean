import PolledTls.Proofs.History
import PolledTls.Proofs.Step.Callbacks

/-!
What is received against what was read. Where every read reports just the bytes it stored, the bytes
handed to the owner of an attempt are the bytes read, in order and each once.
-/
namespace PolledTls

variable {P : Platform}

def Callback.payload : Callback → List UInt8
  | .received _ bytes => bytes
  | _ => []

namespace Event

/-- The bytes handed out by the callbacks among the events. -/
def received (events : List Event) : List UInt8 :=
  (callbacks events).flatMap Callback.payload

/-- The bytes of a read that went well. -/
def drawn : Event → List UInt8
  | .call (.read _ stored (.ok _)) => stored
  | _ => []

def intake (events : List Event) : List UInt8 :=
  events.flatMap drawn

/-- A read that went well reports just the bytes it stored. -/
def Candid : Event → Prop
  | .call (.read _ stored (.ok count)) => stored.length = count
  | _ => True

/-- Neither a read nor bytes handed out. -/
def still : Event → Bool
  | .call (.read ..) | .callback (.received ..) => false
  | _ => true

@[simp] theorem received_append (first second : List Event) :
    received (first ++ second) = received first ++ received second := by
  rw [received, callbacks_append, List.flatMap_append]
  rfl

@[simp] theorem intake_append (first second : List Event) :
    intake (first ++ second) = intake first ++ intake second :=
  List.flatMap_append

theorem intake_cons (event : Event) (rest : List Event) :
    intake (event :: rest) = event.drawn ++ intake rest := rfl

theorem covers_still : Covers still where
  setup event making := by
    unfold still
    split
    · cases making
    · cases making
    · rfl
  opened _ _ := rfl
  sent _ _ := rfl
  failed _ _ := rfl
  closed _ := rfl
  write _ _ := rfl
  shutdown := rfl

theorem received_of_still {events : List Event} (silent : events.all still = true) :
    received events = [] := by
  induction events with
  | nil => rfl
  | cons event rest ih =>
      rw [List.all_cons, Bool.and_eq_true] at silent
      cases event with
      | callback fired =>
          cases fired with
          | received ticket bytes => cases silent.1
          | _ => exact ih silent.2
      | _ => exact ih silent.2

theorem intake_of_still {events : List Event} (silent : events.all still = true) :
    intake events = [] := by
  apply List.flatMap_eq_nil_iff.mpr
  intro event member
  have alone := List.all_eq_true.mp silent event member
  unfold drawn
  split
  · cases alone
  · rfl

end Event

namespace Connection

variable {c left : Connection P} {now : Instant} {ticket : Ticket} {es : List Event}
  {request : Option Request} {result : Except Error Unit}

/-- A read that moved nothing took nothing. -/
theorem drawn_of_stalls {room : Nat} {stored : List UInt8} {answer : Except IoError Nat}
    (stalled : Channel.Stalls answer)
    (candid : (Event.call (.read room stored answer)).Candid) :
    (Event.call (.read room stored answer)).drawn = [] := by
  cases answer with
  | error e => rfl
  | ok count =>
      cases stalled
      exact List.eq_nil_of_length_eq_zero candid

/-- A read shows nothing but itself and what the platform remarks. -/
theorem received_of_read (call : Call) (notices : List Notice) :
    Event.received (.call call :: Event.remarks notices) = [] := by
  have silent := Event.received_of_still (Event.covers_still.remarks notices)
  exact silent

theorem intake_of_read (call : Call) (notices : List Notice) :
    Event.intake (.call call :: Event.remarks notices) = (Event.call call).drawn := by
  rw [Event.intake_cons, Event.intake_of_still (Event.covers_still.remarks notices),
    List.append_nil]

theorem Transfers.received {channel : Channel P} (h : c.Transfers now ticket channel es left)
    (candid : ∀ event ∈ es, event.Candid) : Event.received es = Event.intake es := by
  cases h with
  | @receives count served left stored notices session some serves =>
      have still := serves.all Event.covers_still
      have whole : (stored.take c.buffer.room).length = count :=
        candid (.call (.read c.buffer.room (stored.take c.buffer.room) (.ok count))) (by simp)
      simp only [Event.received_append, Event.intake_append, received_of_read, intake_of_read,
        Event.received_of_still still, Event.intake_of_still still, Buffer.take_store whole]
      simp [Event.received, Callback.payload, Event.intake, Event.drawn]
  | @listens answer served left stored notices session stalled serves =>
      have still := serves.all Event.covers_still
      have nothing := drawn_of_stalls stalled
        (candid (.call (.read c.buffer.room (stored.take c.buffer.room) answer)) (by simp))
      simp only [Event.received_append, Event.intake_append, received_of_read, intake_of_read,
        Event.received_of_still still, Event.intake_of_still still, nothing]
  | breaks stored notices hard =>
      simp only [Event.received_append, Event.intake_append, received_of_read, intake_of_read]
      rfl

theorem Step.received (h : c.Step now request result es left)
    (candid : ∀ event ∈ es, event.Candid) : Event.received es = Event.intake es := by
  rcases h.transfers_or_spans with ⟨ticket, channel, -, -, -, transferred⟩ | spans
  · exact transferred.received candid
  · have still := spans _ Event.covers_still.toSpans
    exact (Event.received_of_still still).trans (Event.intake_of_still still).symm

end Connection
end PolledTls
