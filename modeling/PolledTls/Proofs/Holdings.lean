import PolledTls.Proofs.History
import PolledTls.Proofs.Step.Callbacks

/-!
The resources a connection holds. A ledger follows every event and stops at a resource made while
one of its kind is held or given back while none is; no step of a connection stops it, and the
phase a step leads to says what is held.
-/
namespace PolledTls

variable {P : Platform}

structure Holdings where
  lookup : Bool := false
  socket : Bool := false
  context : Bool := false
  session : Bool := false
deriving DecidableEq

namespace Holdings

def holds (held : Holdings) : Resource → Bool
  | .lookup => held.lookup
  | .socket => held.socket
  | .context => held.context
  | .session => held.session

def set (held : Holdings) (holds : Bool) : Resource → Holdings
  | .lookup => { held with lookup := holds }
  | .socket => { held with socket := holds }
  | .context => { held with context := holds }
  | .session => { held with session := holds }

@[simp] theorem holds_set (held : Holdings) (owned : Bool) (r r' : Resource) :
    (held.set owned r).holds r' = if r = r' then owned else held.holds r' := by
  cases r <;> cases r' <;> rfl

theorem ext_holds {held held' : Holdings} (same : ∀ r, held.holds r = held'.holds r) :
    held = held' := by
  obtain ⟨lookup, socket, context, session⟩ := held
  exact congr (congr (congr (congrArg mk (same .lookup)) (same .socket)) (same .context))
    (same .session)

end Holdings

def Call.makes : Call → Option Resource
  | .beginLookup _ (.ok ()) => some .lookup
  | .beginConnect _ (.ok ()) => some .socket
  | .newContext (.ok ()) => some .context
  | .newSession _ (.ok ()) => some .session
  | _ => none

def Event.makes : Event → Option Resource
  | .call answered => answered.makes
  | _ => none

def Event.frees : Event → Option Resource
  | .release resource => some resource
  | _ => none

theorem Event.frees_of_makes {event : Event} {resource : Resource}
    (makes : event.makes = some resource) : event.frees = none := by
  cases event with
  | release given => cases makes
  | _ => rfl

/-- A ledger that stops at a bad event goes on unchanged over events that leave it as it is. -/
theorem Event.foldlM_still {σ : Type} {after : σ → Event → Option σ} {s : σ} {events : List Event}
    (still : ∀ event ∈ events, after s event = some s) : events.foldlM after s = some s := by
  induction events with
  | nil => rfl
  | cons event rest ih =>
      rw [List.foldlM_cons, still event List.mem_cons_self]
      exact ih fun event member => still event (List.mem_cons_of_mem _ member)

theorem Event.foldlM_trans {σ : Type} {after : σ → Event → Option σ} {s middle last : σ}
    {first second : List Event} (before : first.foldlM after s = some middle)
    (later : second.foldlM after middle = some last) :
    (first ++ second).foldlM after s = some last := by
  rw [List.foldlM_append, before]
  exact later

namespace Holdings

/-- What is held after an event, unless it makes what is held or gives back what is not. -/
def after (held : Holdings) (event : Event) : Option Holdings :=
  match event.makes, event.frees with
  | some r, _ => if held.holds r then none else some (held.set true r)
  | none, some r => if held.holds r then some (held.set false r) else none
  | none, none => some held

def afterAll (held : Holdings) (events : List Event) : Option Holdings :=
  events.foldlM after held

theorem afterAll_append (held : Holdings) (first second : List Event) :
    held.afterAll (first ++ second) = (held.afterAll first).bind (·.afterAll second) :=
  List.foldlM_append

theorem afterAll_trans {held middle last : Holdings} {first second : List Event}
    (before : held.afterAll first = some middle) (later : middle.afterAll second = some last) :
    held.afterAll (first ++ second) = some last :=
  Event.foldlM_trans before later

@[simp] theorem afterAll_remarks (held : Holdings) (notices : List Notice) :
    held.afterAll (Event.remarks notices) = some held := by
  apply Event.foldlM_still
  intro event member
  obtain ⟨notice, -, rfl⟩ := List.mem_map.mp member
  rfl

@[simp] theorem afterAll_callbacks (held : Holdings) (callbacks : List Callback) :
    held.afterAll (callbacks.map .callback) = some held := by
  apply Event.foldlM_still
  intro event member
  obtain ⟨fired, -, rfl⟩ := List.mem_map.mp member
  rfl

end Holdings

namespace Event

/-- How often the events tell the peer that nothing more will come. -/
def shutdowns (events : List Event) : Nat :=
  events.countP fun
    | .call .shutdown => true
    | _ => false

@[simp] theorem shutdowns_nil : shutdowns [] = 0 := rfl

@[simp] theorem shutdowns_append (first second : List Event) :
    shutdowns (first ++ second) = shutdowns first + shutdowns second :=
  List.countP_append

@[simp] theorem shutdowns_release (resource : Resource) (rest : List Event) :
    shutdowns (.release resource :: rest) = shutdowns rest := rfl

@[simp] theorem shutdowns_callback (fired : Callback) (rest : List Event) :
    shutdowns (.callback fired :: rest) = shutdowns rest := rfl

@[simp] theorem shutdowns_log (event : LogEvent) (rest : List Event) :
    shutdowns (.log event :: rest) = shutdowns rest := rfl

@[simp] theorem shutdowns_read (room : Nat) (stored : List UInt8) (answer : Except IoError Nat)
    (rest : List Event) : shutdowns (.call (.read room stored answer) :: rest) = shutdowns rest :=
  rfl

@[simp] theorem shutdowns_write (offered : List UInt8) (answer : Except IoError Nat)
    (rest : List Event) : shutdowns (.call (.write offered answer) :: rest) = shutdowns rest :=
  rfl

theorem shutdowns_of_quiet {events : List Event} (silent : events.all quiet = true) :
    shutdowns events = 0 := by
  apply List.countP_eq_zero.mpr
  intro event member told
  have alone := List.all_eq_true.mp silent event member
  split at told
  · cases alone
  · cases told

@[simp] theorem shutdowns_remarks (notices : List Notice) : shutdowns (remarks notices) = 0 :=
  shutdowns_of_quiet (quiet_remarks notices)

theorem shutdowns_callbacks (fired : List Callback) : shutdowns (fired.map .callback) = 0 := by
  induction fired with
  | nil => rfl
  | cons first rest ih => exact ih

end Event

def Status.hasSession : Status → Bool
  | .openingTls | .opened => true
  | .notOpen | .openingDns | .openingSocket | .failed => false

def Entry.leavesSession (e : Entry P) : Bool :=
  match e.request with
  | some (.close _) | none => e.before.status.hasSession
  | _ => false

def Status.holdings : Status → Holdings
  | .notOpen | .failed => {}
  | .openingDns => { lookup := true }
  | .openingSocket => { socket := true }
  | .openingTls | .opened => { socket := true, context := true, session := true }

def Finding.holdings : Finding P → Holdings
  | .waiting phase | .moved phase => phase.status.holdings
  | .opened _ => Status.opened.holdings
  | .broken _ => {}

namespace Phase

variable {config : Config} {phase : Phase P} {es : List Event}

theorem afterAll_releases (phase : Phase P)
    (whole : ∀ dial, phase = .connecting dial → dial.socket.isSome) :
    phase.status.holdings.afterAll phase.releases = some {} := by
  cases phase with
  | connecting dial =>
      rw [releases, Dial.releases, if_pos (whole dial rfl)]
      rfl
  | _ => rfl

theorem afterAll_partings (phase : Phase P)
    (whole : ∀ dial, phase = .connecting dial → dial.socket.isSome) :
    phase.status.holdings.afterAll phase.partings = some {} := by
  cases phase with
  | handshaking channel | opened channel => rfl
  | _ => exact afterAll_releases _ whole

theorem Polls.afterAll {finding : Finding P} (h : phase.Polls config es finding) :
    phase.status.holdings.afterAll es = some finding.holdings := by
  cases h with
  | setupFailed dial setup => cases setup <;> rfl
  | connected dial setup => cases setup; rfl
  | _ => rfl

theorem shutdowns_partings (phase : Phase P) :
    Event.shutdowns phase.partings = if phase.status.hasSession then 1 else 0 := by
  cases phase with
  | connecting dial => exact Event.shutdowns_of_quiet dial.quiet_releases
  | _ => rfl

end Phase

namespace Connection

variable {c left last : Connection P} {now : Instant} {ticket : Ticket} {es : List Event}
  {request : Option Request} {result : Except Error Unit} {calls : List (Entry P)}

theorem afterAll_failure (held : Holdings) (c : Connection P) (ticket : Ticket) (e : Error) :
    held.afterAll (c.failure ticket e) = some held := rfl

theorem Opens.afterAll (h : c.Opens now ticket es left) :
    c.status.holdings.afterAll es = some left.status.holdings := by
  cases h with
  | waits polled inTime => exact polled.afterAll
  | expires polled late =>
      have released := Phase.afterAll_releases _ polled.waiting.2
      exact Holdings.afterAll_trans (Holdings.afterAll_trans polled.afterAll released)
        (afterAll_failure _ c ticket _)
  | moves polled => exact polled.afterAll
  | breaks polled =>
      exact Holdings.afterAll_trans polled.afterAll (afterAll_failure _ c ticket _)
  | completes polled => exact Holdings.afterAll_trans polled.afterAll rfl

theorem Serves.afterAll {channel : Channel P} (h : c.Serves now ticket channel es left) :
    Status.opened.holdings.afterAll es = some left.status.holdings := by
  cases h with
  | rests nothing => rfl
  | expires head late => rfl
  | passes head inTime nothing => rfl
  | stalls head inTime some notices session stalled =>
      exact Holdings.afterAll_remarks _ notices
  | writes head inTime notices session some part =>
      exact Holdings.afterAll_trans (Holdings.afterAll_remarks _ notices) rfl
  | finishes head inTime some notices session all =>
      exact Holdings.afterAll_trans (Holdings.afterAll_remarks _ notices) rfl
  | breaks head inTime some notices hard =>
      exact Holdings.afterAll_trans
        (Holdings.afterAll_trans (Holdings.afterAll_remarks _ notices) rfl) rfl

theorem Transfers.afterAll {channel : Channel P} (h : c.Transfers now ticket channel es left) :
    Status.opened.holdings.afterAll es = some left.status.holdings := by
  cases h with
  | receives stored notices session some served =>
      exact Holdings.afterAll_trans
        (Holdings.afterAll_trans (Holdings.afterAll_remarks _ notices) rfl) served.afterAll
  | listens stored notices session stalled served =>
      exact Holdings.afterAll_trans (Holdings.afterAll_remarks _ notices) served.afterAll
  | breaks stored notices hard =>
      exact Holdings.afterAll_trans
        (Holdings.afterAll_trans (Holdings.afterAll_remarks _ notices) rfl) rfl

theorem afterAll_farewell (sound : c.Sound) :
    c.status.holdings.afterAll c.farewell = some {} := by
  have settled : c.status.holdings.afterAll c.cancellation = some c.status.holdings := by
    unfold cancellation
    split <;> rfl
  have freed := c.phase.afterAll_partings sound.dialing
  have drained : ({} : Holdings).afterAll
      (c.outbox.messages.map fun m => .callback (m.completion .cancelled)) = some {} := by
    rw [Event.map_completion, Holdings.afterAll_callbacks]
  exact Holdings.afterAll_trans
    (Holdings.afterAll_trans (Holdings.afterAll_trans settled freed) drained) rfl

/-! Telling the peer that nothing more will come. -/

theorem Opens.shutdowns (h : c.Opens now ticket es left) : Event.shutdowns es = 0 := by
  cases h with
  | waits polled inTime => exact Event.shutdowns_of_quiet polled.quiet
  | expires polled late =>
      rw [Event.shutdowns_append, Event.shutdowns_append, Event.shutdowns_of_quiet polled.quiet,
        Event.shutdowns_of_quiet (Phase.quiet_releases _)]
      rfl
  | moves polled => exact Event.shutdowns_of_quiet polled.quiet
  | breaks polled =>
      rw [Event.shutdowns_append, Event.shutdowns_of_quiet polled.quiet]
      rfl
  | completes polled =>
      rw [Event.shutdowns_append, Event.shutdowns_of_quiet polled.quiet]
      rfl

theorem Serves.shutdowns {channel : Channel P} (h : c.Serves now ticket channel es left) :
    Event.shutdowns es = 0 := by
  cases h <;> simp [Channel.releases]

theorem Transfers.shutdowns {channel : Channel P} (h : c.Transfers now ticket channel es left) :
    Event.shutdowns es = 0 := by
  cases h with
  | receives stored notices session some served => simp [served.shutdowns]
  | listens stored notices session stalled served => simp [served.shutdowns]
  | breaks stored notices hard => simp [Channel.releases]

theorem shutdowns_farewell (c : Connection P) :
    Event.shutdowns c.farewell = if c.status.hasSession then 1 else 0 := by
  have settled : Event.shutdowns c.cancellation = 0 := by
    unfold cancellation
    split <;> rfl
  have drained : Event.shutdowns
      (c.outbox.messages.map fun m => .callback (m.completion .cancelled)) = 0 := by
    rw [Event.map_completion, Event.shutdowns_callbacks]
  have told : Event.shutdowns c.phase.partings = if c.status.hasSession then 1 else 0 :=
    c.phase.shutdowns_partings
  simp [farewell, settled, drained, told]

/-- No step stops the ledger, and after it is held what its status says. -/
theorem Step.afterAll (h : c.Step now request result es left) (sound : c.Sound) :
    c.status.holdings.afterAll es = some left.status.holdings := by
  cases h with
  | starts idle lookup =>
      rw [idle]
      rfl
  | closes live => exact Holdings.afterAll_trans (afterAll_farewell sound) rfl
  | abandons live => exact afterAll_farewell sound
  | opens owner opened => exact opened.afterAll
  | transfers owner phase transferred =>
      rw [status, phase]
      exact transferred.afterAll
  | _ => rfl

/-- The peer is told in a close and in the drop, once, if there is a session. -/
theorem Step.shutdowns (h : c.Step now request result es left) :
    Event.shutdowns es =
      (Entry.leavesSession ⟨c, now, request, result, es, left⟩).toNat := by
  cases h with
  | closeIgnored idle | vanishes idle => simp [Entry.leavesSession, idle, Status.hasSession]
  | closes live | abandons live =>
      rw [Entry.leavesSession]
      cases session : c.status.hasSession <;> simp [shutdowns_farewell, session]
  | opens owner opened => exact opened.shutdowns
  | transfers owner phase transferred => exact transferred.shutdowns
  | _ => rfl

theorem Linked.afterAll (h : Linked c calls last) (sound : c.Sound) :
    c.status.holdings.afterAll (Entry.eventsOf calls) = some last.status.holdings := by
  induction h with
  | nil c => rfl
  | cons step later ih =>
      exact Holdings.afterAll_trans (step.afterAll sound) (ih (step.sound sound))

end Connection
end PolledTls
