import PolledTls.Proofs.Attempt
import PolledTls.Proofs.Holdings

/-!
The protocol of the calls that are made for an attempt. A machine follows them with what is in hand
and stops at a call out of order, at one with another host or endpoint than the protocol says, and
at one on a resource that is not in hand: not made yet, given back or handed over.
-/
namespace PolledTls

variable {P : Platform}

namespace Call

/-- The resources a call is made on. -/
def uses : Call → List Resource
  | .isComplete _ | .result _ => [.lookup]
  | .pollConnect _ => [.socket]
  | .newSession .. => [.context]
  | .bindSocket _ => [.session, .socket]
  | .handshake _ | .read .. | .write .. | .shutdown => [.session]
  | .beginLookup .. | .beginConnect .. | .newContext _ => []

/-- A socket goes to the session it is bound to, whether the session takes it or not. -/
def handsOver : Call → Option Resource
  | .bindSocket _ => some .socket
  | _ => none

end Call

/-- What is in hand after a call. -/
def Holdings.afterCall (hands : Holdings) (call : Call) : Holdings :=
  match call.makes, call.handsOver with
  | some made, _ => hands.set true made
  | none, some given => hands.set false given
  | none, none => hands

/-- How far the calls made for an attempt have come. -/
inductive Stage where
  | fresh
  | resolving
  /-- The lookup is complete and its result has not been asked for. -/
  | resolved
  | found (ip : IPv4)
  | connecting
  | connected
  /-- There is a context. -/
  | equipped
  /-- There is a context and a session. -/
  | prepared
  /-- The socket is bound to the session, and they shake hands. -/
  | bound
  | streaming
  /-- There has been a read in this call of the connection. -/
  | reading
  /-- There has been a read and a write in it. -/
  | writing
  /-- No call may follow. -/
  | over
deriving DecidableEq

namespace Stage

/-- The stage a call leads to if it succeeds. -/
def ifOk (next : Stage) : Except Error Unit → Stage
  | .ok () => next
  | .error _ => .over

/-- The stage a call on a session leads to unless it fails for good. -/
def unlessHard {α : Type} (next : Stage) : Except IoError α → Stage
  | .ok _ => next
  | .error e => if e.kind.isNotReady then next else .over

theorem unlessHard_of_stalls {answer : Except IoError Nat} (stalled : Channel.Stalls answer)
    (next : Stage) : unlessHard next answer = next := by
  cases answer with
  | ok count => rfl
  | error e => exact if_pos stalled

theorem unlessHard_of_hard {α : Type} {e : IoError} (hard : e.kind.isNotReady = false)
    (next : Stage) : unlessHard next (.error e : Except IoError α) = .over := by
  rw [unlessHard, hard]
  rfl

/-- The calls the protocol allows at each stage, and where their answers lead. -/
def after (config : Config) : Stage → Call → Option Stage
  | .fresh, .beginLookup host answer =>
    if host = config.host then some (ifOk .resolving answer) else none
  | .resolving, .isComplete complete => some (if complete then .resolved else .resolving)
  | .resolved, .result none => some .over
  | .resolved, .result (some ip) => some (if ip = .unspecified then .over else .found ip)
  | .found ip, .beginConnect endpoint answer =>
    if endpoint = ⟨ip, config.port⟩ then some (ifOk .connecting answer) else none
  | .connecting, .pollConnect (.ok ready) => some (if ready then .connected else .connecting)
  | .connecting, .pollConnect (.error _) => some .over
  | .connected, .newContext answer => some (ifOk .equipped answer)
  | .equipped, .newSession host answer =>
    if host = config.host then some (ifOk .prepared answer) else none
  | .prepared, .bindSocket answer => some (ifOk .bound answer)
  | .bound, .handshake (.ok ()) => some .streaming
  | .bound, .handshake (.error e) => some (unlessHard .bound (.error e : Except IoError Unit))
  | .streaming, .read _ _ answer => some (unlessHard .reading answer)
  | .reading, .write _ answer => some (unlessHard .writing answer)
  | .bound, .shutdown | .streaming, .shutdown => some .over
  | _, _ => none

/-- Where a call of the connection may end, and the stage from which the next one goes on. What has
been resolved or connected is not left for a later call. -/
def rest : Stage → Option Stage
  | .resolving => some .resolving
  | .connecting => some .connecting
  | .bound => some .bound
  | .streaming | .reading | .writing => some .streaming
  | .over => some .over
  | .fresh | .resolved | .found _ | .connected | .equipped | .prepared => none

end Stage

/-- How far the calls of an attempt have come, and on what they may be made. -/
structure Conduct where
  stage : Stage
  hands : Holdings
deriving DecidableEq

namespace Conduct

/-- Nothing asked and nothing in hand. -/
def fresh : Conduct :=
  ⟨.fresh, {}⟩

def after (config : Config) (conduct : Conduct) : Event → Option Conduct
  | .call call =>
    if call.uses.all conduct.hands.holds then
      (conduct.stage.after config call).map (⟨·, conduct.hands.afterCall call⟩)
    else none
  | .release resource => some { conduct with hands := conduct.hands.set false resource }
  | .callback _ | .log _ | .fault _ => some conduct

def follow (config : Config) (conduct : Conduct) (events : List Event) : Option Conduct :=
  events.foldlM (after config) conduct

def rest (conduct : Conduct) : Option Conduct :=
  conduct.stage.rest.map fun stage => { conduct with stage }

/-- What one call of the connection leads to. -/
def round (config : Config) (conduct : Conduct) (events : List Event) : Option Conduct :=
  (conduct.follow config events).bind rest

/-- What calls of the connection lead to. -/
def through (config : Config) (conduct : Conduct) (calls : List (Entry P)) : Option Conduct :=
  calls.foldlM (fun conduct e => conduct.round config e.events) conduct

variable {config : Config} {conduct middle last : Conduct} {first second : List Event}

theorem follow_trans (before : conduct.follow config first = some middle)
    (later : middle.follow config second = some last) :
    conduct.follow config (first ++ second) = some last :=
  Event.foldlM_trans before later

theorem round_trans (before : conduct.follow config first = some middle)
    (later : middle.round config second = some last) :
    conduct.round config (first ++ second) = some last := by
  rw [follow] at before
  rw [round, follow, List.foldlM_append, before]
  exact later

theorem round_of_follow (followed : conduct.follow config first = some middle)
    (rested : middle.rest = some last) : conduct.round config first = some last := by
  rw [round, followed]
  exact rested

theorem follow_call {call : Call} {next : Stage} {rest : List Event}
    (held : call.uses.all conduct.hands.holds = true)
    (allowed : conduct.stage.after config call = some next) :
    conduct.follow config (.call call :: rest) =
      Conduct.follow config ⟨next, conduct.hands.afterCall call⟩ rest := by
  rw [follow, List.foldlM_cons, after, if_pos held, allowed]
  rfl

@[simp] theorem follow_remarks (notices : List Notice) :
    conduct.follow config (Event.remarks notices) = some conduct := by
  apply Event.foldlM_still
  intro event member
  obtain ⟨notice, -, rfl⟩ := List.mem_map.mp member
  rfl

theorem follow_callbacks (fired : List Callback) :
    conduct.follow config (fired.map .callback) = some conduct := by
  apply Event.foldlM_still
  intro event member
  obtain ⟨callback, -, rfl⟩ := List.mem_map.mp member
  rfl

theorem through_append {first second : List (Entry P)} :
    conduct.through config (first ++ second) =
      (conduct.through config first).bind (·.through config second) :=
  List.foldlM_append

end Conduct

/-- What stands of the calls of an attempt between two calls of the connection, by its status. -/
def Status.conduct : Status → Conduct
  | .notOpen => .fresh
  | .openingDns => ⟨.resolving, { lookup := true }⟩
  | .openingSocket => ⟨.connecting, { socket := true }⟩
  | .openingTls => ⟨.bound, { context := true, session := true }⟩
  | .opened => ⟨.streaming, { context := true, session := true }⟩
  | .failed => ⟨.over, {}⟩

theorem Status.rest_of_opening {status : Status} (opening : status.isOpening = true) :
    status.conduct.stage.rest = some status.conduct.stage := by
  cases status with
  | openingDns | openingSocket | openingTls => rfl
  | notOpen | opened | failed => cases opening

/-- Whether the calls of an attempt under way stand where the status says. An attempt that failed
has nothing in hand, at whatever stage it ran out of time. -/
inductive Standing : Status → Conduct → Prop
  | going {status : Status} (live : status ≠ .notOpen) : Standing status status.conduct
  | failed {stage : Stage} (rests : stage.rest = some stage) : Standing .failed ⟨stage, {}⟩

theorem Standing.of_opening {status : Status} (opening : status.isOpening = true) :
    Standing status status.conduct := by
  apply Standing.going
  rintro rfl
  cases opening

theorem Standing.live {status : Status} {conduct : Conduct} (standing : Standing status conduct) :
    status ≠ .notOpen := by
  cases standing with
  | going live => exact live
  | failed rests => nofun

theorem Standing.conduct_eq {status : Status} {conduct : Conduct}
    (standing : Standing status conduct) (unfailed : status ≠ .failed) :
    conduct = status.conduct := by
  cases standing with
  | going live => rfl
  | failed rests => exact absurd rfl unfailed

theorem Standing.rest {status : Status} {conduct : Conduct} (standing : Standing status conduct) :
    conduct.rest = some conduct := by
  cases standing with
  | going live => cases status <;> first | rfl | exact absurd rfl live
  | failed rests =>
      rw [Conduct.rest, rests]
      rfl

theorem Standing.hasSession {status : Status} {conduct : Conduct}
    (standing : Standing status conduct) : conduct.hands.session = status.hasSession := by
  cases standing with
  | going live => cases status <;> rfl
  | failed rests => rfl

/-- What stands when a poll has read, and the session lives. -/
def Conduct.reading : Conduct :=
  ⟨.reading, Status.opened.conduct.hands⟩

theorem Conduct.follow_read {config : Config} {room : Nat} {stored : List UInt8}
    {answer : Except IoError Nat} {notices : List Notice} {next : Stage}
    (leads : Stage.unlessHard .reading answer = next) :
    Status.opened.conduct.follow config
      (.call (.read room stored answer) :: Event.remarks notices) =
        some ⟨next, Status.opened.conduct.hands⟩ := by
  subst leads
  exact Eq.trans (follow_call rfl rfl) (follow_remarks notices)

theorem Conduct.follow_write {config : Config} {offered : List UInt8} {answer : Except IoError Nat}
    {notices : List Notice} {next : Stage} (leads : Stage.unlessHard .writing answer = next) :
    Conduct.reading.follow config (.call (.write offered answer) :: Event.remarks notices) =
      some ⟨next, Status.opened.conduct.hands⟩ := by
  subst leads
  exact Eq.trans (follow_call rfl rfl) (follow_remarks notices)

def Finding.conduct : Finding P → Conduct
  | .waiting phase | .moved phase => phase.status.conduct
  | .opened _ => Status.opened.conduct
  | .broken _ => Status.failed.conduct

theorem Channel.Starts.follow {config : Config} {answer : Except Error (Channel P)}
    {es : List Event} (h : Channel.Starts config.host answer es) :
    Conduct.follow config ⟨.connected, { socket := true }⟩ es =
      some (match answer with
        | .ok _ => Status.openingTls.conduct
        | .error _ => Status.failed.conduct) := by
  cases h with
  | contextFailed e => rfl
  | sessionFailed e =>
      refine Eq.trans (Conduct.follow_call rfl rfl) ?_
      exact Eq.trans (Conduct.follow_call rfl (if_pos rfl)) rfl
  | bindFailed e =>
      refine Eq.trans (Conduct.follow_call rfl rfl) ?_
      exact Eq.trans (Conduct.follow_call rfl (if_pos rfl)) rfl
  | started session socket context =>
      refine Eq.trans (Conduct.follow_call rfl rfl) ?_
      exact Eq.trans (Conduct.follow_call rfl (if_pos rfl)) rfl

namespace Phase

variable {config : Config} {phase : Phase P} {es : List Event}

/-- A lookup that leads to an address is given back before anything is asked of the address. -/
theorem follow_found {ip : IPv4} (somewhere : ip ≠ .unspecified) :
    Status.openingDns.conduct.follow config
      [.call (.isComplete true), .call (.result (some ip)), .release .lookup] =
        some ⟨.found ip, {}⟩ := by
  have resolved : Stage.resolved.after config (.result (some ip)) = some (.found ip) :=
    congrArg some (if_neg somewhere)
  refine Eq.trans (Conduct.follow_call rfl rfl) ?_
  exact Eq.trans (Conduct.follow_call rfl resolved) rfl

theorem Polls.follow {finding : Finding P} (h : phase.Polls config es finding) :
    phase.status.conduct.follow config es = some finding.conduct := by
  cases h with
  | lookupPending query lookup => rfl
  | lookupFailed query nowhere =>
      rcases nowhere with rfl | rfl
      · rfl
      · rfl
  | connectRefused query somewhere e =>
      exact Conduct.follow_trans (follow_found somewhere) (Conduct.follow_call rfl (if_pos rfl))
  | resolved query somewhere socket =>
      refine Conduct.follow_trans (follow_found somewhere) ?_
      exact Eq.trans (Conduct.follow_call rfl (if_pos rfl)) rfl
  | connectPending dial socket => rfl
  | connectFailed dial e => rfl
  | setupFailed dial setup =>
      exact Eq.trans (Conduct.follow_call rfl rfl) (Channel.Starts.follow setup)
  | connected dial setup =>
      refine Conduct.follow_trans ?_ rfl
      exact Eq.trans (Conduct.follow_call rfl rfl) (Channel.Starts.follow setup)
  | handshakePending channel session notReady =>
      refine Eq.trans (Conduct.follow_call rfl rfl) ?_
      rw [Stage.unlessHard, if_pos notReady]
      rfl
  | handshakeFailed channel hard =>
      refine Eq.trans (Conduct.follow_call rfl rfl) ?_
      rw [Stage.unlessHard_of_hard hard]
      rfl
  | handshakeDone channel session => rfl

theorem follow_releases (phase : Phase P)
    (whole : ∀ dial, phase = .connecting dial → dial.socket.isSome) :
    phase.status.conduct.follow config phase.releases =
      some ⟨phase.status.conduct.stage, {}⟩ := by
  cases phase with
  | connecting dial =>
      rw [releases, Dial.releases, if_pos (whole dial rfl)]
      rfl
  | _ => rfl

/-- Leaving a phase for good leaves nothing in hand. -/
theorem follow_partings (phase : Phase P)
    (whole : ∀ dial, phase = .connecting dial → dial.socket.isSome) {conduct : Conduct}
    (standing : Standing phase.status conduct) :
    ∃ stage, conduct.follow config phase.partings = some ⟨stage, {}⟩ ∧
      stage.rest = some stage := by
  cases phase with
  | notOpen => exact absurd rfl standing.live
  | resolving query =>
      rw [standing.conduct_eq nofun]
      exact ⟨_, follow_releases (.resolving query) whole, rfl⟩
  | connecting dial =>
      rw [standing.conduct_eq nofun]
      exact ⟨_, follow_releases (.connecting dial) whole, rfl⟩
  | handshaking channel | opened channel =>
      rw [standing.conduct_eq nofun]
      exact ⟨.over, rfl, rfl⟩
  | failed =>
      cases standing with
      | going live => exact ⟨.over, rfl, rfl⟩
      | failed rests => exact ⟨_, rfl, rests⟩

end Phase

namespace Connection

variable {c left last : Connection P} {now : Instant} {ticket : Ticket} {es : List Event}
  {request : Option Request} {result : Except Error Unit} {calls : List (Entry P)}
  {conduct : Conduct}

theorem Opens.round (h : c.Opens now ticket es left) :
    ∃ next, c.status.conduct.round c.config es = some next ∧ Standing left.status next := by
  have done {next : Conduct} {more : List Event} {status : Status}
      (followed : c.status.conduct.follow c.config more = some next)
      (standing : Standing status next) :
      ∃ next, c.status.conduct.round c.config more = some next ∧ Standing status next :=
    ⟨next, Conduct.round_of_follow followed standing.rest, standing⟩
  cases h with
  | waits polled inTime => exact done polled.follow (.of_opening polled.waiting_isOpening)
  | @expires _ phase _ polled late =>
      have released : phase.status.conduct.follow c.config phase.releases = _ :=
        phase.follow_releases polled.waiting.2
      exact done (Conduct.follow_trans (Conduct.follow_trans polled.follow released) rfl)
        (.failed (Status.rest_of_opening polled.waiting_isOpening))
  | moves polled => exact done polled.follow (.of_opening polled.moved_isOpening)
  | breaks polled => exact done (Conduct.follow_trans polled.follow rfl) (.going nofun)
  | completes polled => exact done (Conduct.follow_trans polled.follow rfl) (.going nofun)

theorem Serves.round {channel : Channel P} (h : c.Serves now ticket channel es left) :
    ∃ next, Conduct.reading.round c.config es = some next ∧ Standing left.status next := by
  cases h with
  | rests nothing | expires head late | passes head inTime nothing =>
      exact ⟨Status.opened.conduct, rfl, .going nofun⟩
  | stalls head inTime some notices session stalled =>
      have written := Stage.unlessHard_of_stalls stalled .writing
      exact ⟨Status.opened.conduct, Conduct.round_of_follow (Conduct.follow_write written) rfl,
        .going nofun⟩
  | writes head inTime notices session some part =>
      refine ⟨Status.opened.conduct, ?_, .going nofun⟩
      exact Conduct.round_trans (Conduct.follow_write rfl) rfl
  | finishes head inTime some notices session all =>
      refine ⟨Status.opened.conduct, ?_, .going nofun⟩
      exact Conduct.round_trans (Conduct.follow_write rfl) rfl
  | breaks head inTime some notices hard =>
      refine ⟨Status.failed.conduct, ?_, .going nofun⟩
      rw [List.append_assoc]
      exact Conduct.round_trans (Conduct.follow_write (Stage.unlessHard_of_hard hard _)) rfl

theorem Transfers.round {channel : Channel P} (h : c.Transfers now ticket channel es left) :
    ∃ next, Status.opened.conduct.round c.config es = some next ∧ Standing left.status next := by
  cases h with
  | receives stored notices session some served =>
      obtain ⟨next, round, standing⟩ := served.round
      refine ⟨next, ?_, standing⟩
      exact Conduct.round_trans (Conduct.follow_trans (Conduct.follow_read rfl) rfl) round
  | listens stored notices session stalled served =>
      obtain ⟨next, round, standing⟩ := served.round
      have heard := Stage.unlessHard_of_stalls stalled .reading
      exact ⟨next, Conduct.round_trans (Conduct.follow_read heard) round, standing⟩
  | breaks stored notices hard =>
      refine ⟨Status.failed.conduct, ?_, .going nofun⟩
      rw [List.append_assoc]
      exact Conduct.round_trans (Conduct.follow_read (Stage.unlessHard_of_hard hard _)) rfl

theorem follow_farewell (sound : c.Sound) (standing : Standing c.status conduct) :
    ∃ stage, conduct.follow c.config c.farewell = some ⟨stage, {}⟩ ∧
      stage.rest = some stage := by
  have settled : conduct.follow c.config c.cancellation = some conduct := by
    unfold cancellation
    split <;> rfl
  obtain ⟨stage, parted, rests⟩ := c.phase.follow_partings sound.dialing standing
  have drained : Conduct.follow c.config ⟨stage, {}⟩
      (c.outbox.messages.map fun m => .callback (m.completion .cancelled)) =
        some ⟨stage, {}⟩ := by
    rw [Event.map_completion, Conduct.follow_callbacks]
  refine ⟨stage, ?_, rests⟩
  exact Conduct.follow_trans
    (Conduct.follow_trans (Conduct.follow_trans settled parted) drained) rfl

/-- A call in the midst of an attempt keeps to the protocol and leaves the calls of the attempt
where its status says. -/
theorem Step.round (h : c.Step now request result es left) (standing : Standing c.status conduct)
    (goesOn : Entry.ends ⟨c, now, request, result, es, left⟩ = false) :
    ∃ next, conduct.round c.config es = some next ∧ Standing left.status next := by
  have still {es : List Event} (followed : conduct.follow c.config es = some conduct) :
      ∃ next, conduct.round c.config es = some next ∧ Standing c.status next :=
    ⟨conduct, Conduct.round_of_follow followed standing.rest, standing⟩
  cases h with
  | lookupRefused idle | starts idle | closeIgnored idle => exact absurd idle standing.live
  | closes live | vanishes idle | abandons live => cases goesOn
  | opens listener opened =>
      have unfailed : c.status ≠ .failed := by
        intro failed
        have opening := opened.opening
        rw [failed] at opening
        cases opening
      rw [standing.conduct_eq unfailed]
      exact opened.round
  | transfers listener phase transferred =>
      have ready : c.status = .opened := by rw [status, phase, Phase.status]
      rw [ready] at standing
      rw [standing.conduct_eq (by decide)]
      exact transferred.round
  | _ => exact still rfl

/-- The open that begins an attempt starts its calls. -/
theorem Step.round_begun (h : c.Step now request result es left)
    (begins : Entry.begins ⟨c, now, request, result, es, left⟩ = true) :
    ∃ next, Conduct.fresh.round c.config es = some next ∧ Standing left.status next := by
  cases h with
  | starts idle lookup =>
      refine ⟨Status.openingDns.conduct, ?_, .going nofun⟩
      exact Conduct.round_of_follow (Eq.trans (Conduct.follow_call rfl (if_pos rfl)) rfl) rfl
  | _ => cases begins

/-- The close or the drop that ends an attempt keeps to the protocol and leaves nothing in hand. -/
theorem Step.round_ended (h : c.Step now request result es left) (sound : c.Sound)
    (standing : Standing c.status conduct)
    (ends : Entry.ends ⟨c, now, request, result, es, left⟩ = true) :
    ∃ stage, conduct.round c.config es = some ⟨stage, {}⟩ := by
  cases h with
  | closes live =>
      obtain ⟨stage, parted, rests⟩ := follow_farewell sound standing
      refine ⟨stage, Conduct.round_of_follow (Conduct.follow_trans parted rfl) ?_⟩
      rw [Conduct.rest, rests]
      rfl
  | vanishes idle => exact absurd idle standing.live
  | abandons live =>
      obtain ⟨stage, parted, rests⟩ := follow_farewell sound standing
      have logged : conduct.follow c.config [.log (.abandoned c.host c.status)] = some conduct :=
        rfl
      have followed := Conduct.follow_trans logged parted
      refine ⟨stage, Conduct.round_of_follow followed ?_⟩
      rw [Conduct.rest, rests]
      rfl
  | _ => cases ends

end Connection
end PolledTls
