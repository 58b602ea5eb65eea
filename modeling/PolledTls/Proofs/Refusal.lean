import PolledTls.Proofs.Step.Callbacks
import PolledTls.Proofs.History
import PolledTls.Scripted

/-!
Requests that are refused change nothing, so a history goes on as if they had not been made. The same
goes for polls where nothing is under way.
-/
namespace PolledTls

variable {P : Platform}

namespace Connection.Request

/-- The error with which a status rules the request out. -/
def objection (status : Status) : Request → Option Error
  | .start _ => if status = .notOpen then none else some (.invalidState status "open")
  | .close _ => if status = .notOpen then some (.invalidState status "close") else none
  | .send _ _ => if status = .opened then none else some (.invalidState status "send")
  | .poll | .setOption _ _ => none

/-- Whether the request is without effect in the status: it is ruled out, or a poll that finds
nothing under way. -/
def idles (status : Status) : Request → Bool
  | .poll => status = .notOpen ∨ status = .failed
  | request => (request.objection status).isSome

/-- The callbacks that a request fires when it is refused: its own, as far as it has one to fire. -/
def refusal : Request → List Callback
  | .start ticket => [.opened ticket .error]
  | .close ticket => [.closed ticket]
  | .send _ _ | .poll | .setOption _ _ => []

end Connection.Request

/-- Whether the call was without effect. The drop never counts as one. -/
def Entry.idles (e : Entry P) : Bool :=
  e.request.any (·.idles e.before.status)

namespace Connection

variable {c left left' : Connection P} {now : Instant} {es es' : List Event} {error : Error}
  {request : Request} {result result' : Except Error Unit}

/-! One call. -/

theorem Step.of_objection (h : c.Step now (some request) result es left)
    (ruled : request.objection c.status = some error) : result = .error error := by
  cases h with
  | startRejected live =>
      rw [Request.objection, if_neg live] at ruled
      rw [Option.some.inj ruled]
  | closeIgnored idle =>
      rw [Request.objection, if_pos idle, idle] at ruled
      rw [Option.some.inj ruled]
  | sendRejected unopened =>
      rw [Request.objection, if_neg unopened] at ruled
      rw [Option.some.inj ruled]
  | lookupRefused idle _ | starts idle _ =>
      rw [Request.objection, if_pos idle] at ruled
      cases ruled
  | closes live =>
      rw [Request.objection, if_neg live] at ruled
      cases ruled
  | sendUnaffordable opened _ | queues opened =>
      rw [Request.objection, if_pos opened] at ruled
      cases ruled
  | rests | opens | transfers | ignores => cases ruled

theorem Step.of_refused_lookup {ticket : Ticket} {e : Error}
    (h : c.Step now (some (.start ticket)) result es left)
    (refused : .beginLookup c.host (.error e) ∈ Event.calls es) : result = .error e.asDns := by
  cases h with
  | startRejected live => cases refused
  | lookupRefused idle e' =>
      obtain ⟨-, same⟩ := Call.beginLookup.inj (List.mem_singleton.mp refused)
      rw [Except.error.inj same]
  | starts idle lookup =>
      obtain ⟨-, same⟩ := Call.beginLookup.inj (List.mem_singleton.mp refused)
      cases same

/-- An error leaves everything as it was. Nothing is asked of the platform but a lookup that it
refuses, and nothing fires but what belongs to the request. -/
theorem Step.of_error (h : c.Step now (some request) (.error error) es left) :
    left = c ∧ Event.callbacks es = request.refusal ∧ (∀ resource, .release resource ∉ es) ∧
      ∀ made ∈ Event.calls es, ∃ e, made = .beginLookup c.host (.error e) := by
  cases h with
  | lookupRefused idle e =>
      refine ⟨rfl, rfl, by simp, ?_⟩
      intro made member
      exact ⟨e, List.mem_singleton.mp member⟩
  | startRejected | closeIgnored | sendRejected | sendUnaffordable =>
      refine ⟨rfl, rfl, by simp, ?_⟩
      intro made member
      cases member

/-- A request without effect leaves the connection and the platform as they were. -/
theorem carryOut_idles (c : Connection P) (now : Instant) (s : P.State)
    (idles : request.idles c.status = true) :
    (c.carryOut now request s).value.2 = c ∧ (c.carryOut now request s).state = s := by
  cases request with
  | start ticket =>
      unfold carryOut start
      cases phase : c.phase with
      | notOpen => simp [Request.idles, Request.objection, status, Phase.status, phase] at idles
      | _ => exact ⟨rfl, rfl⟩
  | close ticket =>
      unfold carryOut close
      cases phase : c.phase with
      | notOpen => exact ⟨rfl, rfl⟩
      | _ => simp [Request.idles, Request.objection, status, Phase.status, phase] at idles
  | send bytes ticket =>
      unfold carryOut send
      cases phase : c.phase with
      | opened channel =>
          simp [Request.idles, Request.objection, status, Phase.status, phase] at idles
      | _ => exact ⟨rfl, rfl⟩
  | poll =>
      unfold carryOut poll
      cases phase : c.phase with
      | notOpen | failed => exact ⟨rfl, rfl⟩
      | _ => simp [Request.idles, status, Phase.status, phase] at idles
  | setOption name value => cases idles

/-- What a drop shows depends on the connection alone. -/
theorem Step.drop_unique (h : c.Step now none result es left)
    (h' : c.Step now none result' es' left') : es' = es ∧ left' = left := by
  cases h with
  | vanishes idle =>
      cases h' with
      | vanishes idle => exact ⟨rfl, rfl⟩
      | abandons live => exact absurd idle live
  | abandons live =>
      cases h' with
      | vanishes idle => exact absurd idle live
      | abandons live => exact ⟨rfl, rfl⟩

/-! Any number of calls. -/

/-- The turns without those that are without effect. What became of the platform before these, which
is `meanwhile` by now, becomes of it before the next turn that is kept. -/
def spared (c : Connection P) (s : P.State) (meanwhile : P.State → P.State) :
    List (Turn P) → List (Turn P)
  | [] => []
  | turn :: rest =>
    let run := c.carryOut turn.now turn.request (turn.meanwhile s)
    let meanwhile := turn.meanwhile ∘ meanwhile
    if turn.request.idles c.status then run.value.2.spared run.state meanwhile rest
    else { turn with meanwhile } :: run.value.2.spared run.state id rest

/-- Two opens and a send come too early, and a second close too late. -/
example :
    let turns : List (Turn Script.platform) :=
      [⟨id, 0, .poll⟩, ⟨id, 0, .start 1⟩, ⟨id, 1, .start 2⟩, ⟨id, 1, .send [5] 3⟩, ⟨id, 2, .poll⟩,
        ⟨id, 2, .start 4⟩, ⟨id, 3, .close 5⟩, ⟨id, 3, .close 6⟩]
    let c : Connection Script.platform := idle { host := "h", port := 1 }
    (c.spared ({} : Script) id turns).map (·.now) = [0, 2, 3] := by
  decide

/-- A history without the calls that are without effect is that of the turns without them. -/
theorem history_spared (sound : c.Sound) (s : P.State) (meanwhile : P.State → P.State)
    (turns : List (Turn P)) :
    c.history s (c.spared (meanwhile s) meanwhile turns) =
      (c.history (meanwhile s) turns).filter fun e => !e.idles := by
  induction turns generalizing c s meanwhile with
  | nil =>
      have here : c.Step 0 none _ _ _ := discard_step sound s
      have there : c.Step 0 none _ _ _ := discard_step sound (meanwhile s)
      obtain ⟨events, left⟩ := there.drop_unique here
      simp only [spared, history, events, left]
      rfl
  | cons turn rest ih =>
      by_cases idles : turn.request.idles c.status = true
      -- The platform is where the call without effect found it: all that became of it is kept.
      · obtain ⟨left, state⟩ := carryOut_idles c turn.now (turn.meanwhile (meanwhile s)) idles
        simp only [spared, history, idles, if_true, left, state]
        rw [List.filter_cons_of_neg (by simp [Entry.idles, idles])]
        exact ih sound s (turn.meanwhile ∘ meanwhile)
      · have step := carryOut_step sound turn.now turn.request (turn.meanwhile (meanwhile s))
        simp only [spared, history, idles]
        rw [List.filter_cons_of_pos (by simp [Entry.idles, idles])]
        exact congrArg _ (ih (step.sound sound) _ id)

/-- In every history the requests that the status rules out and the opens whose lookup is refused
are answered with an error. An error changes nothing of the connection: not its status, its
callbacks, its deadline, what it holds or what it has queued. Nothing goes back, no call is made but
a lookup that is refused, and nothing fires but the completion of the open or of the close itself.
So without the calls ruled out, and without the polls that find nothing under way, all the other
calls are the same. -/
theorem refusals_change_nothing (config : Config) (s : P.State) (turns : List (Turn P)) :
    let calls := (idle config : Connection P).history s turns
    (∀ e ∈ calls, ∀ request, e.request = some request →
      (∀ error, request.objection e.before.status = some error → e.result = .error error) ∧
      (∀ ticket refusal, request = .start ticket →
        .beginLookup config.host (.error refusal) ∈ e.calls → e.result = .error refusal.asDns) ∧
      ∀ error, e.result = .error error →
        e.after = e.before ∧ Event.callbacks e.events = request.refusal ∧
          (∀ resource, .release resource ∉ e.events) ∧
          ∀ made ∈ e.calls, ∃ refusal, made = .beginLookup config.host (.error refusal)) ∧
    (idle config : Connection P).history s ((idle config : Connection P).spared s id turns) =
      calls.filter fun e => !e.idles := by
  intro calls
  refine ⟨?_, history_spared (sound_idle config) s id turns⟩
  intro e member request asked
  obtain ⟨past, later, split⟩ := List.append_of_mem member
  obtain ⟨before, step⟩ := history_at split
  have host : e.before.host = config.host := congrArg Config.host before.config
  rw [asked] at step
  refine ⟨fun error ruled => step.of_objection ruled, ?_, ?_⟩
  · rintro ticket refusal rfl refused
    rw [← host] at refused
    exact step.of_refused_lookup refused
  · intro error failed
    rw [failed] at step
    obtain ⟨left, fired, kept, made⟩ := step.of_error
    rw [host] at made
    exact ⟨left, fired, kept, made⟩

end Connection
end PolledTls
