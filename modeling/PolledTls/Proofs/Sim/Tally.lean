import PolledTls.Proofs.Holdings
import PolledTls.Sim.Network

/-!
The counts of a simulated network, event by event. They differ by what the ledger holds.
-/
namespace PolledTls.Sim

namespace Tally

def made (t : Tally) : Resource → Nat
  | .lookup => t.lookupsStarted
  | .socket => t.socketsOpened
  | .context => t.contextsCreated
  | .session => t.sessionsCreated

def freed (t : Tally) : Resource → Nat
  | .lookup => t.lookupsReleased
  | .socket => t.socketsClosed
  | .context => t.contextsFreed
  | .session => t.sessionsFreed

def afterCall (t : Tally) : Call → Tally
  | .beginLookup _ (.ok ()) => { t with lookupsStarted := t.lookupsStarted + 1 }
  | .beginConnect _ (.ok ()) => { t with socketsOpened := t.socketsOpened + 1 }
  | .newContext (.ok ()) => { t with contextsCreated := t.contextsCreated + 1 }
  | .newSession _ (.ok ()) => { t with sessionsCreated := t.sessionsCreated + 1 }
  | .shutdown => { t with shutdowns := t.shutdowns + 1 }
  | _ => t

def afterRelease (t : Tally) : Resource → Tally
  | .lookup => { t with lookupsReleased := t.lookupsReleased + 1 }
  | .socket => { t with socketsClosed := t.socketsClosed + 1 }
  | .context => { t with contextsFreed := t.contextsFreed + 1 }
  | .session => { t with sessionsFreed := t.sessionsFreed + 1 }

def after (t : Tally) : Event → Tally
  | .call call => t.afterCall call
  | .release resource => t.afterRelease resource
  | _ => t

theorem made_afterCall (t : Tally) (call : Call) (r : Resource) :
    (t.afterCall call).made r = t.made r + if call.makes = some r then 1 else 0 := by
  unfold afterCall Call.makes
  split <;> cases r <;> simp_all [made]

theorem freed_afterCall (t : Tally) (call : Call) (r : Resource) :
    (t.afterCall call).freed r = t.freed r := by
  unfold afterCall
  split <;> cases r <;> rfl

theorem made_after (t : Tally) (event : Event) (r : Resource) :
    (t.after event).made r = t.made r + if event.makes = some r then 1 else 0 := by
  cases event with
  | call call => exact t.made_afterCall call r
  | release resource => cases resource <;> cases r <;> rfl
  | _ => rfl

theorem freed_after (t : Tally) (event : Event) (r : Resource) :
    (t.after event).freed r = t.freed r + if event.frees = some r then 1 else 0 := by
  cases event with
  | call call => exact t.freed_afterCall call r
  | release resource => cases resource <;> cases r <;> rfl
  | _ => rfl

theorem shutdowns_after (t : Tally) (event : Event) :
    (t.after event).shutdowns = t.shutdowns + Event.shutdowns [event] := by
  cases event with
  | call call =>
      change (t.afterCall call).shutdowns = _
      unfold afterCall
      split <;> simp_all [Event.shutdowns]
  | release resource => cases resource <;> rfl
  | _ => rfl

def afterAll (t : Tally) (events : List Event) : Tally :=
  events.foldl after t

theorem shutdowns_afterAll (t : Tally) (events : List Event) :
    (t.afterAll events).shutdowns = t.shutdowns + Event.shutdowns events := by
  induction events generalizing t with
  | nil => rfl
  | cons event rest ih =>
      have first : Event.shutdowns (event :: rest) =
          Event.shutdowns [event] + Event.shutdowns rest := Event.shutdowns_append [event] rest
      rw [first, ← Nat.add_assoc, ← shutdowns_after]
      exact ih (t.after event)

/-- The counts differ by what is held. -/
def Balanced (t : Tally) (held : Holdings) : Prop :=
  ∀ r, t.made r = t.freed r + (held.holds r).toNat

theorem balanced_empty : Balanced {} {} := by
  intro r
  cases r <;> rfl

variable {t : Tally} {held next : Holdings}

theorem Balanced.freed_le (h : t.Balanced held) (r : Resource) : t.freed r ≤ t.made r := by
  rw [h r]
  exact Nat.le_add_right _ _

theorem allReleased_iff (t : Tally) : t.allReleased = true ↔ ∀ r, t.made r = t.freed r := by
  simp only [allReleased, Bool.and_eq_true, beq_iff_eq]
  constructor
  · rintro ⟨⟨⟨lookups, sockets⟩, contexts⟩, sessions⟩ r
    cases r
    · exact lookups
    · exact sockets
    · exact contexts
    · exact sessions
  · intro all
    exact ⟨⟨⟨all .lookup, all .socket⟩, all .context⟩, all .session⟩

theorem Balanced.allReleased_iff (h : t.Balanced held) : t.allReleased = true ↔ held = {} := by
  rw [Tally.allReleased_iff]
  constructor
  · intro all
    apply Holdings.ext_holds
    intro r
    have balance := h r
    rw [all r] at balance
    have none : (held.holds r).toNat = 0 := by omega
    rw [Bool.toNat_eq_zero.mp none]
    cases r <;> rfl
  · rintro rfl r
    rw [h r]
    cases r <;> rfl

theorem Balanced.after {event : Event} (h : t.Balanced held)
    (goes : held.after event = some next) : (t.after event).Balanced next := by
  intro r
  rw [made_after, freed_after, h r]
  unfold Holdings.after at goes
  split at goes
  case h_1 other made makes =>
    -- The ledger went on, so none of the kind was held.
    by_cases owned : held.holds made = true
    · simp [owned] at goes
    · simp only [owned, Bool.false_eq_true, if_false, Option.some.injEq] at goes
      rw [← goes, Holdings.holds_set, makes, Event.frees_of_makes makes]
      by_cases same : made = r
      · simp_all
      · simp [same]
  case h_2 freed makes frees =>
    by_cases owned : held.holds freed = true
    · simp only [owned, if_true, Option.some.injEq] at goes
      rw [← goes, Holdings.holds_set, makes, frees]
      by_cases same : freed = r
      · simp_all
      · simp [same]
    · simp [owned] at goes
  case h_3 makes frees =>
    cases goes
    rw [makes, frees]
    rfl

theorem Balanced.afterAll {events : List Event} (h : t.Balanced held)
    (goes : held.afterAll events = some next) : (t.afterAll events).Balanced next := by
  induction events generalizing t held with
  | nil =>
      cases goes
      exact h
  | cons event rest ih =>
      obtain ⟨middle, first, later⟩ := Option.bind_eq_some_iff.mp goes
      exact ih (h.after first) later

end Tally

end PolledTls.Sim
