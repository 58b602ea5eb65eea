import PolledTls.Proofs.Alike
import PolledTls.Scripted

/-!
A closed connection is as good as new. A close resets all of it but what is left in the read buffer,
and that is never seen as long as a read stores what it reports.
-/
namespace PolledTls.Connection

variable {P : Platform} {c : Connection P} {fine : Event → Bool}

/-- An idle connection is a new one but for its buffer, wherever the clock began. -/
theorem Sound.alike_idle (sound : c.Sound) (idle : c.status = .notOpen) (shift : Duration)
    (fills : ∀ event, fine event = true → event.fills = true) :
    c.Alike fine shift (Connection.idle c.config) := by
  have phase : c.phase = .notOpen := by
    cases phase : c.phase with
    | notOpen => rfl
    | _ =>
        rw [status, phase] at idle
        cases idle
  have disarmed : c.openDeadline = none := by
    have armed := sound.armed
    rw [idle] at armed
    exact Option.isSome_eq_false_iff.mp armed |> Option.isNone_iff_eq_none.mp
  have empty : c.outbox = .empty := congrArg Outbox.mk (sound.empty (by simp [idle]) (by simp [idle]))
  have new : Connection.idle c.config = c.later shift (.zeroed c.config.readChunkSize) := by
    rw [later, phase, sound.unowned idle, disarmed, empty]
    rfl
  rw [new]
  exact .mk ⟨sound.room.symm, .inr fills⟩

/-- After a close nothing is seen of what was before it: whatever happens from then on, a connection
newly created with the same configuration and from the same state of the platform shows the same, as
long as the reads store what they report. -/
theorem closed_as_new (config : Config) (s : P.State) (turns : List (Turn P))
    (past later : List (Entry P)) (e : Entry P) (ticket : Ticket)
    (split : (idle config : Connection P).history s turns = past ++ e :: later)
    (closed : e.request = some (.close ticket)) (state : P.State) (future : List (Turn P))
    (filled : (Entry.eventsOf (e.after.history state future)).all Event.fills = true)
    (new : Connection P) (created : (create config state).value = .ok new) :
    (create config state).events = [.log (.created config.host config.port)] ∧
      (new.history (create config state).state future).map Entry.account =
        (e.after.history state future).map Entry.account := by
  obtain ⟨before, step⟩ := history_at split
  have same : e.after.config = config := step.config.trans before.config
  have sound := step.sound (before.sound (sound_idle config))
  rw [closed] at step
  have alike := sound.alike_idle step.closed 0 fun event filled => filled
  rw [same] at alike
  have made := create_eq created
  obtain rfl : idle config = new := by
    rw [made] at created
    exact Except.ok.inj created
  rw [made]
  refine ⟨rfl, ?_⟩
  have shown := alike.history state future filled
  have unmoved : future.map (·.later 0) = future := List.map_id _
  rw [unmoved] at shown
  exact shown

/-- A connection that has read `[1, 2, 3]` and was closed reads `[9]` as a new one does: nothing shows
of the bytes that are left behind the nine. -/
theorem closed_as_new_leftover :
    let new : Connection Script.platform := idle { host := "h", port := 1, readChunkSize := 4 }
    let polls := List.replicate 4 ⟨id, 0, .poll⟩
    let calls := new.history { read := [.bytes [1, 2, 3]] }
      (⟨id, 0, .start 1⟩ :: polls ++ [⟨id, 0, .close 2⟩])
    let future := ⟨id, 7, .start 3⟩ :: polls
    let s : Script := { read := [.bytes [9]] }
    ∃ e ∈ calls, e.after.buffer ≠ new.buffer ∧
      Event.callbacks (Entry.eventsOf (e.after.history s future)) =
        [.opened 3 .ok, .received 3 [9]] ∧
      (new.history s future).map Entry.account = (e.after.history s future).map Entry.account := by
  intro new polls calls future s
  have split : calls = calls.take 5 ++ calls[5] :: calls.drop 6 := rfl
  have closed : calls[5].request = some (.close 2) := rfl
  have filled : (Entry.eventsOf (calls[5].after.history s future)).all Event.fills = true := by
    decide +kernel
  have short : "h".utf8ByteSize ≤ Config.longestHost := by decide +kernel
  have checked : new.config.check = .ok () := by simp [new, idle, Config.check, short]
  have created : create new.config s = ⟨.ok new, s, [.log (.created "h" 1)]⟩ :=
    create_ok checked rfl
  obtain ⟨-, same⟩ := closed_as_new new.config _ _ _ _ _ _ split closed s future filled new
    (congrArg Traced.value created)
  rw [created] at same
  exact ⟨calls[5], List.getElem_mem _, by decide +kernel, by decide +kernel, same⟩

end PolledTls.Connection
