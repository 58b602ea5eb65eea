import PolledTls.Proofs.Conduct
import PolledTls.Scripted

/-!
Every attempt keeps to the protocol of its calls. It keeps to it in each call of the connection, so
it does over all of them, and what it does between them is nothing.
-/
namespace PolledTls

variable {P : Platform}

theorem Event.mem_calls_shutdown {events : List Event} :
    .shutdown ∈ calls events ↔ shutdowns events ≠ 0 := by
  rw [mem_calls, ← Nat.pos_iff_ne_zero, shutdowns, List.countP_pos_iff]
  constructor
  · exact fun member => ⟨_, member, rfl⟩
  · rintro ⟨event, member, told⟩
    cases event with
    | call made =>
        cases made with
        | shutdown => exact member
        | _ => cases told
    | _ => cases told

namespace Connection

variable {c left last : Connection P} {now : Instant} {es : List Event} {request : Option Request}
  {result : Except Error Unit} {calls attempt : List (Entry P)} {conduct : Conduct}

/-- Calls are made by the open that begins an attempt, by polls and by the end. Beside them an open
asks for a lookup that is refused. -/
theorem Step.calls_made (h : c.Step now request result es left) (sound : c.Sound)
    (made : Event.calls es ≠ []) :
    Entry.begins ⟨c, now, request, result, es, left⟩ = true ∨
      (∃ ticket, c.listener.map (·.ticket) = some ticket) ∧
        (request = some .poll ∨ Entry.ends ⟨c, now, request, result, es, left⟩ = true) ∨
      c.status = .notOpen ∧ ∃ ticket e, request = some (.start ticket) ∧
        result = .error (Error.asDns e) ∧
        Event.calls es = [.beginLookup c.config.host (.error e)] := by
  cases h with
  | starts idle lookup => exact .inl rfl
  | @lookupRefused ticket idle e => exact .inr (.inr ⟨idle, ticket, e, rfl, rfl, rfl⟩)
  | opens listener opened => exact .inr (.inl ⟨⟨_, by rw [listener]; rfl⟩, .inl rfl⟩)
  | transfers listener phase transferred =>
      exact .inr (.inl ⟨⟨_, by rw [listener]; rfl⟩, .inl rfl⟩)
  | closes live | abandons live =>
      obtain ⟨ticket, listener⟩ := sound.listener live
      exact .inr (.inl ⟨⟨ticket, by rw [listener]; rfl⟩, .inr rfl⟩)
  | _ => exact absurd rfl made

/-- The peer is told by the end of an attempt, where there is a session. -/
theorem Step.shutdown_iff (h : c.Step now request result es left) :
    .shutdown ∈ Event.calls es ↔
      Entry.ends ⟨c, now, request, result, es, left⟩ = true ∧ c.status.hasSession = true := by
  have leaves : Entry.leavesSession ⟨c, now, request, result, es, left⟩ = true ↔
      Entry.ends ⟨c, now, request, result, es, left⟩ = true ∧ c.status.hasSession = true := by
    cases h with
    | closeIgnored idle => simp [Entry.leavesSession, Entry.ends, idle, Status.hasSession]
    | _ => simp [Entry.leavesSession, Entry.ends]
  rw [Event.mem_calls_shutdown, h.shutdowns, ← leaves, ne_eq, Bool.toNat_eq_zero,
    Bool.not_eq_false]

namespace Linked

theorem through (h : Linked c calls last) (standing : Standing c.status conduct)
    (goesOn : ∀ e ∈ calls, e.ends = false) :
    ∃ next, conduct.through c.config calls = some next ∧ Standing last.status next := by
  induction h generalizing conduct with
  | nil c => exact ⟨conduct, rfl, standing⟩
  | cons step later ih =>
      obtain ⟨middle, round, standing⟩ := step.round standing (goesOn _ List.mem_cons_self)
      obtain ⟨next, through, standing⟩ := ih standing fun e member =>
        goesOn e (List.mem_cons_of_mem _ member)
      refine ⟨next, ?_, standing⟩
      rw [step.config] at through
      rw [Conduct.through, List.foldlM_cons, round]
      exact through

/-- Where the calls of an attempt stand before each call of the connection but the first. -/
theorem attempt_standing {before after : List (Entry P)} {e : Entry P}
    (h : Linked c (before ++ e :: after) last) (whole : Entry.Attempt (before ++ e :: after)) :
    before = [] ∧ e.begins = true ∨
      ∃ conduct, Conduct.fresh.through c.config before = some conduct ∧
        Standing e.before.status conduct := by
  cases before with
  | nil =>
      refine .inl ⟨rfl, ?_⟩
      generalize cut : [] ++ e :: after = calls at whole
      obtain ⟨begins, goesOn, ends⟩ := whole
      rw [(List.cons.inj cut).1]
      exact begins
  | cons first work =>
      obtain ⟨begins, goesOn⟩ := whole.before
      obtain ⟨before, -, -⟩ := h.at_
      cases before with
      | cons begin later =>
          obtain ⟨middle, round, standing⟩ := begin.round_begun begins
          obtain ⟨next, through, standing⟩ := later.through standing goesOn
          refine .inr ⟨next, ?_, standing⟩
          rw [begin.config] at through
          rw [Conduct.through, List.foldlM_cons, round]
          exact through

/-- An attempt keeps to the protocol, and nothing is in hand after it. -/
theorem attempt_through (h : Linked c attempt last) (sound : c.Sound)
    (whole : Entry.Attempt attempt) :
    ∃ stage, Conduct.fresh.through c.config attempt = some ⟨stage, {}⟩ := by
  obtain ⟨before, final, rfl, ends⟩ := whole.last
  obtain ⟨sofar, step, -⟩ := h.at_
  rcases h.attempt_standing whole with ⟨-, begins⟩ | ⟨conduct, through, standing⟩
  · rw [Entry.ends_of_begins begins] at ends
    cases ends
  · obtain ⟨stage, round⟩ := step.round_ended (sofar.sound sound) standing ends
    refine ⟨stage, ?_⟩
    rw [sofar.config] at round
    rw [Conduct.through_append, through, Option.bind_some, Conduct.through, List.foldlM_cons,
      round]
    rfl

variable {before after : List (Entry P)} {e : Entry P}

/-- Where in an attempt its calls are made. -/
theorem attempt_made (h : Linked c (before ++ e :: after) last) (sound : c.Sound)
    (whole : Entry.Attempt (before ++ e :: after)) (made : e.calls ≠ []) :
    e.begins = true ∨ e.request = some .poll ∨ e.ends = true := by
  obtain ⟨sofar, step, -⟩ := h.at_
  rcases step.calls_made (sofar.sound sound) made with begins | ⟨-, done⟩ | ⟨idle, -⟩
  · exact .inl begins
  · exact .inr done
  · rcases h.attempt_standing whole with ⟨-, begins⟩ | ⟨conduct, -, standing⟩
    · exact .inl begins
    · exact absurd idle standing.live

/-- The peer is told exactly in an end that finds a session in hand. -/
theorem attempt_shutdown (h : Linked c (before ++ e :: after) last)
    (whole : Entry.Attempt (before ++ e :: after)) :
    .shutdown ∈ e.calls ↔ e.ends = true ∧
      ∃ conduct, Conduct.fresh.through c.config before = some conduct ∧
        conduct.hands.session = true := by
  obtain ⟨-, step, -⟩ := h.at_
  have told : .shutdown ∈ e.calls ↔ _ := step.shutdown_iff
  rw [told, and_congr_right_iff]
  intro ends
  rcases h.attempt_standing whole with ⟨-, begins⟩ | ⟨conduct, through, standing⟩
  · rw [Entry.ends_of_begins begins] at ends
    cases ends
  · rw [through, ← standing.hasSession]
    simp

end Linked

/-- The calls of every attempt of a history keep to the protocol, from nothing asked to nothing in
hand: they come in its order, with the host and the port of the configuration and the address that
was found, only on what is in hand, and what has been resolved or connected is followed up in the
same poll. They are made in the open that begins the attempt, in polls and in its end, and the peer
is told exactly in an end that finds a session in hand. Outside of the attempts no call is made but
for a lookup that is refused. -/
theorem attempts_keep_protocol (config : Config) (s : P.State) (turns : List (Turn P)) :
    let calls := (idle config : Connection P).history s turns
    (∀ past attempt later, calls = past ++ attempt ++ later → Entry.Attempt attempt →
      (∃ stage, Conduct.fresh.through config attempt = some ⟨stage, {}⟩) ∧
      ∀ before e after, attempt = before ++ e :: after →
        (e.calls ≠ [] → e.begins = true ∨ e.request = some .poll ∨ e.ends = true) ∧
        (.shutdown ∈ e.calls ↔ e.ends = true ∧
          ∃ conduct, Conduct.fresh.through config before = some conduct ∧
            conduct.hands.session = true)) ∧
    ∀ past e later, calls = past ++ e :: later → e.calls ≠ [] →
      (∃ earlier before after rest, past = earlier ++ before ∧ later = after ++ rest ∧
        Entry.Attempt (before ++ e :: after)) ∨
      ∃ ticket refusal, e.request = some (.start ticket) ∧ e.result = .error (Error.asDns refusal) ∧
        e.calls = [.beginLookup config.host (.error refusal)] := by
  intro calls
  have fresh : (idle config : Connection P).Sound := sound_idle config
  obtain ⟨last, linked, -⟩ := history_linked fresh s turns
  constructor
  · intro past attempt later split whole
    have parted : Linked (idle config : Connection P) (past ++ attempt ++ later) last :=
      split ▸ linked
    obtain ⟨stop, parted, -⟩ := parted.split
    obtain ⟨start, earlier, within⟩ := parted.split
    have sound := earlier.sound fresh
    have same : start.config = config := earlier.config
    rw [← same]
    refine ⟨within.attempt_through sound whole, ?_⟩
    rintro before e after rfl
    exact ⟨within.attempt_made sound whole, within.attempt_shutdown whole⟩
  · intro past e later split made
    have parted : Linked (idle config : Connection P) (past ++ e :: later) last := split ▸ linked
    obtain ⟨before, step, -⟩ := parted.at_
    have same : e.before.config = config := before.config
    rcases step.calls_made (before.sound fresh) made with begins | ⟨⟨ticket, owned⟩, -⟩ | refused
    · obtain ⟨after, rest, behind, attempt⟩ := attempt_of_begins split begins
      exact .inl ⟨past, [], after, rest, (List.append_nil _).symm, behind, attempt⟩
    · exact .inl (attempt_of_owned rfl split parted fresh owned)
    · obtain ⟨-, ticket, refusal, request, result, calls⟩ := refused
      rw [same] at calls
      exact .inr ⟨ticket, refusal, request, result, calls⟩

/-- An attempt that waits once at each step of the opening, reads and writes when it is open, and is
closed: the peer is told in the close and not before. -/
theorem attempts_keep_protocol_patient :
    let config : Config := { host := "h", port := 1 }
    let s : Script :=
      { isComplete := [false], pollConnect := [.ok false],
        handshake := [.error IoKind.wouldBlock.error], read := [.bytes [8, 9]] }
    let turns : List (Turn Script.platform) :=
      [⟨id, 0, .start 1⟩, ⟨id, 0, .poll⟩, ⟨id, 0, .poll⟩, ⟨id, 0, .poll⟩, ⟨id, 0, .poll⟩,
        ⟨id, 0, .poll⟩, ⟨id, 0, .poll⟩, ⟨id, 0, .send [5] 2⟩, ⟨id, 0, .poll⟩, ⟨id, 0, .close 3⟩]
    let calls := (idle config : Connection Script.platform).history s turns
    let attempt := calls.take 10
    calls = [] ++ attempt ++ calls.drop 10 ∧ Entry.Attempt attempt ∧
      Event.callbacks (Entry.eventsOf attempt) =
        [.opened 1 .ok, .received 1 [8, 9], .sent 2 .ok, .closed 3] ∧
      Conduct.fresh.through config attempt = some ⟨.over, {}⟩ ∧
      ∃ before poll close, attempt = before ++ [poll, close] ∧ .shutdown ∉ poll.calls ∧
        .shutdown ∈ close.calls := by
  intro config s turns calls attempt
  obtain ⟨kept, -⟩ := attempts_keep_protocol (P := Script.platform) config s turns
  have split : calls = [] ++ attempt ++ calls.drop 10 := rfl
  have whole : Entry.Attempt attempt := by decide +kernel
  obtain ⟨⟨stage, through⟩, made⟩ := kept _ _ _ split whole
  have polled : attempt = calls.take 8 ++ calls[8] :: [calls[9]] := rfl
  have closed : attempt = calls.take 9 ++ calls[9] :: [] := rfl
  have working : calls[8].ends ≠ true := by decide +kernel
  have streaming : Conduct.fresh.through config (calls.take 9) =
      some ⟨.streaming, ⟨false, false, true, true⟩⟩ := by decide +kernel
  have last : (Conduct.fresh.through config attempt).map (·.stage) = some .over := by
    decide +kernel
  rw [through] at last
  obtain rfl := Option.some.inj last
  refine ⟨split, whole, by decide +kernel, through, _, _, _, polled, ?_, ?_⟩
  · rw [(made _ _ _ polled).2]
    exact fun told => working told.1
  · exact (made _ _ _ closed).2.mpr ⟨by decide +kernel, _, streaming, rfl⟩

end Connection
end PolledTls
