import PolledTls.Proofs.Heard
import PolledTls.Scripted

/-!
Which callbacks belong to an attempt. Where every callback is handed in under a ticket of its own,
those that belong to an attempt are what is heard of it, and none of them fires before it or after
it.
-/
namespace PolledTls

variable {P : Platform} {owner : Ticket} {closing word : List Callback}

/-- Whether a callback is one of those handed in with the open under the ticket. -/
def Callback.reports (owner : Ticket) : Callback → Bool
  | .opened ticket _ | .received ticket _ | .failed ticket _ => ticket = owner
  | .sent .. | .closed _ => false

/-- Whether a callback is heard of an attempt before its end: it is the owner's, or it completes a
send. -/
def Callback.heardUnder (owner : Ticket) (fired : Callback) : Bool :=
  fired.reports owner || fired.sent?.isSome

theorem Traffic.members (traffic : Traffic owner word) :
    word.all (Callback.heardUnder owner) = true := by
  induction traffic with
  | silence => rfl
  | received bytes rest ih | sent ticket rest ih | late ticket elapsed unsent rest ih =>
      simp [Callback.heardUnder, Callback.reports, Callback.sent?, ih]

theorem Breakdown.members (breakdown : Breakdown owner word) :
    word.all (Callback.heardUnder owner) = true := by
  cases breakdown <;> simp [Callback.heardUnder, Callback.reports, Callback.sent?]

theorem Word.members (whole : Word owner closing word) {fired : Callback} (member : fired ∈ word) :
    fired.heardUnder owner = true ∨ fired ∈ closing := by
  have opening (result : Completion) : (Callback.opened owner result).heardUnder owner = true := by
    simp [Callback.heardUnder, Callback.reports]
  have drained (waiting : List Ticket) :
      (waiting.map (Callback.sent · .cancelled)).all (Callback.heardUnder owner) = true := by
    simp [Callback.heardUnder, Callback.sent?]
  suffices ∃ body, word = body ++ closing ∧ body.all (Callback.heardUnder owner) = true by
    obtain ⟨body, rfl, all⟩ := this
    rcases List.mem_append.mp member with inside | last
    · exact .inl (List.all_eq_true.mp all fired inside)
    · exact .inr last
  cases whole with
  | failed | cancelled => exact ⟨[_], rfl, by rw [List.all_cons, opening]; rfl⟩
  | opened traffic waiting =>
      refine ⟨_, rfl, ?_⟩
      rw [List.all_append, List.all_cons, opening, traffic.members, drained]
      rfl
  | broken traffic breakdown waiting =>
      refine ⟨_, rfl, ?_⟩
      rw [List.all_append, List.all_append, List.all_cons, opening, traffic.members,
        breakdown.members, drained]
      rfl

namespace Entry

variable {e first final : Entry P} {work attempt : List (Entry P)} {fired : Callback}

/-- Whether a callback belongs to the attempt: it is its opener's, it completes one of its sends, or
it is that of the close that ends it. -/
def belongs (attempt : List (Entry P)) : Callback → Bool
  | .opened ticket _ | .received ticket _ | .failed ticket _ => opener attempt = some ticket
  | .sent ticket _ => ticket ∈ acceptedBy attempt
  | .closed ticket => .closed ticket ∈ closingOf attempt

theorem asked_of_refusal (refused : fired ∈ e.refusal) : fired.ticket ∈ e.asked := by
  unfold refusal at refused
  split at refused
  case h_1 ticket error request result =>
    rw [List.mem_singleton.mp refused, asked, request]
    exact List.mem_singleton.mpr rfl
  case h_2 ticket error request result =>
    rw [List.mem_singleton.mp refused, asked, request]
    exact List.mem_singleton.mpr rfl
  case h_3 => cases refused

/-- A refusal settles an open or a close. -/
theorem sent_refusal (e : Entry P) : e.refusal.filterMap Callback.sent? = [] := by
  unfold refusal
  split <;> rfl

theorem refusal_of_begins (begins : first.begins = true) : first.refusal = [] := by
  unfold Entry.begins at begins
  unfold refusal
  split at begins <;> simp_all

theorem refusal_of_ends (ends : final.ends = true) : final.refusal = [] := by
  unfold Entry.ends at ends
  unfold refusal
  split at ends <;> simp_all

theorem mem_closing (closes : fired ∈ e.closing) :
    ∃ ticket, fired = .closed ticket ∧ ticket ∈ e.asked := by
  unfold closing at closes
  split at closes
  case h_1 ticket request =>
    refine ⟨ticket, List.mem_singleton.mp closes, ?_⟩
    rw [asked, request]
    exact List.mem_singleton.mpr rfl
  case h_2 => cases closes

theorem asked_of_opener {rest : List (Entry P)} {ticket : Ticket}
    (opens : opener (first :: rest) = some ticket) : ticket ∈ first.asked := by
  rw [opener, List.head?_cons, Option.bind_some] at opens
  split at opens
  case h_1 t request =>
    rw [asked, request, ← Option.some.inj opens]
    exact List.mem_singleton.mpr rfl
  case h_2 => cases opens

theorem askedBy_attempt (first final : Entry P) (work : List (Entry P)) :
    askedBy (first :: (work ++ [final])) = first.asked ++ (askedBy work ++ final.asked) := by
  rw [askedBy, List.flatMap_cons, List.flatMap_append, List.flatMap_singleton]
  rfl

theorem closingOf_attempt (first final : Entry P) (work : List (Entry P)) :
    closingOf (first :: (work ++ [final])) = final.closing := by
  rw [← List.cons_append, closingOf_concat]

/-- What belongs to an attempt was handed in with the call that begins it, with the one that ends
it, or with a send that was accepted during it. -/
theorem handed_in (belongs : belongs (first :: (work ++ [final])) fired = true) :
    fired.ticket ∈ first.asked ∨ fired.ticket ∈ final.asked ∨
      fired.sent? = some fired.ticket ∧
        fired.ticket ∈ acceptedBy (first :: (work ++ [final])) := by
  cases fired with
  | opened ticket result | received ticket bytes | failed ticket error =>
      exact .inl (asked_of_opener (of_decide_eq_true belongs))
  | sent ticket result => exact .inr (.inr ⟨rfl, of_decide_eq_true belongs⟩)
  | closed ticket =>
      have closes : .closed ticket ∈ final.closing := by
        rw [← closingOf_attempt first final work]
        exact of_decide_eq_true belongs
      obtain ⟨t, same, asked⟩ := mem_closing closes
      cases same
      exact .inr (.inl asked)

theorem asked_of_belongs (whole : Attempt attempt) (belongs : belongs attempt fired = true) :
    fired.ticket ∈ askedBy attempt := by
  obtain ⟨begins, goesOn, ends⟩ := whole
  rcases handed_in belongs with opens | closes | ⟨-, accepted⟩
  · rw [askedBy_attempt]
    exact List.mem_append_left _ opens
  · rw [askedBy_attempt]
    exact List.mem_append_right _ (List.mem_append_right _ closes)
  · exact acceptedBy_subset _ accepted

/-- An open or a close that is refused during an attempt has its callback fired, but the callback
does not belong to the attempt. -/
theorem not_belongs_of_refusal (whole : Attempt attempt) (distinct : (askedBy attempt).Nodup)
    (member : e ∈ attempt) (refused : fired ∈ e.refusal) : belongs attempt fired = false := by
  rw [Bool.eq_false_iff]
  intro belongs
  obtain ⟨begins, goesOn, ends⟩ := whole
  rename_i first final work
  have among : e ∈ work := by
    rcases List.mem_cons.mp member with rfl | later
    · rw [refusal_of_begins begins] at refused
      cases refused
    · rcases List.mem_append.mp later with inside | last
      · exact inside
      · rw [List.mem_singleton.mp last, refusal_of_ends ends] at refused
        cases refused
  have asked : fired.ticket ∈ askedBy work :=
    List.mem_flatMap.mpr ⟨e, among, asked_of_refusal refused⟩
  rw [askedBy_attempt] at distinct
  obtain ⟨-, rest, unlike⟩ := List.nodup_append.mp distinct
  obtain ⟨-, -, apart⟩ := List.nodup_append.mp rest
  rcases handed_in belongs with opens | closes | ⟨sends, -⟩
  · exact unlike _ opens _ (List.mem_append_left _ asked) rfl
  · exact apart _ asked _ closes rfl
  · have unsent := List.filterMap_eq_nil_iff.mp (sent_refusal e) fired refused
    rw [unsent] at sends
    cases sends

theorem heardBy_mono {seen : List Event} (part : seen <+: e.events) :
    e.heardBy seen <+: e.heard := by
  unfold heard heardBy
  split
  · exact List.prefix_refl _
  · exact List.prefix_refl _
  · exact part.filterMap _

/-- What has been heard at any moment is the beginning of what is heard in all. -/
theorem heardIn_upTo {before after : List (Entry P)} {seen : List Event}
    (part : seen <+: e.events) :
    heardIn before ++ e.heardBy seen <+: heardIn (before ++ e :: after) := by
  rw [heardIn_append, List.prefix_append_right_inj, heardIn, List.flatMap_cons]
  exact (heardBy_mono part).trans (List.prefix_append _ _)

end Entry

namespace Connection

variable {c left last : Connection P} {now : Instant} {es : List Event} {request : Option Request}
  {result : Except Error Unit} {calls attempt : List (Entry P)}

/-- What fires in a call either concerns the call alone or is heard of the attempt. -/
theorem Step.callbacks (h : c.Step now request result es left) :
    Event.callbacks es = Entry.refusal ⟨c, now, request, result, es, left⟩ ++
      Entry.heard ⟨c, now, request, result, es, left⟩ := by
  cases h with
  | _ => rfl

/-- Outside of the attempts nothing is heard. -/
theorem Step.owned_of_heard (h : c.Step now request result es left) (sound : c.Sound)
    (heard : Entry.heard ⟨c, now, request, result, es, left⟩ ≠ []) :
    ∃ ticket, c.owner = some ticket := by
  cases h with
  | opens listener opened => exact ⟨_, by rw [owner, listener]; rfl⟩
  | transfers listener phase transferred => exact ⟨_, by rw [owner, listener]; rfl⟩
  | closes live | abandons live =>
      obtain ⟨ticket, listener⟩ := sound.listener live
      exact ⟨ticket, by rw [owner, listener]; rfl⟩
  | _ => exact absurd rfl heard

namespace Linked

theorem callbacks (h : Linked c calls last) : Event.callbacks (Entry.eventsOf calls) =
    calls.flatMap fun e => e.refusal ++ e.heard := by
  induction h with
  | nil c => rfl
  | cons step later ih =>
      rw [Entry.eventsOf, List.flatMap_cons, Event.callbacks_append, step.callbacks,
        List.flatMap_cons, ← ih]
      rfl

/-- The sends heard of are those that complete. -/
theorem heard_sends (h : Linked c calls last) :
    (Entry.heardIn calls).filterMap Callback.sent? = Entry.completedBy calls := by
  have each (e : Entry P) : (e.refusal ++ e.heard).filterMap Callback.sent? =
      e.heard.filterMap Callback.sent? := by
    rw [List.filterMap_append, Entry.sent_refusal, List.nil_append]
  rw [Entry.completedBy, Event.sends, h.callbacks, Entry.heardIn, List.filterMap_flatMap,
    List.filterMap_flatMap]
  simp only [each]

theorem attempt_sends (h : Linked c attempt last) (sound : c.Sound)
    (whole : Entry.Attempt attempt) :
    (Entry.heardIn attempt).filterMap Callback.sent? = Entry.acceptedBy attempt := by
  obtain ⟨empty, emptied⟩ := h.idle_of_attempt sound whole
  rw [h.heard_sends, h.all_completed empty emptied]

theorem belongs_of_heard (h : Linked c attempt last) (sound : c.Sound)
    (whole : Entry.Attempt attempt) {fired : Callback} (heard : fired ∈ Entry.heardIn attempt) :
    Entry.belongs attempt fired = true := by
  obtain ⟨owner, opens, word⟩ := h.attempt_word sound whole
  cases fired with
  | sent ticket result =>
      apply decide_eq_true
      rw [← h.attempt_sends sound whole]
      exact List.mem_filterMap.mpr ⟨_, heard, rfl⟩
  | closed ticket =>
      rcases word.members heard with under | closes
      · cases under
      · exact decide_eq_true closes
  | opened ticket result | received ticket bytes | failed ticket error =>
      rcases word.members heard with under | closes
      · have own : ticket = owner := by
          simpa [Callback.heardUnder, Callback.reports, Callback.sent?] using under
        rw [Entry.belongs, opens, own]
        exact decide_eq_true rfl
      · obtain ⟨begins, goesOn, ends⟩ := whole
        rw [Entry.closingOf_attempt] at closes
        obtain ⟨t, same, -⟩ := Entry.mem_closing closes
        cases same

/-- Of what fires during an attempt, what belongs to it is what is heard of it. -/
theorem filter_attempt (h : Linked c attempt last) (sound : c.Sound)
    (whole : Entry.Attempt attempt) (distinct : (Entry.askedBy attempt).Nodup) :
    (Event.callbacks (Entry.eventsOf attempt)).filter (Entry.belongs attempt) =
      Entry.heardIn attempt := by
  rw [h.callbacks, List.filter_flatMap, Entry.heardIn, List.flatMap_def, List.flatMap_def]
  refine congrArg _ (List.map_congr_left fun e member => ?_)
  have refused : e.refusal.filter (Entry.belongs attempt) = [] := by
    rw [List.filter_eq_nil_iff]
    intro fired concerned
    rw [Entry.not_belongs_of_refusal whole distinct member concerned]
    exact Bool.false_ne_true
  have heard : e.heard.filter (Entry.belongs attempt) = e.heard := by
    rw [List.filter_eq_self]
    intro fired among
    exact h.belongs_of_heard sound whole (List.mem_flatMap.mpr ⟨e, member, among⟩)
  rw [List.filter_append, refused, heard]
  rfl

/-- Nothing that belongs to an attempt fires in calls made on an idle connection with other
tickets. -/
theorem filter_others (h : Linked c calls last) (sound : c.Sound) (idle : c.status = .notOpen)
    (whole : Entry.Attempt attempt)
    (apart : ∀ ticket ∈ Entry.askedBy calls, ticket ∉ Entry.askedBy attempt) :
    (Event.callbacks (Entry.eventsOf calls)).filter (Entry.belongs attempt) = [] := by
  rw [List.filter_eq_nil_iff]
  intro fired member belongs
  have asked := h.fired_tickets sound member
  rw [sound.tickets_of_idle idle, List.nil_append] at asked
  exact apart _ asked (Entry.asked_of_belongs whole belongs)

theorem status_of_attempt (h : Linked c attempt last) (whole : Entry.Attempt attempt) :
    last.status = .notOpen := by
  obtain ⟨begins, goesOn, ends⟩ := whole
  rw [← List.cons_append] at h
  obtain ⟨-, step, after⟩ := h.at_
  cases after with
  | nil =>
      rcases Entry.request_of_ends ends with ⟨ticket, close⟩ | drop
      · rw [close] at step
        exact step.closed
      · rw [drop] at step
        exact step.dropped

/-- Of all that fires, what belongs to an attempt is what is heard of it during it. -/
theorem filter_callbacks {past later : List (Entry P)}
    (h : Linked c (past ++ attempt ++ later) last) (sound : c.Sound) (idle : c.status = .notOpen)
    (whole : Entry.Attempt attempt)
    (distinct : (Entry.askedBy (past ++ attempt ++ later)).Nodup) :
    (Event.callbacks (Entry.eventsOf (past ++ attempt ++ later))).filter (Entry.belongs attempt) =
      Entry.heardIn attempt := by
  obtain ⟨stop, before, after⟩ := h.split
  obtain ⟨start, earlier, within⟩ := before.split
  have begun := earlier.sound sound
  rw [Entry.askedBy_append, Entry.askedBy_append] at distinct
  obtain ⟨upTo, -, beyond⟩ := List.nodup_append.mp distinct
  obtain ⟨-, during, unlike⟩ := List.nodup_append.mp upTo
  have none_before := earlier.filter_others sound idle whole fun ticket old new =>
    unlike ticket old ticket new rfl
  have none_after := after.filter_others (within.sound begun) (within.status_of_attempt whole)
    whole fun ticket new old => beyond ticket (List.mem_append_right _ old) ticket new rfl
  rw [Entry.eventsOf_append, Entry.eventsOf_append, Event.callbacks_append,
    Event.callbacks_append, List.filter_append, List.filter_append, none_before, none_after,
    within.filter_attempt begun whole during, List.nil_append, List.append_nil]

end Linked

/-- The tickets handed in during a history are those of the requests. -/
theorem history_asked (c : Connection P) (s : P.State) (turns : List (Turn P)) :
    Entry.askedBy (c.history s turns) = turns.filterMap (·.request.ticket?) := by
  induction turns generalizing c s with
  | nil => rfl
  | cons turn rest ih =>
      rw [history, Entry.askedBy, List.flatMap_cons, ← Entry.askedBy, ih, List.filterMap_cons,
        Entry.asked, Option.bind_some]
      cases turn.request.ticket? <;> rfl

/-- What is heard of every attempt of a history is a word: how it opened, the traffic and at most
one hard failure if it did open, the sends that are cancelled, and the close that ends it. The sends
in it are those accepted during the attempt, in order, and up to any moment the beginning of the
word has been heard. All that fires concerns a call alone or is heard of an attempt; and where every
callback is handed in under a ticket of its own, the word is all that ever fires of the callbacks
that belong to the attempt. -/
theorem attempts_heard_as_words (config : Config) (s : P.State) (turns : List (Turn P)) :
    let calls := (idle config : Connection P).history s turns
    (∀ past attempt later, calls = past ++ attempt ++ later → Entry.Attempt attempt →
      ∃ owner, Entry.opener attempt = some owner ∧
        Word owner (Entry.closingOf attempt) (Entry.heardIn attempt) ∧
        (Entry.heardIn attempt).filterMap Callback.sent? = Entry.acceptedBy attempt ∧
        (∀ before e after, attempt = before ++ e :: after → ∀ seen, seen <+: e.events →
          Entry.heardIn before ++ e.heardBy seen <+: Entry.heardIn attempt) ∧
        ((turns.filterMap (·.request.ticket?)).Nodup →
          (Event.callbacks (Entry.eventsOf calls)).filter (Entry.belongs attempt) =
            Entry.heardIn attempt)) ∧
    ∀ past e later, calls = past ++ e :: later →
      Event.callbacks e.events = e.refusal ++ e.heard ∧
      (Entry.attempt past ≠ none ∨ e.heard ≠ [] →
        ∃ earlier before after rest, past = earlier ++ before ∧ later = after ++ rest ∧
          Entry.Attempt (before ++ e :: after)) := by
  intro calls
  have fresh : (idle config : Connection P).Sound := sound_idle config
  obtain ⟨last, linked, -⟩ := history_linked fresh s turns
  constructor
  · intro past attempt later split whole
    have parted : Linked (idle config : Connection P) (past ++ attempt ++ later) last :=
      split ▸ linked
    obtain ⟨stop, before, -⟩ := parted.split
    obtain ⟨start, earlier, within⟩ := before.split
    have sound := earlier.sound fresh
    obtain ⟨owner, opens, word⟩ := within.attempt_word sound whole
    refine ⟨owner, opens, word, within.attempt_sends sound whole, ?_, ?_⟩
    · rintro before e after rfl seen part
      exact Entry.heardIn_upTo part
    · intro distinct
      rw [← history_asked (idle config) s turns] at distinct
      rw [split]
      exact parted.filter_callbacks fresh rfl whole (split ▸ distinct)
  · intro past e later split
    have parted : Linked (idle config : Connection P) (past ++ e :: later) last := split ▸ linked
    obtain ⟨before, step, -⟩ := parted.at_
    refine ⟨step.callbacks, ?_⟩
    intro concerned
    have owned : ∃ ticket, e.before.owner = some ticket := by
      rcases concerned with under | heard
      · obtain ⟨ticket, under⟩ := Option.ne_none_iff_exists'.mp under
        exact ⟨ticket, (before.attempt fresh).trans under⟩
      · exact step.owned_of_heard (before.sound fresh) heard
    obtain ⟨ticket, owned⟩ := owned
    exact attempt_of_owned rfl split parted fresh owned

/-- An open connection hands out two bytes and sends one, until a write breaks it with another send
waiting. A refused open in between is not heard of the attempt. -/
theorem attempts_heard_as_words_broken :
    let config : Config := { host := "h", port := 1 }
    let s : Script :=
      { read := [.bytes [8, 9]], write := [.count 1, .error IoKind.brokenPipe.error] }
    let turns : List (Turn Script.platform) :=
      [⟨id, 0, .start 1⟩, ⟨id, 0, .poll⟩, ⟨id, 0, .poll⟩, ⟨id, 0, .poll⟩, ⟨id, 0, .send [5] 2⟩,
        ⟨id, 0, .start 3⟩, ⟨id, 0, .poll⟩, ⟨id, 0, .send [6] 4⟩, ⟨id, 0, .send [7] 5⟩,
        ⟨id, 0, .poll⟩, ⟨id, 0, .close 6⟩]
    let calls := (idle config : Connection Script.platform).history s turns
    let attempt := calls.take 11
    let word : List Callback :=
      [.opened 1 .ok, .received 1 [8, 9], .sent 2 .ok, .sent 4 .error,
        .failed 1 (.io "write failed: broken pipe"), .sent 5 .cancelled, .closed 6]
    calls = [] ++ attempt ++ calls.drop 11 ∧ Entry.Attempt attempt ∧
      Entry.heardIn attempt = word ∧ Word 1 [.closed 6] word ∧
      (Event.callbacks (Entry.eventsOf calls)).filter (Entry.belongs attempt) = word ∧
      .opened 3 .error ∈ Event.callbacks (Entry.eventsOf calls) := by
  intro config s turns calls attempt word
  obtain ⟨heard, -⟩ := attempts_heard_as_words (P := Script.platform) config s turns
  have split : calls = [] ++ attempt ++ calls.drop 11 := rfl
  have whole : Entry.Attempt attempt := by decide +kernel
  obtain ⟨owner, opener, language, -, -, all⟩ := heard _ _ _ split whole
  have first : Entry.opener attempt = some 1 := by decide +kernel
  have closing : Entry.closingOf attempt = [.closed 6] := by decide +kernel
  have spelled : Entry.heardIn attempt = word := by decide +kernel
  obtain rfl := Option.some.inj (opener.symm.trans first)
  rw [closing, spelled] at language
  exact ⟨split, whole, spelled, language, (all (by decide +kernel)).trans spelled, by decide +kernel⟩

end Connection
end PolledTls
