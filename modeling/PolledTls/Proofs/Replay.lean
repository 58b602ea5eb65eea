import PolledTls.Proofs.Course

/-!
The log as an account of the connection. Its messages mark each change of the status once and
nothing else, so whoever reads them from the beginning knows the status at every point, and a line
that names a status names the one the log has come to by then.
-/
namespace PolledTls

variable {P : Platform}

/-- The status that the connection has come to, told from the message of a line of the log. -/
def Status.marked? : String → Option Status
  | "connection created" | "closed" => some .notOpen
  | "opening" => some .openingDns
  | "resolved, connecting" => some .openingSocket
  | "connected, handshaking" => some .openingTls
  | "open" => some .opened
  | "open failed" | "read failed" | "write failed" => some .failed
  | _ => none

/-- A level at which no line that marks a status is left out. -/
def Level.Detailed (limit : Level) : Prop :=
  limit = .debug ∨ limit = .trace

namespace LogEvent

variable {line : LogEvent} {limit : Level} {status : Status}

theorem marked?_message (line : LogEvent) : Status.marked? line.message = line.reaches? := by
  cases line with
  | notice n =>
      obtain ⟨direction, kind⟩ := n
      cases direction <;> rfl
  | _ => rfl

/-- The messages of the lines that name a status. -/
def naming : List String :=
  ["open rejected", "open failed", "connection dropped without close"]

/-- The status named among the fields of a line. -/
def names? : LogEvent → Option Status
  | .openRejected _ status | .openFailed _ status _ | .abandoned _ status => some status
  | _ => none

theorem lookup_fields (line : LogEvent) :
    line.fields.lookup "state" = line.names?.map fun status => .text status.text := by
  cases line <;> rfl

theorem names?_isSome (line : LogEvent) : line.names?.isSome ↔ line.message ∈ naming := by
  cases line with
  | notice n =>
      obtain ⟨direction, kind⟩ := n
      cases direction <;> simp [names?, message, naming, Direction.text]
  | _ => simp [names?, message, naming]

theorem shown_of_reaches (detailed : limit.Detailed) (marks : line.reaches? = some status) :
    line.level.shownAt limit = true := by
  cases line with
  | openFailed host status e =>
      rcases detailed with rfl | rfl <;> cases retry : e.isRetryable <;> simp [level, retry] <;> rfl
  | created | opening | opened | connecting | handshaking | readFailed | writeFailed | closed =>
      rcases detailed with rfl | rfl <;> rfl
  | _ => cases marks

end LogEvent

/-- The status a reader of the log arrives at. -/
def replay (status : Status) (log : List LogEvent) : Status :=
  log.foldl (fun status line => (Status.marked? line.message).getD status) status

theorem replay_cons (status : Status) (line : LogEvent) (rest : List LogEvent) :
    replay status (line :: rest) = replay (line.reaches?.getD status) rest := by
  rw [replay, List.foldl_cons, line.marked?_message]
  rfl

namespace Event

variable {events : List Event} {limit : Level} {status : Status}

/-- The lines that the events leave in a log of the given level. -/
def recorded (limit : Level) (events : List Event) : List LogEvent :=
  (logs events).filter (·.level.shownAt limit)

theorem recorded_log (limit : Level) (line : LogEvent) (rest : List Event) :
    recorded limit (.log line :: rest) =
      if line.level.shownAt limit then line :: recorded limit rest else recorded limit rest :=
  List.filter_cons

/-- No mark is left out of a detailed log. -/
theorem marked_recorded (detailed : limit.Detailed) (events : List Event) :
    (recorded limit events).filterMap (Status.marked? ·.message) = passed events := by
  induction events with
  | nil => rfl
  | cons event rest ih =>
      rw [passed_cons, ← ih]
      cases event with
      | log line =>
          rw [recorded_log]
          cases marks : line.reaches? with
          | none => split <;> simp [line.marked?_message, marks, reaches?]
          | some status =>
              rw [if_pos (line.shown_of_reaches detailed marks)]
              simp [line.marked?_message, marks, reaches?]
      | _ => rfl

theorem replay_recorded (detailed : limit.Detailed) (status : Status) (events : List Event) :
    replay status (recorded limit events) = (passed events).getLastD status := by
  rw [← marked_recorded detailed]
  generalize recorded limit events = log
  induction log generalizing status with
  | nil => rfl
  | cons line rest ih =>
      rw [replay_cons, ih, List.filterMap_cons, line.marked?_message]
      cases line.reaches? with
      | none => rfl
      | some status => exact List.getLastD_cons.symm

def names? : Event → Option Status
  | .log line => line.names?
  | _ => none

/-- The statuses that the events name. -/
def named (events : List Event) : List Status :=
  events.filterMap names?

@[simp] theorem named_nil : named [] = [] := rfl

@[simp] theorem named_cons (event : Event) (rest : List Event) :
    named (event :: rest) = event.names?.toList ++ named rest :=
  filterMap_cons _ _ _

@[simp] theorem named_append (first second : List Event) :
    named (first ++ second) = named first ++ named second :=
  List.filterMap_append

@[simp] theorem named_remarks (notices : List Notice) : named (remarks notices) = [] :=
  filterMap_remarks (fun _ => rfl) notices

/-- Every status that is named is the one come to by then. -/
def Accords (status : Status) : List Event → Prop
  | [] => True
  | event :: rest =>
    (∀ named, event.names? = some named → named = status) ∧
      Accords (event.reaches?.getD status) rest

theorem accords_append (first second : List Event) : Accords status (first ++ second) ↔
    Accords status first ∧ Accords ((passed first).getLastD status) second := by
  induction first generalizing status with
  | nil => simp [Accords]
  | cons event rest ih =>
      rw [List.cons_append, Accords, Accords, ih, passed_cons, and_assoc]
      cases event.reaches? with
      | none => rfl
      | some status =>
          rw [Option.toList_some, List.singleton_append, List.getLastD_cons]
          rfl

theorem accords_of_unnamed (unnamed : named events = []) : Accords status events := by
  induction events generalizing status with
  | nil => trivial
  | cons event rest ih =>
      rw [named_cons, List.append_eq_nil_iff] at unnamed
      obtain ⟨first, others⟩ := unnamed
      refine ⟨?_, ih others⟩
      rw [Option.toList_eq_nil_iff.mp first]
      nofun

/-- What is left out of a detailed log changes nothing for those that stay. -/
theorem Accords.named (h : Accords status events) (detailed : limit.Detailed)
    {seen rest : List LogEvent} {line : LogEvent} {named : Status}
    (split : recorded limit events = seen ++ line :: rest) (names : line.names? = some named) :
    named = replay status seen := by
  induction events generalizing status seen with
  | nil => cases seen <;> cases split
  | cons event later ih =>
      obtain ⟨here, beyond⟩ := h
      cases event with
      | log first =>
          rw [recorded_log] at split
          cases shown : first.level.shownAt limit with
          | true =>
              rw [if_pos shown] at split
              cases seen with
              | nil =>
                  obtain ⟨rfl, -⟩ := List.cons.inj split
                  exact here named names
              | cons _ seen =>
                  obtain ⟨rfl, on⟩ := List.cons.inj split
                  rw [replay_cons]
                  exact ih beyond on
          | false =>
              rw [if_neg (by simp [shown])] at split
              have unmarked : first.reaches? = none := by
                rw [Option.eq_none_iff_forall_ne_some]
                intro status marks
                rw [first.shown_of_reaches detailed marks] at shown
                cases shown
              have still : Accords status later := by
                simpa [reaches?, unmarked] using beyond
              exact ih still split
      | _ => exact ih beyond split

end Event

namespace Phase

theorem Polls.named {config : Config} {before : Phase P} {es : List Event} {finding : Finding P}
    (h : before.Polls config es finding) : Event.named es = [] := by
  cases h with
  | setupFailed dial setup => cases setup <;> rfl
  | connected dial setup =>
      cases setup
      rfl
  | _ => rfl

end Phase

namespace Connection

variable {c left last : Connection P} {now : Instant} {ticket : Ticket} {es : List Event}
  {request : Option Request} {result : Except Error Unit} {calls : List (Entry P)}

theorem StepsOnce.passed (h : c.StepsOnce left es) :
    Event.passed es = if left.status = c.status then [] else [left.status] := by
  rcases h with ⟨same, none⟩ | ⟨advance, once⟩
  · rw [if_pos same, none]
  · rw [if_neg (Status.ne_of_advances advance), once]

theorem named_farewell (c : Connection P) : Event.named c.farewell = [] :=
  c.filterMap_farewell
    ⟨fun _ => rfl, rfl, fun _ => rfl, fun _ _ => rfl, fun _ _ => rfl⟩

theorem passed_farewell (c : Connection P) : Event.passed c.farewell = [.notOpen] :=
  c.filterMap_farewell
    ⟨fun _ => rfl, rfl, fun _ => rfl, fun _ _ => rfl, fun _ _ => rfl⟩

/-- The log marks the change of the status, where there is one, and nothing else. -/
theorem Step.passed (h : c.Step now request result es left) :
    Event.passed es = if left.status = c.status then [] else [left.status] := by
  cases h with
  | starts idle lookup =>
      rw [idle]
      rfl
  | closes live =>
      have moved : c.cleared.status ≠ c.status := fun same => live same.symm
      rw [Event.passed_append, passed_farewell, if_neg moved]
      rfl
  | abandons live =>
      have moved : c.cleared.status ≠ c.status := fun same => live same.symm
      rw [Event.passed_cons, passed_farewell, if_neg moved]
      rfl
  | opens owner opened => exact opened.stepsOnce.passed
  | transfers owner phase transferred =>
      exact (transferred.stepsOnce (congrArg Phase.status phase)).passed
  | _ => exact (if_pos rfl).symm

theorem Step.arrives (h : c.Step now request result es left) :
    (Event.passed es).getLastD c.status = left.status := by
  rw [h.passed]
  split
  case isTrue same => exact same.symm
  case isFalse moved => rfl

theorem accords_failure (c : Connection P) (ticket : Ticket) (e : Error) :
    Event.Accords c.status (c.failure ticket e) := by
  simp [failure, Event.Accords, Event.names?, LogEvent.names?]

theorem Opens.accords (h : c.Opens now ticket es left) : Event.Accords c.status es := by
  cases h with
  | waits polled inTime => exact Event.accords_of_unnamed polled.named
  | @expires polls phase _ polled late =>
      have unnamed : Event.named (polls ++ phase.releases) = [] := by
        rw [Event.named_append, polled.named]
        exact phase.filterMap_releases fun _ => rfl
      have still : Event.passed (polls ++ phase.releases) = [] := by
        rw [Event.passed_append, polled.passed_waiting, phase.passed_releases, List.append_nil]
      rw [Event.accords_append, still]
      exact ⟨Event.accords_of_unnamed unnamed, c.accords_failure ticket _⟩
  | moves polled => exact Event.accords_of_unnamed polled.named
  | breaks polled =>
      rw [Event.accords_append, polled.passed_broken]
      exact ⟨Event.accords_of_unnamed polled.named, c.accords_failure ticket _⟩
  | completes polled =>
      apply Event.accords_of_unnamed
      rw [Event.named_append, polled.named]
      rfl

theorem Serves.named {channel : Channel P} (h : c.Serves now ticket channel es left) :
    Event.named es = [] := by
  cases h <;> simp [Event.names?, LogEvent.names?, Channel.releases]

theorem Transfers.named {channel : Channel P} (h : c.Transfers now ticket channel es left) :
    Event.named es = [] := by
  cases h with
  | receives stored notices session some served =>
      simp [Event.names?, LogEvent.names?, served.named]
  | listens stored notices session stalled served => simp [Event.names?, served.named]
  | breaks stored notices hard => simp [Event.names?, LogEvent.names?, Channel.releases]

theorem Step.accords (h : c.Step now request result es left) : Event.Accords c.status es := by
  cases h with
  | startRejected live => simp [Event.Accords, Event.names?, LogEvent.names?]
  | closes live =>
      apply Event.accords_of_unnamed
      rw [Event.named_append, named_farewell]
      rfl
  | abandons live =>
      refine ⟨?_, Event.accords_of_unnamed c.named_farewell⟩
      rintro named ⟨⟩
      rfl
  | opens owner opened => exact opened.accords
  | transfers owner phase transferred => exact Event.accords_of_unnamed transferred.named
  | _ => exact Event.accords_of_unnamed rfl

theorem Linked.accords (h : Linked c calls last) :
    Event.Accords c.status (Entry.eventsOf calls) := by
  induction h with
  | nil c => trivial
  | cons step later ih =>
      rw [Entry.eventsOf, List.flatMap_cons, Event.accords_append, step.arrives]
      exact ⟨step.accords, ih⟩

theorem Linked.arrives (h : Linked c calls last) :
    (Event.passed (Entry.eventsOf calls)).getLastD c.status = last.status := by
  induction h with
  | nil c => rfl
  | cons step later ih =>
      rw [← ih, ← step.arrives]
      simp [Entry.eventsOf, List.getLast?_append, Option.getD_or]

/-- At a level of debug or trace the log of a connection, from its creation on, replays to its
status: after every call a reader who took up the marks in order has arrived at the status the
connection is in, a call that changes the status leaves one mark and any other leaves none, and a
line that names a status names the one the reader has arrived at. -/
theorem log_replays_status (config : Config) (s : P.State) (c : Connection P)
    (created : (create config s).value = .ok c) (limit : Level) (detailed : limit.Detailed)
    (start : Status) (turns : List (Turn P)) :
    let made := create config s
    let calls := c.history made.state turns
    let log (calls : List (Entry P)) :=
      Event.recorded limit (made.events ++ Entry.eventsOf calls)
    replay start (log []) = c.status ∧
    (∀ past e later, calls = past ++ e :: later →
      replay start (log past) = e.before.status ∧
      replay start (log (past ++ [e])) = e.after.status ∧
      (Event.recorded limit e.events).filterMap (Status.marked? ·.message) =
        if e.after.status = e.before.status then [] else [e.after.status]) ∧
    ∀ seen line rest, log calls = seen ++ line :: rest → line.message ∈ LogEvent.naming →
      line.fields.lookup "state" = some (.text (replay start seen).text) := by
  intro made calls log
  obtain ⟨rfl, -⟩ := eq_idle_of_created created
  have events : made.events = [.log (.created config.host config.port)] :=
    congrArg Traced.events (create_eq created)
  have replays {past : List (Entry P)} {left : Connection P}
      (before : Linked (idle config) past left) : replay start (log past) = left.status := by
    rw [Event.replay_recorded detailed, events, List.singleton_append, Event.passed_cons,
      ← before.arrives]
    exact List.getLastD_cons
  refine ⟨replays (.nil _), ?_, ?_⟩
  · intro past e later split
    obtain ⟨before, step⟩ := history_at split
    refine ⟨replays before, replays (before.append (.cons step (.nil _))), ?_⟩
    rw [Event.marked_recorded detailed, step.passed]
  · intro seen line rest split naming
    obtain ⟨last, linked, -⟩ := history_linked (sound_idle config) made.state turns
    have accords : Event.Accords start (made.events ++ Entry.eventsOf calls) := by
      rw [events]
      exact ⟨nofun, linked.accords⟩
    obtain ⟨named, names⟩ := Option.isSome_iff_exists.mp (line.names?_isSome.mpr naming)
    rw [line.lookup_fields, names, accords.named detailed split names]
    rfl

/-- An open rejected while a connection resolves, a handshake that fails, and a drop without a
close. -/
theorem log_replays_status_unclosed :
    let new : Connection Script.platform := idle { host := "h", port := 1 }
    let s : Script := { handshake := [.error IoKind.connectionReset.error] }
    let calls := new.history s
      [⟨id, 0, .start 1⟩, ⟨id, 0, .start 2⟩, ⟨id, 0, .poll⟩, ⟨id, 0, .poll⟩, ⟨id, 0, .poll⟩]
    let log (calls : List (Entry Script.platform)) :=
      Event.recorded .debug (.log (.created "h" 1) :: Entry.eventsOf calls)
    (create new.config s).value = .ok new ∧ Level.debug.Detailed ∧
    (log calls).map (·.message) = ["connection created", "opening", "open rejected",
      "resolved, connecting", "connected, handshaking", "open failed",
      "connection dropped without close", "closed"] ∧
    replay .notOpen (log (calls.take 5)) = .failed ∧
    ∃ failed dropped, log calls = (log calls).take 5 ++ failed :: dropped :: (log calls).drop 7 ∧
      failed.fields.lookup "state" = some (.text "OpeningTls") ∧
      dropped.fields.lookup "state" = some (.text "Error") := by
  intro new s calls log
  have checked : Config.check { host := "h", port := 1 } = .ok () := rfl
  have made : create new.config s = ⟨.ok new, s, [.log (.created "h" 1)]⟩ := create_ok checked rfl
  have created : (create new.config s).value = .ok new := congrArg Traced.value made
  have replays := log_replays_status new.config s new created .debug (.inl rfl) .notOpen
    [⟨id, 0, .start 1⟩, ⟨id, 0, .start 2⟩, ⟨id, 0, .poll⟩, ⟨id, 0, .poll⟩, ⟨id, 0, .poll⟩]
  rw [made] at replays
  obtain ⟨-, entries, names⟩ := replays
  have split : calls = calls.take 4 ++ calls[4] :: calls.drop 5 := rfl
  obtain ⟨-, failed, -⟩ := entries _ _ _ split
  let failure := LogEvent.openFailed "h" .openingTls
    (.tls ("handshake with h failed: " ++ IoKind.connectionReset.error.text))
  have lines : log calls = (log calls).take 5 ++ failure :: .abandoned "h" .failed ::
      (log calls).drop 7 := by decide +kernel
  have first := names _ _ _ lines (by decide)
  have second := names ((log calls).take 6) (.abandoned "h" .failed) ((log calls).drop 7)
    (by decide +kernel) (by decide)
  have handshaking : replay .notOpen ((log calls).take 5) = .openingTls := by decide +kernel
  have broken : replay .notOpen ((log calls).take 6) = .failed := by decide +kernel
  have ended : calls[4].after.status = .failed := by decide +kernel
  refine ⟨created, .inl rfl, by decide +kernel, failed.trans ended, _, _, lines, ?_, ?_⟩
  · rw [first, handshaking]
    rfl
  · rw [second, broken]
    rfl

end Connection
end PolledTls
