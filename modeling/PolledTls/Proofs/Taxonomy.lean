import PolledTls.Proofs.Bounds

/-!
The errors a connection reports, by where they arise. A call refuses in words of its own, an attempt
fails in those of the phase it was in, and the failures of an open connection are its I/O and the
sends that ran out of time.
-/
namespace PolledTls

variable {P : Platform}

/-- Whether an attempt may fail with the error in the status. -/
def Error.suits : Error → Status → Bool
  | .dns _, .openingDns | .connect _, .openingDns => true
  | .connect _, .openingSocket | .tls _, .openingSocket => true
  | .tls _, .openingTls => true
  | .openTimeout reported _, status => reported = status && status.isOpening
  | _, _ => false

namespace Error

variable {status : Status}

theorem suits_openTimeout (opening : status.isOpening = true) (elapsed : Duration) :
    (openTimeout status elapsed).suits status = true := by
  simp [suits, opening]

theorem suits_asConnect (e : Error) : e.asConnect.suits .openingDns = true := by
  cases e <;> rfl

theorem suits_asTls (e : Error) (step : String) :
    (e.asTls step).suits .openingSocket = true := by
  cases e <;> rfl

/-- Among the errors an attempt may fail with, only the timeout may turn out otherwise in a fresh
attempt. -/
theorem isRetryable_of_suits {e : Error} (suits : e.suits status = true) :
    e.isRetryable = true ↔ ∃ elapsed, e = .openTimeout status elapsed := by
  cases e with
  | openTimeout reported elapsed =>
      simp only [Error.suits, Bool.and_eq_true, decide_eq_true_eq] at suits
      simp [isRetryable, suits.1]
  | sendTimeout elapsed unsent => cases status <;> cases suits
  | _ => simp [isRetryable]

end Error

/-- The error that a refusal is reported as. One that is of the right kind already keeps its
reason. -/
def Call.refusal? : Call → Option Error
  | .beginLookup _ (.error (.dns reason)) => some (.dns reason)
  | .beginLookup _ (.error other) => some (.dns other.message)
  | .beginConnect _ (.error (.connect reason)) => some (.connect reason)
  | .beginConnect _ (.error other) => some (.connect other.message)
  | .newContext (.error (.tls reason)) => some (.tls ("create context" ++ ": " ++ reason))
  | .newContext (.error other) => some (.tls ("create context" ++ ": " ++ other.message))
  | .newSession _ (.error (.tls reason)) => some (.tls ("create session" ++ ": " ++ reason))
  | .newSession _ (.error other) => some (.tls ("create session" ++ ": " ++ other.message))
  | .bindSocket (.error (.tls reason)) => some (.tls ("bind socket" ++ ": " ++ reason))
  | .bindSocket (.error other) => some (.tls ("bind socket" ++ ": " ++ other.message))
  | _ => none

namespace Event

def openFailure? : Event → Option LogEvent
  | .log (.openFailed host status e) => some (.openFailed host status e)
  | _ => none

/-- The lines about failed attempts. -/
def openFailures (events : List Event) : List LogEvent :=
  events.filterMap openFailure?

@[simp] theorem openFailures_nil : openFailures [] = [] := rfl

@[simp] theorem openFailures_cons (event : Event) (rest : List Event) :
    openFailures (event :: rest) = event.openFailure?.toList ++ openFailures rest :=
  filterMap_cons _ _ _

@[simp] theorem openFailures_append (first second : List Event) :
    openFailures (first ++ second) = openFailures first ++ openFailures second :=
  List.filterMap_append

@[simp] theorem openFailures_remarks (notices : List Notice) :
    openFailures (remarks notices) = [] :=
  filterMap_remarks (fun _ => rfl) notices

def refusal? : Event → Option Error
  | .call made => made.refusal?
  | _ => none

/-- What the refusals among the calls are reported as. -/
def refusals (events : List Event) : List Error :=
  events.filterMap refusal?

@[simp] theorem refusals_nil : refusals [] = [] := rfl

@[simp] theorem refusals_cons (event : Event) (rest : List Event) :
    refusals (event :: rest) = event.refusal?.toList ++ refusals rest :=
  filterMap_cons _ _ _

@[simp] theorem refusals_append (first second : List Event) :
    refusals (first ++ second) = refusals first ++ refusals second :=
  List.filterMap_append

@[simp] theorem refusals_remarks (notices : List Notice) : refusals (remarks notices) = [] :=
  filterMap_remarks (fun _ => rfl) notices

end Event

namespace Phase

namespace Polls

variable {config : Config} {phase : Phase P} {es : List Event} {finding : Finding P}

theorem openFailures (h : phase.Polls config es finding) : Event.openFailures es = [] := by
  cases h with
  | setupFailed dial setup => cases setup <;> rfl
  | connected dial setup =>
      cases setup
      rfl
  | _ => rfl

theorem suits_broken {e : Error} (h : phase.Polls config es (.broken e)) :
    e.suits phase.status = true := by
  cases h with
  | connectRefused query somewhere e => exact e.suits_asConnect
  | setupFailed dial setup => cases setup <;> exact Error.suits_asTls _ _
  | _ => rfl

/-- A refusal breaks off the poll with the error it is reported as. -/
theorem refusals (h : phase.Polls config es finding) :
    Event.refusals es = [] ∨ ∃ e, finding = .broken e ∧ Event.refusals es = [e] := by
  cases h with
  | connectRefused query somewhere e =>
      refine .inr ⟨_, rfl, ?_⟩
      cases e <;> rfl
  | setupFailed dial setup =>
      refine .inr ⟨_, rfl, ?_⟩
      cases setup with
      | contextFailed e | sessionFailed e | bindFailed e => cases e <;> rfl
  | connected dial setup =>
      cases setup
      exact .inl rfl
  | _ => exact .inl rfl

end Polls

end Phase

namespace Connection

variable {c left last : Connection P} {now : Instant} {ticket : Ticket} {es : List Event}
  {request : Option Request} {result : Except Error Unit} {calls : List (Entry P)}

/-! How an attempt fails. -/

/-- A poll in an opening phase reports the failure of the attempt exactly if it fails it, in the
terms of that phase, and by what was refused if anything was. -/
theorem Opens.openFailures (h : c.Opens now ticket es left) :
    left.status ≠ .failed ∧ Event.openFailures es = [] ∧ Event.refusals es = [] ∨
      left.status = .failed ∧ ∃ e, e.suits c.status = true ∧
        Event.openFailures es = [.openFailed c.host c.status e] ∧
        ∀ refusal ∈ Event.refusals es, refusal = e := by
  have unrefused {events : List Event} {finding : Finding P}
      (polled : c.phase.Polls c.config events finding) (whole : ∀ e, finding ≠ .broken e) :
      Event.refusals events = [] := by
    rcases polled.refusals with none | ⟨e, broken, -⟩
    · exact none
    · exact absurd broken (whole e)
  cases h with
  | waits polled inTime =>
      refine .inl ⟨?_, polled.openFailures, unrefused polled nofun⟩
      intro failed
      cases (congrArg Status.isOpening failed).symm.trans polled.waiting_isOpening
  | @expires polls phase elapsed polled late =>
      refine .inr ⟨rfl, _, Error.suits_openTimeout polled.opening elapsed, ?_, ?_⟩
      · have silent : Event.openFailures phase.releases = [] :=
          phase.filterMap_releases fun _ => rfl
        rw [Event.openFailures_append, Event.openFailures_append, polled.openFailures, silent]
        rfl
      · have silent : Event.refusals phase.releases = [] := phase.filterMap_releases fun _ => rfl
        rw [Event.refusals_append, Event.refusals_append, unrefused polled nofun, silent]
        nofun
  | moves polled =>
      refine .inl ⟨?_, polled.openFailures, unrefused polled nofun⟩
      intro failed
      cases (congrArg Status.isOpening failed).symm.trans polled.moved_isOpening
  | breaks polled =>
      refine .inr ⟨rfl, _, polled.suits_broken, ?_, ?_⟩
      · rw [Event.openFailures_append, polled.openFailures]
        rfl
      · rw [Event.refusals_append]
        rcases polled.refusals with none | ⟨e, broken, reported⟩
        · rw [none]
          nofun
        · obtain rfl := Finding.broken.inj broken
          rw [reported]
          exact fun refusal => List.mem_singleton.mp
  | completes polled =>
      refine .inl ⟨nofun, ?_, ?_⟩
      · rw [Event.openFailures_append, polled.openFailures]
        rfl
      · rw [Event.refusals_append, unrefused polled nofun]
        rfl

theorem Serves.openFailures {channel : Channel P} (h : c.Serves now ticket channel es left) :
    Event.openFailures es = [] ∧ Event.refusals es = [] := by
  cases h <;> simp [Event.openFailure?, Event.refusal?, Call.refusal?, Channel.releases]

theorem Transfers.openFailures {channel : Channel P} (h : c.Transfers now ticket channel es left) :
    Event.openFailures es = [] ∧ Event.refusals es = [] := by
  cases h with
  | receives stored notices session some served | listens stored notices session stalled served =>
      simp [Event.openFailure?, Event.refusal?, Call.refusal?, served.openFailures]
  | breaks stored notices hard =>
      simp [Event.openFailure?, Event.refusal?, Call.refusal?, Channel.releases]

theorem openFailures_farewell (c : Connection P) : Event.openFailures c.farewell = [] :=
  c.filterMap_farewell
    ⟨fun _ => rfl, rfl, fun _ => rfl, fun _ _ => rfl, fun _ _ => rfl⟩

theorem refusals_farewell (c : Connection P) : Event.refusals c.farewell = [] :=
  c.filterMap_farewell
    ⟨fun _ => rfl, rfl, fun _ => rfl, fun _ _ => rfl, fun _ _ => rfl⟩

/-- Only the poll that fails an attempt logs a failed attempt. -/
theorem Step.openFailures (h : c.Step now request result es left) :
    (c.status.isOpening = true ∧ left.status = .failed) ∧
        (∃ e, e.suits c.status = true ∧
          Event.openFailures es = [.openFailed c.host c.status e]) ∨
      ¬(c.status.isOpening = true ∧ left.status = .failed) ∧ Event.openFailures es = [] := by
  have apart {status : Status} : ¬(status.isOpening = true ∧ status = .failed) := by
    rintro ⟨opening, rfl⟩
    cases opening
  cases h with
  | starts idle lookup => exact .inr ⟨nofun, rfl⟩
  | closes live =>
      refine .inr ⟨nofun, ?_⟩
      rw [Event.openFailures_append, openFailures_farewell]
      rfl
  | abandons live => exact .inr ⟨nofun, c.openFailures_farewell⟩
  | opens owner opened =>
      rcases opened.openFailures with ⟨unfailed, none, -⟩ | ⟨failed, e, suits, line, -⟩
      · exact .inr ⟨fun fails => unfailed fails.2, none⟩
      · exact .inl ⟨⟨opened.opening, failed⟩, e, suits, line⟩
  | transfers owner phase transferred =>
      have opened : c.status = .opened := congrArg Phase.status phase
      refine .inr ⟨?_, transferred.openFailures.1⟩
      rw [opened]
      nofun
  | _ => exact .inr ⟨apart, rfl⟩

/-! What calls are refused with. -/

theorem Step.of_rejected_start (h : c.Step now (some (.start ticket)) result es left) {e : Error}
    (rejected : result = .error e) :
    e = .invalidState c.status "open" ∨ ∃ reason, e = .dns reason := by
  cases h with
  | startRejected live => exact .inl (Except.error.inj rejected).symm
  | lookupRefused idle cause =>
      obtain rfl := Except.error.inj rejected
      cases cause <;> exact .inr ⟨_, rfl⟩
  | starts idle lookup => cases rejected

theorem Step.of_rejected_send {bytes : List UInt8}
    (h : c.Step now (some (.send bytes ticket)) result es left) {e : Error}
    (rejected : result = .error e) :
    e = .invalidState c.status "send" ∨ ∃ size, e = .allocation size := by
  cases h with
  | sendRejected unopened => exact .inl (Except.error.inj rejected).symm
  | sendUnaffordable opened size => exact .inr ⟨size, (Except.error.inj rejected).symm⟩
  | queues opened => cases rejected

theorem Step.of_rejected_close (h : c.Step now (some (.close ticket)) result es left) {e : Error}
    (rejected : result = .error e) : e = .invalidState c.status "close" := by
  cases h with
  | closeIgnored idle =>
      rw [idle]
      exact (Except.error.inj rejected).symm
  | closes live => cases rejected

/-! What the owner of an open connection is told. -/

theorem Serves.alarmed {channel : Channel P} {t : Ticket} {e : Error}
    (h : c.Serves now ticket channel es left) (told : .callback (.failed t e) ∈ es) :
    (∃ reason, e = .io reason) ∧ left.status = .failed ∨
      (∃ elapsed unsent, e = .sendTimeout elapsed unsent) ∧ left.status = .opened := by
  cases h with
  | expires head late =>
      simp at told
      exact .inr ⟨⟨_, _, told.2⟩, rfl⟩
  | breaks head inTime some notices hard =>
      simp [Event.remarks, Channel.releases] at told
      exact .inl ⟨⟨_, told.2⟩, rfl⟩
  | _ => simp [Event.remarks] at told

theorem Step.alarmed {t : Ticket} {e : Error} (h : c.Step now request result es left)
    (told : .callback (.failed t e) ∈ es) :
    (∃ reason, e = .io reason) ∧ left.status = .failed ∨
      (∃ elapsed unsent, e = .sendTimeout elapsed unsent) ∧ left.status = .opened := by
  rcases h.transfers_or_spans with ⟨owner, channel, -, -, -, transferred⟩ | spans
  · cases transferred with
    | receives stored notices session some served =>
        exact served.alarmed (by simpa [Event.remarks] using told)
    | listens stored notices session stalled served =>
        exact served.alarmed (by simpa [Event.remarks] using told)
    | breaks stored notices hard =>
        simp [Event.remarks, Channel.releases] at told
        exact .inl ⟨⟨_, told.2⟩, rfl⟩
  · cases List.all_eq_true.mp (spans _ Event.spans_aside) _ told

/-- What is refused is reported: by the open itself, or by the poll as what the attempt failed
with. -/
theorem Step.refused (h : c.Step now request result es left) {refusal : Error}
    (refused : refusal ∈ Event.refusals es) :
    (∃ ticket, request = some (.start ticket) ∧ result = .error refusal) ∨
      request = some .poll ∧ c.status.isOpening = true ∧ left.status = .failed ∧
        Event.openFailures es = [.openFailed c.host c.status refusal] := by
  cases h with
  | @lookupRefused ticket idle e =>
      have reported : Event.refusals [.call (.beginLookup c.host (.error e)),
          .log (.lookupRefused c.host e.asDns), .callback (.opened ticket .error)] =
          [e.asDns] := by
        cases e <;> rfl
      rw [reported] at refused
      exact .inl ⟨_, rfl, by rw [List.mem_singleton.mp refused]⟩
  | closes live =>
      rw [Event.refusals_append, refusals_farewell] at refused
      cases refused
  | abandons live =>
      rw [Event.refusals_cons, refusals_farewell] at refused
      cases refused
  | opens owner opened =>
      rcases opened.openFailures with ⟨-, -, none⟩ | ⟨failed, e, -, line, reported⟩
      · rw [none] at refused
        cases refused
      · rw [reported refusal refused]
        exact .inr ⟨rfl, opened.opening, failed, line⟩
  | transfers owner phase transferred =>
      rw [transferred.openFailures.2] at refused
      cases refused
  | _ => cases refused

/-- In every history, whatever the platform answers. Calls are refused as out of place, and besides
that an open only by its lookup and a send only for want of memory. A poll that fails an attempt
logs it once, with an error that suits the status the attempt was in, as a warning if this is the
timeout of that status and as an error otherwise; no other call logs a failed attempt. The owner of
an open connection is told of I/O errors, which end it, and of sends that ran out of time, which do
not. And where the platform refused a step, the open or the attempt fails with what the refusal is
reported as. -/
theorem errors_follow_taxonomy (config : Config) (s : P.State) (turns : List (Turn P)) :
    ∀ e ∈ (idle config : Connection P).history s turns,
      (∀ error, e.result = .error error →
        (∀ ticket, e.request = some (.start ticket) →
          error = .invalidState e.before.status "open" ∨ ∃ reason, error = .dns reason) ∧
        (∀ bytes ticket, e.request = some (.send bytes ticket) →
          error = .invalidState e.before.status "send" ∨ ∃ size, error = .allocation size) ∧
        ∀ ticket, e.request = some (.close ticket) →
          error = .invalidState e.before.status "close") ∧
      (if e.before.status.isOpening = true ∧ e.after.status = .failed then
        ∃ error, error.suits e.before.status = true ∧
          let line := LogEvent.openFailed config.host e.before.status error
          Event.openFailures e.events = [line] ∧
            (line.level = .warn ↔ ∃ elapsed, error = .openTimeout e.before.status elapsed) ∧
            (line.level = .warn ∨ line.level = .error)
      else Event.openFailures e.events = []) ∧
      (∀ ticket error, .callback (.failed ticket error) ∈ e.events →
        (∃ reason, error = .io reason) ∧ e.after.status = .failed ∨
          (∃ elapsed unsent, error = .sendTimeout elapsed unsent) ∧ e.after.status = .opened) ∧
      ∀ made ∈ e.calls, ∀ error, made.refusal? = some error →
        (∃ ticket, e.request = some (.start ticket) ∧ e.result = .error error) ∨
          e.request = some .poll ∧ e.before.status.isOpening = true ∧ e.after.status = .failed ∧
            Event.openFailures e.events =
              [.openFailed config.host e.before.status error] := by
  intro e member
  obtain ⟨past, later, split⟩ := List.append_of_mem member
  obtain ⟨before, step⟩ := history_at split
  have host : e.before.host = config.host := congrArg Config.host before.config
  refine ⟨?_, ?_, fun ticket error told => step.alarmed told, ?_⟩
  · intro error rejected
    refine ⟨?_, ?_, ?_⟩
    · intro ticket asked
      rw [asked] at step
      exact step.of_rejected_start rejected
    · intro bytes ticket asked
      rw [asked] at step
      exact step.of_rejected_send rejected
    · intro ticket asked
      rw [asked] at step
      exact step.of_rejected_close rejected
  · rcases step.openFailures with ⟨fails, error, suits, line⟩ | ⟨kept, none⟩
    · rw [if_pos fails, ← host]
      refine ⟨error, suits, line, ?_, ?_⟩
      · rw [← Error.isRetryable_of_suits suits, LogEvent.level]
        cases error.isRetryable <;> simp
      · rw [LogEvent.level]
        cases error.isRetryable <;> simp
    · rw [if_neg kept]
      exact none
  · intro made called error refusal
    have refused : error ∈ Event.refusals e.events :=
      List.mem_filterMap.mpr ⟨.call made, Event.mem_calls.mp called, refusal⟩
    rw [← host]
    exact step.refused refused

/-- A context refused with a TLS error: the step is named, the reason not introduced twice. -/
theorem errors_follow_taxonomy_context :
    let calls := (idle { host := "h", port := 1 } : Connection Script.platform).history
      { newContext := [.error (.tls "no")] } [⟨id, 0, .start 1⟩, ⟨id, 0, .poll⟩, ⟨id, 0, .poll⟩]
    ∃ e ∈ calls, .newContext (.error (.tls "no")) ∈ e.calls ∧
      Event.openFailures e.events =
        [.openFailed "h" .openingSocket (.tls "create context: no")] ∧
      (Error.tls "create context: no").message = "tls error: create context: no" := by
  intro calls
  have member : calls[2] ∈ calls := List.getElem_mem _
  have called : .newContext (.error (.tls "no")) ∈ calls[2].calls :=
    Event.mem_calls.mpr (.tail _ (.head _))
  have before : calls[2].before.status = .openingSocket := rfl
  obtain ⟨-, -, -, refusals⟩ := errors_follow_taxonomy _ _ _ _ member
  rcases refusals _ called _ rfl with ⟨ticket, asked, -⟩ | ⟨-, -, -, line⟩
  · cases asked
  · rw [before] at line
    exact ⟨_, member, called, line, rfl⟩

end Connection
end PolledTls
