import PolledTls.Proofs.Release
import PolledTls.Scripted

/-!
What becomes of the socket of a dial. It is asked once in each poll, until it answers something else
than that it is still connecting; with that answer it leaves the dial, handed out or closed. However
often a dial is polled before it is dropped, its socket leaves it exactly once.
-/
namespace PolledTls.Dial

variable {P : Platform}

/-- A dial after some polls, with what each came to and the events behind it. -/
structure Polling (P : Platform) where
  seen : List (Progress P × List Event)
  dial : Dial P
  state : P.State

/-- Polls one after the other. Before each of them the platform may have changed. -/
def pollAll (dial : Dial P) (s : P.State) : List (P.State → P.State) → Polling P
  | [] => ⟨[], dial, s⟩
  | meanwhile :: rest =>
    let poll := dial.poll (meanwhile s)
    let later := poll.value.2.pollAll poll.state rest
    { later with seen := (poll.value.1, poll.events) :: later.seen }

/-- A socket that is asked by itself, once after each change, and is still connecting each time. -/
inductive Waits : P.Socket → P.State → List (P.State → P.State) → P.Socket → P.State → Prop
  | nil (socket : P.Socket) (s : P.State) : Waits socket s [] socket s
  | cons {socket next last : P.Socket} {s t u : P.State} {meanwhile : P.State → P.State}
      {rest : List (P.State → P.State)}
      (answered : P.pollConnect socket (meanwhile s) = (.ok false, next, t))
      (later : Waits next t rest last u) : Waits socket s (meanwhile :: rest) last u

/-- A poll that finds the socket still connecting. -/
def waiting : Progress P × List Event :=
  (.pending, [.call (.pollConnect (.ok false))])

/-- A poll that finds no socket. -/
def spent : Progress P × List Event :=
  (.failed (.connect "socket already taken"), [])

/-- A poll that gets an answer, with the socket and the platform as the answer leaves them. -/
def answering (endpoint : Endpoint) (socket : P.Socket) (s : P.State) :
    Except IoError Bool → (Progress P × List Event) × Option P.Socket × P.State
  | .ok false => (waiting, some socket, s)
  | .ok true => ((.connected socket, [.call (.pollConnect (.ok true))]), none, s)
  | .error e =>
    ((.failed (.connect (endpoint.text ++ ": " ++ e.text)),
      [.call (.pollConnect (.error e)), .release .socket]), none, P.releaseSocket socket s)

theorem poll_owning (endpoint : Endpoint) {socket next : P.Socket} {s t : P.State}
    {answer : Except IoError Bool} (answered : P.pollConnect socket s = (answer, next, t)) :
    (⟨endpoint, some socket⟩ : Dial P).poll s =
      let (seen, left, u) := answering endpoint next t answer
      ⟨(seen.1, ⟨endpoint, left⟩), u, seen.2⟩ := by
  have asked : Act.pollConnect socket s = ⟨(answer, next), t, [.call (.pollConnect answer)]⟩ := by
    rw [Act.pollConnect, answered]
  simp only [poll, Act.bind_apply, asked]
  rcases answer with e | connected
  · rfl
  · cases connected <;> rfl

theorem poll_spent (endpoint : Endpoint) (s : P.State) :
    (⟨endpoint, none⟩ : Dial P).poll s =
      let seen : Progress P × List Event := spent
      ⟨(seen.1, ⟨endpoint, none⟩), s, seen.2⟩ := rfl

/-- What a dial comes to that owns a socket and is polled once after each change. -/
inductive Fate (endpoint : Endpoint) (socket : P.Socket) (s : P.State) :
    List (P.State → P.State) → Polling P → Prop
  /-- There was no answer yet: the socket was asked each time, and the dial owns it still. -/
  | waits {meanwhiles : List (P.State → P.State)} {last : P.Socket} {t : P.State}
      (asked : Waits socket s meanwhiles last t) :
      Fate endpoint socket s meanwhiles
        ⟨meanwhiles.map fun _ => waiting, ⟨endpoint, some last⟩, t⟩
  /-- The answer came in the poll after `meanwhile`, and no later poll asked anything. -/
  | leaves {before after : List (P.State → P.State)} {meanwhile : P.State → P.State}
      {last final : P.Socket} {t u : P.State} {answer : Except IoError Bool}
      (asked : Waits socket s before last t)
      (answered : P.pollConnect last (meanwhile t) = (answer, final, u))
      (settled : answer ≠ .ok false) :
      Fate endpoint socket s (before ++ meanwhile :: after)
        ⟨before.map (fun _ => waiting) ++ (answering endpoint final u answer).1 ::
            after.map fun _ => spent,
          ⟨endpoint, none⟩,
          after.foldl (fun s change => change s) (answering endpoint final u answer).2.2⟩

theorem pollAll_spent (endpoint : Endpoint) (s : P.State)
    (meanwhiles : List (P.State → P.State)) :
    (⟨endpoint, none⟩ : Dial P).pollAll s meanwhiles =
      ⟨meanwhiles.map fun _ => spent, ⟨endpoint, none⟩,
        meanwhiles.foldl (fun s change => change s) s⟩ := by
  induction meanwhiles generalizing s with
  | nil => rfl
  | cons meanwhile rest ih => rw [pollAll, poll_spent, ih, List.map_cons, List.foldl_cons]

theorem answering_settled (endpoint : Endpoint) (socket : P.Socket) (s : P.State)
    {answer : Except IoError Bool} (settled : answer ≠ .ok false) :
    (answering endpoint socket s answer).2.1 = none := by
  rcases answer with e | connected
  · rfl
  · cases connected with
    | false => exact absurd rfl settled
    | true => rfl

theorem fate_pollAll (endpoint : Endpoint) (socket : P.Socket) (s : P.State)
    (meanwhiles : List (P.State → P.State)) :
    Fate endpoint socket s meanwhiles
      ((⟨endpoint, some socket⟩ : Dial P).pollAll s meanwhiles) := by
  induction meanwhiles generalizing socket s with
  | nil => exact .waits (.nil socket s)
  | cons meanwhile rest ih =>
      rcases answered : P.pollConnect socket (meanwhile s) with ⟨answer, next, t⟩
      rw [pollAll, poll_owning endpoint answered]
      -- Still connecting, the rest is the fate of the socket as it is now; otherwise nothing is left.
      by_cases connecting : answer = .ok false
      · subst connecting
        have fate := ih next t
        change Fate endpoint socket s (meanwhile :: rest)
          { (⟨endpoint, some next⟩ : Dial P).pollAll t rest with
            seen := waiting :: ((⟨endpoint, some next⟩ : Dial P).pollAll t rest).seen }
        generalize (⟨endpoint, some next⟩ : Dial P).pollAll t rest = later at fate ⊢
        cases fate with
        | waits asked => exact .waits (.cons answered asked)
        | leaves asked settles settled => exact .leaves (.cons answered asked) settles settled
      · simp only [answering_settled endpoint next t connecting, pollAll_spent]
        exact .leaves (.nil socket s) answered connecting

/-- The socket that a poll hands out. -/
def Progress.handed? : Progress P → Option P.Socket
  | .connected socket => some socket
  | .pending | .failed _ => none

/-- The sockets that polls hand out. -/
def handedBy (seen : List (Progress P × List Event)) : List P.Socket :=
  seen.filterMap (·.1.handed?)

/-- What polls give back. -/
def releasedBy (seen : List (Progress P × List Event)) : List Resource :=
  seen.flatMap (Event.released ·.2)

theorem handedBy_eq (seen : List (Progress P × List Event)) :
    handedBy seen = seen.flatMap (·.1.handed?.toList) :=
  List.filterMap_eq_flatMap_toList ..

section

variable {α : Type} (part : Progress P × List Event → List α)

theorem flatMap_alike (poll : Progress P × List Event) (nothing : part poll = [])
    (meanwhiles : List (P.State → P.State)) :
    (meanwhiles.map fun _ => poll).flatMap part = [] := by
  rw [List.flatMap_eq_nil_iff]
  intro seen member
  obtain ⟨_, -, rfl⟩ := List.mem_map.mp member
  exact nothing

/-- Of polls that wait, one that does not, and polls that find nothing, only the one counts. -/
theorem flatMap_around (first : part waiting = []) (last : part spent = [])
    (poll : Progress P × List Event) (before after : List (P.State → P.State)) :
    (before.map (fun _ => waiting) ++ poll :: after.map fun _ => spent).flatMap part =
      part poll := by
  rw [List.flatMap_append, flatMap_alike part waiting first, List.flatMap_cons,
    flatMap_alike part spent last, List.append_nil]
  rfl

end

/-- What the polls gave back, and what is given back when the dial is dropped after them. -/
def Polling.released (run : Polling P) : List Resource :=
  releasedBy run.seen ++ Event.released (run.dial.release run.state).events

variable {endpoint : Endpoint} {socket : P.Socket} {s : P.State}
  {meanwhiles : List (P.State → P.State)} {run : Polling P}

/-- The socket is either handed out or closed, once, by a poll or when the dial is dropped. -/
theorem Fate.once (fate : Fate endpoint socket s meanwhiles run) :
    handedBy run.seen = [] ∧ run.released = [.socket] ∨
      ∃ out, handedBy run.seen = [out] ∧ run.released = [] := by
  cases fate with
  | waits =>
      rw [Polling.released, handedBy_eq, releasedBy, flatMap_alike _ waiting rfl,
        flatMap_alike _ waiting rfl]
      exact .inl ⟨rfl, rfl⟩
  | @leaves _ _ _ _ final _ _ answer _ _ settled =>
      rw [Polling.released, handedBy_eq, releasedBy, flatMap_around _ rfl rfl,
        flatMap_around _ rfl rfl]
      rcases answer with e | connected
      · exact .inl ⟨rfl, rfl⟩
      · cases connected with
        | false => exact absurd rfl settled
        | true => exact .inr ⟨final, rfl, rfl⟩

/-- Only a connect that was begun makes a dial, and the dial owns its socket. -/
theorem begun_of_started {dial : Dial P} (started : (start endpoint s).value = .ok dial) :
    ∃ socket, P.beginConnect endpoint s =
        (.ok socket, (start endpoint s : Traced P (Except Error (Dial P))).state) ∧
      dial = ⟨endpoint, some socket⟩ := by
  rcases begun : P.beginConnect endpoint s with ⟨e | socket, t⟩
  · simp [start, Act.beginConnect, begun] at started
  · refine ⟨socket, ?_, ?_⟩
    · simp [start, Act.beginConnect, Act.log, Act.emit, begun]
    · simpa [start, Act.beginConnect, begun] using started.symm

/-- Whenever a dial is started, and whatever the platform answers to its polls and does between
them: each poll asks the socket once until it settles, and none asks it later; what the polls come to
is told by these answers alone; and the socket leaves the dial once, handed out by the poll that
finds it connected, closed before the one returns that finds it failed, or closed by the drop. -/
theorem socket_leaves_once {dial : Dial P} (started : (start endpoint s).value = .ok dial)
    (meanwhiles : List (P.State → P.State)) :
    let begun := (start endpoint s : Traced P (Except Error (Dial P))).state
    let run := dial.pollAll begun meanwhiles
    (∃ socket, P.beginConnect endpoint s = (.ok socket, begun) ∧
      dial = ⟨endpoint, some socket⟩ ∧ Fate endpoint socket begun meanwhiles run) ∧
    (handedBy run.seen = [] ∧ run.released = [.socket] ∨
      ∃ out, handedBy run.seen = [out] ∧ run.released = []) ∧
    (run.dial.release run.state).state =
      match run.dial.socket with
      | none => run.state
      | some last => P.releaseSocket last run.state := by
  intro begun run
  obtain ⟨socket, answered, rfl⟩ := begun_of_started started
  have fate : Fate endpoint socket begun meanwhiles run :=
    fate_pollAll endpoint socket begun meanwhiles
  refine ⟨⟨socket, answered, rfl, fate⟩, fate.once, ?_⟩
  rw [release]
  cases run.dial.socket <;> rfl

/-- Five polls of a connect that is refused at the third: pending twice, failed with the reason and
the socket closed, and then failed with nothing left to ask. -/
theorem socket_leaves_once_refused :
    let endpoint : Endpoint := ⟨⟨192, 0, 2, 1⟩, 443⟩
    let s : Script :=
      { pollConnect := [.ok false, .ok false, .error IoKind.connectionRefused.error] }
    let dial : Dial Script.platform := ⟨endpoint, some ()⟩
    let run := dial.pollAll s [id, id, id, id, id]
    let pending : Call := .pollConnect (.ok false)
    let refused : Call := .pollConnect (.error IoKind.connectionRefused.error)
    (start endpoint s : Traced Script.platform _).value = .ok dial ∧
      run.seen = [(.pending, [.call pending]), (.pending, [.call pending]),
        (.failed (.connect "192.0.2.1:443: connection refused"), [.call refused, .release .socket]),
        (.failed (.connect "socket already taken"), []),
        (.failed (.connect "socket already taken"), [])] ∧
      (handedBy run.seen = [] ∧ run.released = [.socket] ∨
        ∃ out, handedBy run.seen = [out] ∧ run.released = []) := by
  intro endpoint s dial run pending refused
  have started : (start endpoint s : Traced Script.platform _).value = .ok dial := rfl
  have text : endpoint.text ++ ": " ++ IoKind.connectionRefused.text =
      "192.0.2.1:443: connection refused" := by decide +kernel
  refine ⟨started, ?_, (socket_leaves_once started [id, id, id, id, id]).2.1⟩
  rw [← text]
  rfl

end PolledTls.Dial
