import PolledTls.Proofs.Sim.Tally
import PolledTls.Proofs.Stream
import PolledTls.Proofs.Tracks
import PolledTls.Sim.Network

/-!
What a simulated network keeps of what was done on it: its counts and all that the peer has got.
Both change with the recorded events alone, and no command touches them.
-/
namespace PolledTls.Sim

structure Books where
  tally : Tally
  written : List UInt8

namespace Books

def after (books : Books) : Event → Books
  | .call (.write offered (.ok count)) =>
    { books with written := books.written ++ offered.take count }
  | event => { books with tally := books.tally.after event }

theorem after_eq (books : Books) (event : Event) :
    books.after event = ⟨books.tally.after event, books.written ++ event.accepted⟩ := by
  unfold after
  split
  case h_1 => rfl
  case h_2 other =>
    have quiet : event.accepted = [] := by
      unfold Event.accepted
      split
      · exact absurd rfl (other _ _)
      · rfl
    rw [quiet, List.append_nil]

theorem foldl_after (books : Books) (events : List Event) :
    events.foldl after books =
      ⟨books.tally.afterAll events, books.written ++ Event.taken events⟩ := by
  induction events generalizing books with
  | nil => exact congrArg (mk books.tally) (List.append_nil _).symm
  | cons event rest ih =>
      rw [List.foldl_cons, ih, after_eq, List.append_assoc]
      rfl

theorem foldl_remarks (books : Books) (notices : List Notice) :
    (Event.remarks notices).foldl after books = books := by
  induction notices with
  | nil => rfl
  | cons notice rest ih => exact ih

end Books

namespace Network

def books (net : Network) : Books :=
  ⟨net.tally, net.written.toList⟩

theorem books_command (net : Network) (command : Command) :
    (net.command command).books = net.books := by
  cases command with
  | deliver bytes =>
      unfold Network.command
      dsimp only
      split <;> rfl
  | _ => rfl

theorem books_commands (net : Network) (list : List Command) :
    (net.commands list).books = net.books := by
  induction list generalizing net with
  | nil => rfl
  | cons command rest ih => exact (ih _).trans (net.books_command command)

theorem books_setup (draws : Draws) (memory : Nat → Bool) (setup : List Command) :
    ((fresh draws memory).commands setup).books = ⟨{}, []⟩ :=
  (fresh draws memory).books_commands setup

theorem handshake_state (session : Session) (net : Network) :
    (net.handshake session).2.2 = net := by
  unfold handshake
  split
  · rfl
  · split
    · split <;> rfl
    · rfl

theorem books_read (room : Nat) (session : Session) (net : Network) :
    (read room session net).2.2.books = net.books := by
  unfold read
  split <;> rfl

theorem books_write (offered : Bytes) (session : Session) (net : Network) :
    (write offered session net).2.2.books =
      net.books.after (.call (.write offered.toList (write offered session net).1.answer)) := by
  unfold write
  split
  · rfl
  · dsimp only
    split
    · rfl
    · exact congrArg (Books.mk net.tally) (Trail.toList_append _ _)

/-- The network keeps book of what its calls and releases record. -/
theorem tracked : platform.Tracked books Books.after where
  callback _ _ := rfl
  log _ _ := rfl
  fault _ _ := rfl
  beginLookup hostname net := by
    simp only [Act.beginLookup, platform, beginLookup]
    split <;> rfl
  isComplete _ _ := rfl
  result _ _ := rfl
  beginConnect endpoint net := by
    simp only [Act.beginConnect, platform, beginConnect]
    split <;> rfl
  pollConnect socket net := by
    simp only [Act.pollConnect, platform, pollConnect]
    split
    · split <;> rfl
    · rfl
  newContext net := by
    simp only [Act.newContext, platform, newContext]
    split <;> rfl
  newSession context serverName net := by
    simp only [Act.newSession, platform, newSession]
    split <;> rfl
  bindSocket session socket net := by
    simp only [Act.bindSocket, platform, bindSocket]
    split <;> rfl
  handshake session net := congrArg books (net.handshake_state session)
  read buffer session net :=
    (net.books_read buffer.room session).trans (Books.foldl_remarks net.books _).symm
  write offered session net :=
    (net.books_write offered session).trans (Books.foldl_remarks _ _).symm
  shutdown _ _ := rfl
  releaseLookup _ _ := rfl
  releaseSocket _ _ := rfl
  releaseContext _ _ := rfl
  releaseSession _ _ := rfl

end Network
end PolledTls.Sim
