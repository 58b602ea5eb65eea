import Mathlib.Logic.Function.Basic
import PolledTls.Error
import PolledTls.Proofs.Wording.Figures

/-!
What messages tell. No message begins as one of another kind does, and what follows the beginning
can be read back, so an error is known by its message alone.
-/
namespace PolledTls

/-- Words up to a space are the same if the texts are. -/
theorem word_unique {word other rest others : List Char} (spaceless : ' ' ∉ word)
    (unspaced : ' ' ∉ other) (same : word ++ ' ' :: rest = other ++ ' ' :: others) :
    word = other ∧ rest = others := by
  have letters {word : List Char} (spaceless : ' ' ∉ word) : ∀ c ∈ word, (c != ' ') = true :=
    fun c member => bne_iff_ne.mpr fun space => spaceless (space ▸ member)
  have space {rest : List Char} : ∀ c ∈ (' ' :: rest).head?, (c != ' ') = false := by
    intro c first
    cases first
    rfl
  obtain ⟨words, rests⟩ := cut_unique (letters spaceless) (letters unspaced) space space same
  exact ⟨words, (List.cons.inj rests).2⟩

/-- Words behind the last space are the same if the texts are. -/
theorem last_word_unique {word other front others : List Char} (spaceless : ' ' ∉ word)
    (unspaced : ' ' ∉ other) (same : front ++ ' ' :: word = others ++ ' ' :: other) :
    word = other ∧ front = others := by
  have reversed := congrArg List.reverse same
  rw [List.reverse_append, List.reverse_append, List.reverse_cons, List.reverse_cons,
    List.append_assoc, List.append_assoc] at reversed
  obtain ⟨words, fronts⟩ := word_unique (mt List.mem_reverse.mp spaceless)
    (mt List.mem_reverse.mp unspaced) reversed
  exact ⟨List.reverse_inj.mp words, List.reverse_inj.mp fronts⟩

theorem space_not_mem_toString (n : Nat) : ' ' ∉ (toString n).toList := by
  intro member
  cases isDigit_of_mem_toString member

namespace Status

theorem text_injective {a b : Status} (same : a.text.toList = b.text.toList) : a = b := by
  revert same
  cases a <;> cases b <;> decide +kernel

theorem space_not_mem_text (status : Status) : ' ' ∉ status.text.toList := by
  cases status <;> decide +kernel

end Status

namespace Error

variable {a b : Error}

/-- What a message begins with, whatever the error is about. -/
def heading : Error → String
  | .invalidArgument _ => "invalid argument: "
  | .invalidState .. => "invalid state: cannot "
  | .allocation _ => "allocation of "
  | .openTimeout .. => "open timed out in "
  | .sendTimeout .. => "send timed out after "
  | .dns _ => "dns error: "
  | .connect _ => "connect error: "
  | .tls _ => "tls error: "
  | .io _ => "io error: "

def headings : List String :=
  ["invalid argument: ", "invalid state: cannot ", "allocation of ", "open timed out in ",
    "send timed out after ", "dns error: ", "connect error: ", "tls error: ", "io error: "]

/-- What a message says behind its heading. -/
def details : Error → String
  | .invalidArgument reason | .dns reason | .connect reason | .tls reason | .io reason => reason
  | .invalidState status operation => operation ++ " while " ++ status.text
  | .allocation size => toString size ++ " bytes failed"
  | .openTimeout status elapsed => status.text ++ " after " ++ elapsed.text
  | .sendTimeout elapsed unsent =>
    elapsed.text ++ " with " ++ toString unsent ++ " bytes unsent"

theorem append_behind (front first second third : String) :
    front ++ first ++ second ++ third = front ++ (first ++ second ++ third) := by
  rw [String.append_assoc, String.append_assoc, String.append_assoc]

theorem message_eq (e : Error) : e.message = e.heading ++ e.details := by
  cases e with
  | allocation size => exact String.append_assoc
  | invalidState status operation => exact append_behind ..
  | openTimeout status elapsed => exact append_behind ..
  | sendTimeout elapsed unsent =>
      exact (congrArg (· ++ " bytes unsent") (append_behind ..)).trans String.append_assoc
  | _ => rfl

theorem heading_mem (e : Error) : e.heading ∈ headings := by
  cases e <;> simp [heading, headings]

theorem parts_of_message (same : a.message = b.message) :
    a.heading = b.heading ∧ a.details = b.details := by
  have incomparable : ∀ p ∈ headings, ∀ q ∈ headings, p.toList <+: q.toList → p = q := by
    decide +kernel
  have whole := congrArg String.toList same
  rw [message_eq, message_eq, String.toList_append, String.toList_append] at whole
  have front : a.heading.toList <+: b.heading.toList ++ b.details.toList :=
    whole ▸ List.prefix_append _ _
  have heads : a.heading = b.heading := by
    rcases List.prefix_or_prefix_of_prefix front (List.prefix_append _ _) with before | before
    · exact incomparable _ a.heading_mem _ b.heading_mem before
    · exact (incomparable _ b.heading_mem _ a.heading_mem before).symm
  rw [heads] at whole
  exact ⟨heads, String.toList_inj.mp (List.append_cancel_left whole)⟩

theorem invalidState_details {status state : Status} {operation word : String}
    (same : (invalidState status operation).details = (invalidState state word).details) :
    status = state ∧ operation = word := by
  have texts := congrArg String.toList same
  have parted : " while ".toList = " while".toList ++ [' '] := by decide
  -- an operation may hold any words, so the last space is the one to cut at
  simp only [details, String.toList_append, parted, List.append_assoc, List.singleton_append]
    at texts
  rw [← List.append_assoc, ← List.append_assoc] at texts
  obtain ⟨names, front⟩ := last_word_unique status.space_not_mem_text state.space_not_mem_text texts
  exact ⟨Status.text_injective names, String.toList_inj.mp (List.append_cancel_right front)⟩

theorem allocation_details {size room : Nat}
    (same : (allocation size).details = (allocation room).details) : size = room := by
  have texts := congrArg String.toList same
  have parted : " bytes failed".toList = ' ' :: "bytes failed".toList := by decide
  simp only [details, String.toList_append, parted] at texts
  exact toString_injective
    (word_unique (space_not_mem_toString size) (space_not_mem_toString room) texts).1

theorem openTimeout_details {status state : Status} {elapsed time : Duration}
    (same : (openTimeout status elapsed).details = (openTimeout state time).details) :
    status = state ∧ elapsed = time := by
  have texts := congrArg String.toList same
  have parted : " after ".toList = ' ' :: "after ".toList := by decide
  simp only [details, String.toList_append, parted, List.append_assoc, List.cons_append] at texts
  obtain ⟨names, rest⟩ := word_unique status.space_not_mem_text state.space_not_mem_text texts
  exact ⟨Status.text_injective names, Duration.text_injective (List.append_cancel_left rest)⟩

theorem sendTimeout_details {elapsed time : Duration} {unsent left : Nat}
    (same : (sendTimeout elapsed unsent).details = (sendTimeout time left).details) :
    elapsed = time ∧ unsent = left := by
  have texts := congrArg String.toList same
  have parted : " with ".toList = ' ' :: "with ".toList := by decide
  have ended : " bytes unsent".toList = ' ' :: "bytes unsent".toList := by decide
  simp only [details, String.toList_append, parted, ended, List.append_assoc, List.cons_append]
    at texts
  obtain ⟨durations, rest⟩ := word_unique (Duration.space_not_mem_text elapsed)
    (Duration.space_not_mem_text time) texts
  obtain ⟨numbers, -⟩ := word_unique (space_not_mem_toString unsent) (space_not_mem_toString left)
    (List.append_cancel_left rest)
  exact ⟨Duration.text_injective durations, toString_injective numbers⟩

theorem eq_of_parts (heads : a.heading = b.heading) (rests : a.details = b.details) : a = b := by
  cases a with
  | invalidArgument reason =>
      cases b with
      | invalidArgument other => exact congrArg invalidArgument rests
      | _ => simp [heading] at heads
  | invalidState status operation =>
      cases b with
      | invalidState state word =>
          obtain ⟨rfl, rfl⟩ := invalidState_details rests
          rfl
      | _ => simp [heading] at heads
  | allocation size =>
      cases b with
      | allocation room => exact congrArg allocation (allocation_details rests)
      | _ => simp [heading] at heads
  | openTimeout status elapsed =>
      cases b with
      | openTimeout state time =>
          obtain ⟨rfl, rfl⟩ := openTimeout_details rests
          rfl
      | _ => simp [heading] at heads
  | sendTimeout elapsed unsent =>
      cases b with
      | sendTimeout time left =>
          obtain ⟨rfl, rfl⟩ := sendTimeout_details rests
          rfl
      | _ => simp [heading] at heads
  | dns reason =>
      cases b with
      | dns other => exact congrArg dns rests
      | _ => simp [heading] at heads
  | connect reason =>
      cases b with
      | connect other => exact congrArg connect rests
      | _ => simp [heading] at heads
  | tls reason =>
      cases b with
      | tls other => exact congrArg tls rests
      | _ => simp [heading] at heads
  | io reason =>
      cases b with
      | io other => exact congrArg io rests
      | _ => simp [heading] at heads

theorem message_injective : Function.Injective message := by
  intro a b same
  obtain ⟨heads, rests⟩ := parts_of_message same
  exact eq_of_parts heads rests

end Error

/-- An error is known by its message, whatever operation, reason, number or duration it names. So it
is also known by what comes back if it goes by way of an I/O error, which keeps no more than a kind
and the message; and the kind is that of a timeout exactly for errors that may be tried again. -/
theorem messages_tell_errors_apart :
    Function.Injective Error.message ∧
      Function.Injective (fun e : Error => Error.ofIoError e.toIoError) ∧
      ∀ e : Error, e.toIoError.text = e.message ∧
        (e.toIoError.kind = .timedOut ↔ e.isRetryable = true) := by
  refine ⟨Error.message_injective, ?_, ?_⟩
  · intro a b same
    exact Error.message_injective (Error.io.inj same)
  · intro e
    refine ⟨rfl, ?_⟩
    cases e <;> simp [Error.toIoError, Error.ioKind, Error.isRetryable]

end PolledTls
