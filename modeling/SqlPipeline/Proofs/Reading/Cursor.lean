import Mathlib.Data.List.ReduceOption
import SqlPipeline.Statement.Cursor

/-!
Cursors under any sequence of calls.

A cursor is finished when it was closed or has seen an end. Main statement: up to that point a
cursor gives the answers of its stream one after the other, each of them mapped and an error as an
item among others; from there on it is closed, gives nothing and has no stream left to ask. What the
stream would answer to questions that are not asked has no effect.
-/

namespace SqlPipeline

namespace RowStream

variable (stream : RowStream)

/-- What the stream answers to a pull, the first being number 0: the mark of its end after the
last answer. -/
def answerAt (i : Nat) : StreamItem :=
  stream.answers[i]?.join

/-- The stream after so many pulls. -/
def after (count : Nat) : RowStream :=
  ⟨stream.answers.drop count⟩

/-- How the pulls went up to the first end of the stream. -/
def items : List (Outcome Row) :=
  (stream.answers.takeWhile Option.isSome).reduceOption

@[simp] theorem after_zero : stream.after 0 = stream := rfl

@[simp] theorem answerAt_after (count i : Nat) :
    (stream.after count).answerAt i = stream.answerAt (count + i) := by
  simp [answerAt, after]

@[simp] theorem after_after (count count' : Nat) :
    (stream.after count).after count' = stream.after (count + count') := by
  simp [after]

theorem pull_eq : stream.pull = (stream.answerAt 0, stream.after 1) := by
  rcases stream with ⟨_ | ⟨answer, rest⟩⟩ <;> rfl

theorem items_of_none (h : stream.answerAt 0 = none) : stream.items = [] := by
  rcases stream with ⟨_ | ⟨_ | item, rest⟩⟩
  · rfl
  · rfl
  · cases h

theorem items_of_some {item : Outcome Row} (h : stream.answerAt 0 = some item) :
    stream.items = item :: (stream.after 1).items := by
  rcases stream with ⟨_ | ⟨_ | item', rest⟩⟩
  · cases h
  · cases h
  · cases h
    simp [items, after]

end RowStream

namespace Cursor

variable {α : Type}

/-- A call of a cursor. An item is asked for directly, or by polling the cursor as a stream. -/
inductive Call
  | next
  | poll
  | close
  | isClosed
  deriving DecidableEq

/-- What a call of a cursor returns. -/
inductive Reply (α : Type)
  | item (answer : Option (Outcome α))
  | released
  | closed (isClosed : Bool)

namespace Call

/-- The call asks for an item. -/
def asks : Call → Bool
  | .next | .poll => true
  | _ => false

/-- What the call returns once the cursor is closed. -/
def replyWhenClosed : Call → Reply α
  | .next | .poll => .item none
  | .close => .released
  | .isClosed => .closed true

end Call

/-- The item that was returned, if there was one. -/
def Reply.item? : Reply α → Option (Outcome α)
  | .item answer => answer
  | _ => none

def reply (c : Cursor α) : Call → Reply α × Cursor α
  | .next | .poll => (.item c.next.1, c.next.2)
  | .close => (.released, c.close)
  | .isClosed => (.closed c.isClosed, c)

/-- What the calls return, one after the other. -/
def replies (c : Cursor α) : List Call → List (Reply α)
  | [] => []
  | call :: rest => (c.reply call).1 :: (c.reply call).2.replies rest

def afterCalls (c : Cursor α) : List Call → Cursor α
  | [] => c
  | call :: rest => (c.reply call).2.afterCalls rest

/-- How often an item is asked for. -/
def asked (calls : List Call) : Nat :=
  calls.countP Call.asks

/-- How often an item is asked for before the first close. -/
def askedOpen (calls : List Call) : Nat :=
  asked (calls.takeWhile (· ≠ .close))

/-- A cursor on the stream is finished by the calls: one of them closes it, or asks for an item and
gets the end. -/
def Finishes (stream : RowStream) (calls : List Call) : Prop :=
  .close ∈ calls ∨ ∃ i < asked calls, stream.answerAt i = none

/-- The items among the replies. -/
def returned (rs : List (Reply α)) : List (Outcome α) :=
  rs.filterMap Reply.item?

variable {stream : RowStream} {call : Call} {rest : List Call}

theorem asked_cons_of_asks (hcall : call.asks = true) : asked (call :: rest) = asked rest + 1 :=
  List.countP_cons_of_pos hcall

theorem asked_isClosed_cons : asked (.isClosed :: rest) = asked rest := rfl

theorem askedOpen_cons_of_asks (hcall : call.asks = true) :
    askedOpen (call :: rest) = askedOpen rest + 1 := by
  have hclose : call ≠ .close := by
    rintro rfl
    cases hcall
  rw [askedOpen, List.takeWhile_cons_of_pos (by simpa using hclose), asked_cons_of_asks hcall]
  rfl

theorem not_finishes_nil : ¬Finishes stream [] := by
  simp [Finishes, asked]

theorem finishes_cons_of_asks (hcall : call.asks = true) :
    Finishes stream (call :: rest) ↔
      stream.answerAt 0 = none ∨ Finishes (stream.after 1) rest := by
  have hclose : .close ∈ call :: rest ↔ .close ∈ rest := by
    cases call <;> simp [Call.asks] at hcall ⊢
  rw [Finishes, Finishes, hclose, asked_cons_of_asks hcall]
  constructor
  · rintro (hmem | ⟨_ | i, hi, hend⟩)
    · exact .inr (.inl hmem)
    · exact .inl hend
    · exact .inr (.inr ⟨i, by omega, by simpa [Nat.add_comm] using hend⟩)
  · rintro (hend | hmem | ⟨i, hi, hend⟩)
    · exact .inr ⟨0, by omega, hend⟩
    · exact .inl hmem
    · exact .inr ⟨i + 1, by omega, by simpa [Nat.add_comm] using hend⟩

theorem finishes_close_cons : Finishes stream (.close :: rest) :=
  .inl List.mem_cons_self

theorem finishes_isClosed_cons :
    Finishes stream (.isClosed :: rest) ↔ Finishes stream rest := by
  simp [Finishes, asked_isClosed_cons]

variable {decode : Row.Decoder α}

theorem reply_on_of_none (hcall : call.asks = true) (h : stream.answerAt 0 = none) :
    (on decode stream).reply call = (.item none, ⟨none, decode⟩) := by
  have hnext : (on decode stream).next = (none, ⟨none, decode⟩) := by
    simp [on, next, close, stream.pull_eq, h]
  cases call with
  | next | poll => rw [reply, hnext]
  | close | isClosed => cases hcall

theorem reply_on_of_some (hcall : call.asks = true) {item : Outcome Row}
    (h : stream.answerAt 0 = some item) :
    (on decode stream).reply call =
      (.item (some (item.andThen decode)), on decode (stream.after 1)) := by
  have hnext : (on decode stream).next =
      (some (item.andThen decode), on decode (stream.after 1)) := by
    simp [on, next, stream.pull_eq, h]
  cases call with
  | next | poll => rw [reply, hnext]
  | close | isClosed => cases hcall

/-- A closed cursor replies to every call and stays as it is. -/
theorem reply_closed (decode : Row.Decoder α) (call : Call) :
    (⟨none, decode⟩ : Cursor α).reply call = (call.replyWhenClosed, ⟨none, decode⟩) := by
  cases call <;> rfl

theorem replies_closed (decode : Row.Decoder α) (calls : List Call) :
    (⟨none, decode⟩ : Cursor α).replies calls = calls.map Call.replyWhenClosed := by
  induction calls with
  | nil => rfl
  | cons call rest ih => rw [replies, reply_closed, ih, List.map_cons]

theorem afterCalls_closed (decode : Row.Decoder α) (calls : List Call) :
    (⟨none, decode⟩ : Cursor α).afterCalls calls = ⟨none, decode⟩ := by
  induction calls with
  | nil => rfl
  | cons call rest ih => rw [afterCalls, reply_closed, ih]

theorem returned_replies_closed (decode : Row.Decoder α) (calls : List Call) :
    returned ((⟨none, decode⟩ : Cursor α).replies calls) = [] := by
  rw [replies_closed, returned, List.filterMap_map, List.filterMap_eq_nil_iff]
  intro call _
  cases call <;> rfl

/-- After some calls a cursor has no stream if they finish it, and else the stream behind the
answers that were asked for. -/
theorem afterCalls_on (decode : Row.Decoder α) (stream : RowStream) (calls : List Call) :
    (Finishes stream calls → (on decode stream).afterCalls calls = ⟨none, decode⟩) ∧
      (¬Finishes stream calls →
        (on decode stream).afterCalls calls = on decode (stream.after (asked calls))) := by
  induction calls generalizing stream with
  | nil => exact ⟨fun h => absurd h not_finishes_nil, fun _ => rfl⟩
  | cons call rest ih =>
      by_cases hcall : call.asks = true
      · rw [finishes_cons_of_asks hcall, asked_cons_of_asks hcall, afterCalls]
        cases hanswer : stream.answerAt 0 with
        | none =>
            rw [reply_on_of_none hcall hanswer]
            exact ⟨fun _ => afterCalls_closed decode rest, fun h => absurd (.inl rfl) h⟩
        | some item =>
            obtain ⟨hfinished, hopen⟩ := ih (stream.after 1)
            rw [stream.after_after, Nat.add_comm] at hopen
            rw [reply_on_of_some hcall hanswer]
            simpa using And.intro hfinished hopen
      · cases call with
        | next | poll => exact absurd rfl hcall
        | close =>
            exact ⟨fun _ => afterCalls_closed decode rest, fun h => absurd finishes_close_cons h⟩
        | isClosed =>
            rw [finishes_isClosed_cons, asked_isClosed_cons]
            exact ih stream

/-- The items that are returned are those of the stream, mapped, as many as were asked for. -/
theorem returned_replies_on (decode : Row.Decoder α) (stream : RowStream) (calls : List Call) :
    returned ((on decode stream).replies calls) =
      (stream.items.map (·.andThen decode)).take (askedOpen calls) := by
  induction calls generalizing stream with
  | nil => simp [returned, replies, askedOpen, asked]
  | cons call rest ih =>
      by_cases hcall : call.asks = true
      · rw [askedOpen_cons_of_asks hcall, replies]
        cases hanswer : stream.answerAt 0 with
        | none =>
            rw [reply_on_of_none hcall hanswer, stream.items_of_none hanswer]
            exact returned_replies_closed decode rest
        | some item =>
            rw [reply_on_of_some hcall hanswer, stream.items_of_some hanswer, List.map_cons,
              List.take_succ_cons, ← ih (stream.after 1)]
            rfl
      · cases call with
        | next | poll => exact absurd rfl hcall
        | close => exact returned_replies_closed decode rest
        | isClosed => exact ih stream

/-- The replies depend on the answers that are asked for, and on no other answer of the stream. -/
theorem replies_on_congr (decode : Row.Decoder α) {stream stream' : RowStream} {calls : List Call}
    (h : ∀ i < askedOpen calls, (∀ j < i, stream.answerAt j ≠ none) →
      stream'.answerAt i = stream.answerAt i) :
    (on decode stream').replies calls = (on decode stream).replies calls := by
  induction calls generalizing stream stream' with
  | nil => rfl
  | cons call rest ih =>
      by_cases hcall : call.asks = true
      · rw [askedOpen_cons_of_asks hcall] at h
        have hfirst : stream'.answerAt 0 = stream.answerAt 0 := h 0 (by omega) (by omega)
        rw [replies, replies]
        cases hanswer : stream.answerAt 0 with
        | none =>
            rw [hanswer] at hfirst
            rw [reply_on_of_none hcall hanswer, reply_on_of_none hcall hfirst]
        | some item =>
            rw [hanswer] at hfirst
            rw [reply_on_of_some hcall hanswer, reply_on_of_some hcall hfirst]
            refine congrArg _ (ih ?_)
            intro i hi hsome
            rw [RowStream.answerAt_after, RowStream.answerAt_after, Nat.add_comm]
            apply h (i + 1) (by omega)
            intro j hj
            cases j with
            | zero => simp [hanswer]
            | succ j => simpa [Nat.add_comm] using hsome j (by omega)
      · cases call with
        | next | poll => exact absurd rfl hcall
        | close => rfl
        | isClosed => exact congrArg _ (ih h)

/-- Under any sequence of calls a cursor gives the items of its stream, mapped, in order, and each
once, up to the first close or the first end. From there on, and not before, it is closed: it has no
stream that it could ask, and gives nothing. Before, each call that asks for an item gets the next
answer of the stream; an error, of the stream or of the mapping, is an item and closes nothing, and
neither does a panic.
Answers that are not asked for make no difference, so that a stream may go on without an end, or
after one. -/
theorem single_pass (decode : Row.Decoder α) (stream : RowStream) (calls : List Call) :
    returned ((on decode stream).replies calls) =
      (stream.items.map (·.andThen decode)).take (askedOpen calls) ∧
    (((on decode stream).afterCalls calls).isClosed = true ↔ Finishes stream calls) ∧
    (Finishes stream calls → ((on decode stream).afterCalls calls).stream = none ∧
      ∀ later, ((on decode stream).afterCalls calls).replies later =
        later.map Call.replyWhenClosed) ∧
    (¬Finishes stream calls → ∀ call : Call, call.asks = true →
      (∀ item, stream.answerAt (asked calls) = some item →
        ((on decode stream).afterCalls calls).reply call =
          (.item (some (item.andThen decode)), on decode (stream.after (asked calls + 1)))) ∧
      (stream.answerAt (asked calls) = none →
        ((on decode stream).afterCalls calls).reply call = (.item none, ⟨none, decode⟩))) ∧
    ∀ stream' : RowStream, (∀ i < askedOpen calls, (∀ j < i, stream.answerAt j ≠ none) →
        stream'.answerAt i = stream.answerAt i) →
      (on decode stream').replies calls = (on decode stream).replies calls := by
  obtain ⟨hfinished, hopen⟩ := afterCalls_on decode stream calls
  refine ⟨returned_replies_on decode stream calls, ?_, ?_, ?_, fun _ => replies_on_congr decode⟩
  · by_cases h : Finishes stream calls
    · simp [h, hfinished h, isClosed]
    · rw [hopen h]
      simp [h, isClosed, on]
  · intro h
    rw [hfinished h]
    exact ⟨rfl, replies_closed decode⟩
  · intro h call hcall
    rw [hopen h]
    constructor
    · intro item hitem
      rw [← stream.after_after]
      exact reply_on_of_some hcall (by simpa using hitem)
    · intro hend
      exact reply_on_of_none hcall (by simpa using hend)

namespace CursorWitness

/-- A stream with an error between its rows, and with a row after its end. -/
def resuming : RowStream :=
  ⟨[some (.ok ⟨["id"], [.int 1]⟩), some (.error (.driver "broken")), some (.ok ⟨["id"], [.null]⟩),
    none, some (.ok ⟨["id"], [.int 2]⟩)]⟩

def readId : Row.Decoder Int64 := fun row => row.getAt Value.readInt64 0

/-- Calls that get the end with the last but one of them. -/
def untilEnd : List Call := [.next, .poll, .isClosed, .poll, .next, .isClosed]

end CursorWitness

open CursorWitness in
theorem single_pass_resuming :
    ¬Finishes resuming [.next] ∧
    ((on readId resuming).afterCalls [.next]).reply .poll =
      (.item (some (.error (.driver "broken"))), on readId (resuming.after 2)) ∧
    Finishes resuming untilEnd ∧
    returned ((on readId resuming).replies untilEnd) =
      [.ok 1, .error (.driver "broken"), .error (.decode "0" (.mismatch "int" .null))] ∧
    ((on readId resuming).afterCalls untilEnd).isClosed = true ∧
    ((on readId resuming).afterCalls untilEnd).replies [.next, .close, .poll] =
      [.item none, .released, .item none] := by
  have hopen : ¬Finishes resuming [.next] := by
    simp [Finishes, asked, Call.asks, RowStream.answerAt, resuming]
  have hend : Finishes resuming untilEnd := .inr ⟨3, by decide, rfl⟩
  obtain ⟨-, -, -, hstep, -⟩ := single_pass readId resuming [.next]
  obtain ⟨hitems, hclosed, hfinished, -, -⟩ := single_pass readId resuming untilEnd
  exact ⟨hopen, (hstep hopen .poll rfl).1 (.error (.driver "broken")) rfl, hend, hitems,
    hclosed.2 hend, (hfinished hend).2 [.next, .close, .poll]⟩

end Cursor

end SqlPipeline
