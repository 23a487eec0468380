import SqlPipeline.Proofs.Reading.Cursor
import SqlPipeline.Proofs.Session.Log
import SqlPipeline.Statement.Execute

/-!
Reading many rows.

The rows of a statement can be had as a list, visited by a callback, or pulled through a cursor.
Main statement: against a session whose streams are its queries, buffered, the three ways make the
same call and deliver the same items in the same order and with the same indices. An item that
cannot be mapped ends a list and the visits with its error, and is an item of the cursor at the same
place; a callback that says to stop is not called again, whatever rows are left.
-/

namespace SqlPipeline

variable {μ σ α β γ : Type}

namespace Row.Decoder

/-- The rows are mapped to the items, each row to its own. -/
abbrev MapsAll (decode : Decoder α) : List Row → List α → Prop :=
  List.Forall₂ fun row x => decode row = .ok x

variable {decode : Decoder α} {before after : List Row} {row : Row} {xs : List α} {e : Error}

theorem mapM_of_mapsAll (h : decode.MapsAll before xs) : before.mapM decode = .ok xs := by
  induction h with
  | nil => rfl
  | cons hx _ ih => simp [List.mapM_cons, hx, ih, bind, Except.bind, pure, Except.pure]

theorem mapM_of_fails (h : decode.MapsAll before xs) (hrow : decode row = .error e) :
    (before ++ row :: after).mapM decode = .error e := by
  rw [List.mapM_append, mapM_of_mapsAll h, List.mapM_cons, hrow]
  rfl

/-- Either all rows are mapped, or there is a first row that is not. -/
theorem mapsAll_or_fails (decode : Decoder α) (rows : List Row) :
    (∃ xs, decode.MapsAll rows xs) ∨
      ∃ before row after xs e, rows = before ++ row :: after ∧ decode.MapsAll before xs ∧
        decode row = .error e := by
  induction rows with
  | nil => exact .inl ⟨[], .nil⟩
  | cons row rest ih =>
      cases hrow : decode row with
      | error e => exact .inr ⟨[], row, rest, [], e, rfl, .nil, hrow⟩
      | ok x =>
          obtain ⟨xs, hxs⟩ | ⟨before, failing, after, xs, e, rfl, hxs, hfails⟩ := ih
          · exact .inl ⟨x :: xs, .cons hrow hxs⟩
          · exact .inr ⟨row :: before, failing, after, x :: xs, e, rfl, .cons hrow hxs, hfails⟩

theorem mapM_eq_ok_iff {rows : List Row} : rows.mapM decode = .ok xs ↔ decode.MapsAll rows xs := by
  refine ⟨?_, mapM_of_mapsAll⟩
  intro hxs
  obtain ⟨ys, hys⟩ | ⟨before, row, after, ys, e, rfl, hys, hrow⟩ := decode.mapsAll_or_fails rows
  · rw [mapM_of_mapsAll hys] at hxs
    cases hxs
    exact hys
  · rw [mapM_of_fails hys hrow] at hxs
    cases hxs

end Row.Decoder

namespace Cursor

/-- Asked for items one after the other, the cursor gives these answers. -/
def Gives (c : Cursor α) (answers : List (Option (Outcome α))) : Prop :=
  c.replies (List.replicate answers.length .next) = answers.map Reply.item

/-- The answers of a cursor that gives the items and then no more. -/
def allOf (xs : List α) : List (Option (Outcome α)) :=
  xs.map (fun x => some (.ok x)) ++ [none]

/-- The answers of a cursor that gives the items and then an error. -/
def failingAfter (xs : List α) (e : Error) : List (Option (Outcome α)) :=
  xs.map (fun x => some (.ok x)) ++ [some (.error e)]

variable {decode : Row.Decoder α} {row : Row} {before rest : List Row} {xs : List α}
  {answer : Option (Outcome α)} {answers : List (Option (Outcome α))}

theorem gives_ofRows_nil : (on decode (.ofRows [])).Gives (answer :: answers) ↔
    answer = none ∧ (⟨none, decode⟩ : Cursor α).Gives answers := by
  have hend : (RowStream.ofRows []).answerAt 0 = none := rfl
  rw [Gives, List.length_cons, List.replicate_succ, replies, reply_on_of_none rfl hend,
    List.map_cons, List.cons.injEq, Reply.item.injEq, eq_comm, Gives]

theorem gives_ofRows_cons : (on decode (.ofRows (row :: rest))).Gives (answer :: answers) ↔
    answer = some (.ofExcept (decode row)) ∧ (on decode (.ofRows rest)).Gives answers := by
  have hfirst : (RowStream.ofRows (row :: rest)).answerAt 0 = some (.ok row) := rfl
  rw [Gives, List.length_cons, List.replicate_succ, replies, reply_on_of_some rfl hfirst,
    List.map_cons, List.cons.injEq, Reply.item.injEq, eq_comm, Gives]
  rfl

theorem gives_nil (c : Cursor α) : c.Gives [] := rfl

/-- A cursor gives the items of the rows that are mapped, and then what it gives for the others. -/
theorem gives_append (h : decode.MapsAll before xs) :
    (on decode (.ofRows (before ++ rest))).Gives (xs.map (fun x => some (.ok x)) ++ answers) ↔
      (on decode (.ofRows rest)).Gives answers := by
  induction h with
  | nil => rfl
  | cons hx _ ih =>
      rw [List.cons_append, List.map_cons, List.cons_append, gives_ofRows_cons, hx, ih]
      exact and_iff_right rfl

theorem gives_failingAfter {e : Error} (h : decode.MapsAll before xs)
    (hrow : decode row = .error e) :
    (on decode (.ofRows (before ++ row :: rest))).Gives (failingAfter xs e) := by
  rw [failingAfter, gives_append h, gives_ofRows_cons, hrow]
  exact ⟨rfl, gives_nil _⟩

/-- A cursor gives the items and then no more just when they are what its rows are mapped to. -/
theorem gives_allOf_iff {rows : List Row} :
    (on decode (.ofRows rows)).Gives (allOf xs) ↔ decode.MapsAll rows xs := by
  constructor
  · intro h
    induction rows generalizing xs with
    | nil =>
        cases xs with
        | nil => exact .nil
        | cons x xs => cases (gives_ofRows_nil.1 h).1
    | cons row rest ih =>
        cases xs with
        | nil => cases (gives_ofRows_cons.1 h).1
        | cons x xs =>
            obtain ⟨hx, hxs⟩ := gives_ofRows_cons.1 h
            exact .cons (Outcome.ofExcept_eq_ok_iff.1 (Option.some.inj hx).symm) (ih hxs)
  · intro h
    have hend : (on decode (.ofRows [])).Gives [none] := gives_ofRows_nil.2 ⟨rfl, gives_nil _⟩
    simpa [allOf] using (gives_append h).2 hend

end Cursor

namespace Statement

/-- Visits of the items, the first of which has the index, lead from one state to the other, and
none of them says to stop. -/
inductive GoesOn (visit : Nat → α → β → β × Bool) : Nat → List α → β → β → Prop
  | nil {index : Nat} {b : β} : GoesOn visit index [] b b
  | cons {index : Nat} {x : α} {xs : List α} {b b' b'' : β} (hx : visit index x b = (b', false))
      (hxs : GoesOn visit (index + 1) xs b' b'') : GoesOn visit index (x :: xs) b b''

/-- The visit, with a note of each item that it is called with and its index. -/
def watched (visit : Nat → α → β → β × Bool) (index : Nat) (x : α) (noted : β × List (α × Nat)) :
    (β × List (α × Nat)) × Bool :=
  (((visit index x noted.1).1, noted.2 ++ [(x, index)]), (visit index x noted.1).2)

variable {decode : Row.Decoder α} {visit : Nat → α → β → β × Bool} {index : Nat}
  {before rest : List Row} {row : Row} {x : α} {xs : List α} {b b' b'' : β}
  {calls : List (α × Nat)} {e : Error}

/-- A visit that never says to stop goes on over any items. -/
theorem exists_goesOn (hvisit : ∀ index x b, (visit index x b).2 = false) (index : Nat)
    (xs : List α) (b : β) : ∃ b', GoesOn visit index xs b b' := by
  induction xs generalizing index b with
  | nil => exact ⟨b, .nil⟩
  | cons x xs ih =>
      obtain ⟨b', hxs⟩ := ih (index + 1) (visit index x b).1
      exact ⟨b', .cons (Prod.ext rfl (hvisit index x b)) hxs⟩

theorem GoesOn.watched (h : GoesOn visit index xs b b') :
    GoesOn (watched visit) index xs (b, calls) (b', calls ++ xs.zipIdx index) := by
  induction h generalizing calls with
  | nil =>
      rw [List.zipIdx_nil, List.append_nil]
      exact .nil
  | cons hx _ ih =>
      rw [List.zipIdx_cons, List.append_cons]
      exact .cons (by rw [Statement.watched, hx]) ih

/-- The rows that are mapped are visited, as long as no visit says to stop. -/
theorem visitAnswers_append (hmaps : decode.MapsAll before xs)
    (hgoes : GoesOn visit index xs b b') :
    visitAnswers decode visit index (RowStream.ofRows (before ++ rest)).answers b =
      visitAnswers decode visit (index + xs.length) (RowStream.ofRows rest).answers b' := by
  induction hmaps generalizing index b with
  | nil =>
      cases hgoes
      rfl
  | cons hrow _ ih =>
      cases hgoes with
      | cons hx hxs =>
          rw [List.length_cons, Nat.add_comm _ 1, ← Nat.add_assoc, ← ih hxs]
          simp [RowStream.ofRows, visitAnswers, Outcome.ofExcept, hrow, hx]

theorem visitAnswers_of_mapsAll (hmaps : decode.MapsAll before xs)
    (hgoes : GoesOn visit index xs b b') :
    visitAnswers decode visit index (RowStream.ofRows before).answers b = .ok (b', .ok ()) := by
  have hrows : visitAnswers decode visit index (RowStream.ofRows (before ++ [])).answers b =
      .ok (b', .ok ()) := visitAnswers_append hmaps hgoes
  rwa [List.append_nil] at hrows

theorem visitAnswers_of_fails (hmaps : decode.MapsAll before xs) (hrow : decode row = .error e)
    (hgoes : GoesOn visit index xs b b') :
    visitAnswers decode visit index (RowStream.ofRows (before ++ row :: rest)).answers b =
      .ok (b', .error e) := by
  rw [visitAnswers_append hmaps hgoes]
  simp [RowStream.ofRows, visitAnswers, Outcome.ofExcept, hrow]

/-- Rows after the one at which a visit says to stop make no difference. -/
theorem visitAnswers_of_stops (hmaps : decode.MapsAll before xs) (hrow : decode row = .ok x)
    (hgoes : GoesOn visit index xs b b') (hstop : visit (index + xs.length) x b' = (b'', true)) :
    visitAnswers decode visit index (RowStream.ofRows (before ++ row :: rest)).answers b =
      .ok (b'', .ok ()) := by
  rw [visitAnswers_append hmaps hgoes]
  simp [RowStream.ofRows, visitAnswers, Outcome.ofExcept, hrow, hstop]

/-- A callback that never says to stop is called for the items of all rows just when all are
mapped. -/
theorem visitAnswers_watched_iff (hvisit : ∀ index x b, (visit index x b).2 = false)
    {rows : List Row} :
    (∃ b', visitAnswers decode (watched visit) 0 (RowStream.ofRows rows).answers (b, []) =
      .ok ((b', xs.zipIdx), .ok ())) ↔ decode.MapsAll rows xs := by
  constructor
  · rintro ⟨b', hvisited⟩
    -- All rows are mapped, or the visits have ended with the error of one that is not.
    obtain ⟨ys, hys⟩ | ⟨before, row, after, ys, e, rfl, hys, hrow⟩ := decode.mapsAll_or_fails rows
    · obtain ⟨b'', hgoes⟩ := exists_goesOn hvisit 0 ys b
      rw [visitAnswers_of_mapsAll hys hgoes.watched] at hvisited
      have hindexed : ys.zipIdx = xs.zipIdx := by
        simpa using congrArg (·.1.2) (Outcome.ok.inj hvisited)
      have hitems : ys = xs := by simpa using congrArg (List.map Prod.fst) hindexed
      exact hitems ▸ hys
    · obtain ⟨b'', hgoes⟩ := exists_goesOn hvisit 0 ys b
      rw [visitAnswers_of_fails hys hrow hgoes.watched] at hvisited
      cases congrArg Prod.snd (Outcome.ok.inj hvisited)
  · intro hxs
    obtain ⟨b', hgoes⟩ := exists_goesOn hvisit 0 xs b
    exact ⟨b', by rw [visitAnswers_of_mapsAll hxs hgoes.watched, List.nil_append]⟩

/-- Noting the calls changes nothing else. -/
theorem visitAnswers_watched (decode : Row.Decoder α) (visit : Nat → α → β → β × Bool)
    (index : Nat) (answers : List StreamItem) (b : β) (calls : List (α × Nat)) :
    visitAnswers decode visit index answers b =
      (visitAnswers decode (watched visit) index answers (b, calls)).map
        (Prod.map Prod.fst id) := by
  induction answers generalizing index b calls with
  | nil => rfl
  | cons answer rest ih =>
      cases answer with
      | none => rfl
      | some item =>
          rw [visitAnswers, visitAnswers]
          cases item.andThen decode with
          | panic p => rfl
          | error e => rfl
          | ok x =>
              cases hstop : (visit index x b).2 with
              | true => simp [watched, hstop, Outcome.map]
              | false => simpa [watched, hstop] using ih _ _ _

variable (observe : μ → σ → σ) (session : Session σ) (s : Statement)

/-- What visits make of a state, if there are rows to visit. -/
def visitRows (decode : Row.Decoder α) (visit : Nat → α → β → β × Bool) (b : β) :
    Except Error (List Row) → Outcome (β × Except Error Unit)
  | .ok rows => visitAnswers decode visit 0 (RowStream.ofRows rows).answers b
  | .error e => .ok (b, .error e)

/-- A list is the rows of the query, each of them mapped. -/
theorem run_list (decode : Row.Decoder α) :
    (s.list decode).run observe session =
      (s.listRows.run observe session).bind fun rows => Action.ofExcept (rows.mapM decode) := by
  simp only [← Program.run_ofExcept observe session]
  exact Program.run_bind observe session s.listRows _

/-- A buffered session opens a cursor on the rows of the query. -/
theorem run_cursor (decode : Row.Decoder α) :
    (s.cursor decode).run observe session.buffered =
      (s.listRows.run observe session.buffered).bind fun rows =>
        Action.pure (.on decode (.ofRows rows)) := by
  rw [cursor, run_compiled, listRows, run_queryCompiled]
  cases s.compileSelect session.buffered.dialect with
  | error e => rfl
  | ok compiled =>
      have hstream := Program.run_bind observe session.buffered
        (Program.rowStream compiled.sql compiled.values) fun stream =>
          Program.done (Cursor.on decode stream)
      rw [Program.run_rowStream] at hstream
      exact hstream.trans (Action.bind_assoc _ _ _)

/-- A buffered session visits the rows of the query. -/
theorem run_iterate (decode : Row.Decoder α) (visit : Nat → α → β → β × Bool) (b : β) :
    (s.iterate decode visit b).run observe session.buffered =
      (s.listRows.run observe session.buffered).attempt.bind fun result =>
        Action.ofOutcome (visitRows decode visit b result) := by
  rw [iterate, Program.run_askDialect_bind, listRows, run_queryCompiled]
  cases s.compileSelect session.buffered.dialect with
  | error e => rfl
  | ok compiled =>
      funext state
      change
        Program.afterCall (Action.bind (session.query compiled.sql compiled.values) _) _ state =
          Action.bind (Action.attempt (session.query compiled.sql compiled.values)) _ state
      rw [Program.afterCall, Action.bind, Action.bind, Action.attempt]
      -- An error of the query is an end of the visits, not of the program.
      rcases session.query compiled.sql compiled.values state with ⟨rows | e | p, state'⟩
      · exact congrFun (Program.run_ofOutcome observe session.buffered _) state'
      · rfl
      · rfl

variable (state : σ)

/-- The call of a statement that is read: its query, or none if it does not compile. -/
def queryCalls (d : Dialect) : List Call :=
  match s.compileSelect d with
  | .ok compiled => [.query compiled.sql compiled.values]
  | .error _ => []

/-- The calls that a program makes of a session through its buffered form. -/
def bufferedCalls (p : Program μ γ) : List Call :=
  (p.run (noted observe) session.logged.buffered ⟨state, []⟩).2.entries.map Event.call

/-- The rows that the query of the statement answers. -/
def fetched : Outcome (List Row) :=
  (s.listRows.run observe session.buffered state).1

def listed (decode : Row.Decoder α) : Outcome (List α) :=
  ((s.list decode).run observe session.buffered state).1

def opened (decode : Row.Decoder α) : Outcome (Cursor α) :=
  ((s.cursor decode).run observe session.buffered state).1

def iterated (decode : Row.Decoder α) (visit : Nat → α → β → β × Bool) (b : β) :
    Outcome (β × Except Error Unit) :=
  ((s.iterate decode visit b).run observe session.buffered state).1

/-- A program that leaves what the query leaves has made the call of the query. -/
theorem bufferedCalls_of_state {p : Program μ γ} (hp : ∀ r,
      (p.run (noted observe) session.logged.buffered r).2 =
        (s.listRows.run (noted observe) session.logged.buffered r).2) :
    bufferedCalls observe session state p = s.queryCalls session.dialect := by
  have hdialect : session.logged.buffered.dialect = session.dialect := rfl
  rw [bufferedCalls, hp, listRows, run_queryCompiled, queryCalls, hdialect]
  cases s.compileSelect session.dialect <;> rfl

/-- The three ways to read many rows make the call of the query. -/
theorem bufferedCalls_reads (decode : Row.Decoder α) (visit : Nat → α → β → β × Bool) (b : β) :
    bufferedCalls observe session state (s.list decode) = s.queryCalls session.dialect ∧
      bufferedCalls observe session state (s.cursor decode) = s.queryCalls session.dialect ∧
      bufferedCalls observe session state (s.iterate decode visit b) =
        s.queryCalls session.dialect := by
  refine ⟨bufferedCalls_of_state observe session s state ?_,
    bufferedCalls_of_state observe session s state ?_,
    bufferedCalls_of_state observe session s state ?_⟩
  · intro r
    rw [run_list]
    exact Action.bind_snd_of_read _ _ (fun _ _ => rfl) r
  · intro r
    rw [run_cursor]
    exact Action.bind_snd_of_read _ _ (fun _ _ => rfl) r
  · intro r
    rw [run_iterate, Action.bind_snd_of_read _ _ (fun _ _ => rfl), Action.attempt_snd]

theorem listed_eq (decode : Row.Decoder α) :
    s.listed observe session state decode =
      match s.fetched observe session state with
      | .ok rows => Outcome.ofExcept (rows.mapM decode)
      | .error e => .error e
      | .panic p => .panic p := by
  rw [listed, run_list, fetched, Action.bind]
  rcases s.listRows.run observe session.buffered state with ⟨rows | e | p, state'⟩ <;> rfl

theorem opened_eq (decode : Row.Decoder α) :
    s.opened observe session state decode =
      (s.fetched observe session state).map fun rows => .on decode (.ofRows rows) := by
  rw [opened, run_cursor, fetched, Action.bind]
  rcases s.listRows.run observe session.buffered state with ⟨rows | e | p, state'⟩ <;> rfl

theorem iterated_eq (decode : Row.Decoder α) (visit : Nat → α → β → β × Bool) (b : β) :
    s.iterated observe session state decode visit b =
      match s.fetched observe session state with
      | .ok rows => visitAnswers decode visit 0 (RowStream.ofRows rows).answers b
      | .error e => .ok (b, .error e)
      | .panic p => .panic p := by
  rw [iterated, run_iterate, fetched, Action.bind, Action.attempt]
  rcases s.listRows.run observe session.buffered state with ⟨rows | e | p, state'⟩ <;> rfl

theorem listed_eq_ok_iff : s.listed observe session state decode = .ok xs ↔
    ∃ rows, s.fetched observe session state = .ok rows ∧ decode.MapsAll rows xs := by
  rw [listed_eq]
  simp only [← Row.Decoder.mapM_eq_ok_iff]
  cases s.fetched observe session state with
  | error e => simp
  | panic p => simp
  | ok rows => cases hxs : rows.mapM decode <;> simp [hxs, Outcome.ofExcept]

theorem opened_gives_iff {answers : List (Option (Outcome α))} :
    (∃ c, s.opened observe session state decode = .ok c ∧ c.Gives answers) ↔
      ∃ rows, s.fetched observe session state = .ok rows ∧
        (Cursor.on decode (.ofRows rows)).Gives answers := by
  rw [opened_eq]
  cases s.fetched observe session state <;> simp [Outcome.map]

theorem iterated_watched_iff (hvisit : ∀ index x b, (visit index x b).2 = false) :
    (∃ b', s.iterated observe session state decode (watched visit) (b, []) =
      .ok ((b', xs.zipIdx), .ok ())) ↔
    ∃ rows, s.fetched observe session state = .ok rows ∧ decode.MapsAll rows xs := by
  rw [iterated_eq]
  simp only [← visitAnswers_watched_iff (b := b) hvisit]
  cases s.fetched observe session state <;> simp

/-- At the first row that cannot be mapped, all three ways give its error behind the same items. -/
theorem reads_of_fails (hfetched : s.fetched observe session state = .ok (before ++ row :: rest))
    (hxs : decode.MapsAll before xs) (hrow : decode row = .error e) :
    s.listed observe session state decode = .error e ∧
      (∃ c, s.opened observe session state decode = .ok c ∧ c.Gives (Cursor.failingAfter xs e)) ∧
      ∀ b', GoesOn visit 0 xs b b' →
        s.iterated observe session state decode (watched visit) (b, []) =
          .ok ((b', xs.zipIdx), .error e) := by
  refine ⟨?_, ?_, ?_⟩
  · rw [listed_eq, hfetched]
    exact congrArg Outcome.ofExcept (Row.Decoder.mapM_of_fails hxs hrow)
  · rw [opened_gives_iff]
    exact ⟨_, hfetched, Cursor.gives_failingAfter hxs hrow⟩
  · intro b' hgoes
    rw [iterated_eq, hfetched]
    exact visitAnswers_of_fails hxs hrow hgoes.watched

/-- A callback that says to stop has been called up to there, and the rows after make no
difference. -/
theorem iterated_of_stops (hfetched : s.fetched observe session state = .ok (before ++ row :: rest))
    (hxs : decode.MapsAll before xs) (hrow : decode row = .ok x) (hgoes : GoesOn visit 0 xs b b')
    (hstop : visit xs.length x b' = (b'', true)) :
    s.iterated observe session state decode (watched visit) (b, []) =
      .ok ((b'', (xs ++ [x]).zipIdx), .ok ()) := by
  have hnoted : watched visit (0 + xs.length) x (b', [] ++ xs.zipIdx) =
      ((b'', (xs ++ [x]).zipIdx), true) := by
    simp [watched, hstop, List.zipIdx_append]
  rw [iterated_eq, hfetched]
  exact visitAnswers_of_stops hxs hrow hgoes.watched hnoted

/-- The noting of its calls makes no difference to a callback. -/
theorem iterated_eq_watched (decode : Row.Decoder α) (visit : Nat → α → β → β × Bool) (b : β) :
    s.iterated observe session state decode visit b =
      (s.iterated observe session state decode (watched visit) (b, [])).map
        (Prod.map Prod.fst id) := by
  rw [iterated_eq, iterated_eq]
  cases s.fetched observe session state with
  | ok rows => exact visitAnswers_watched decode visit 0 _ b []
  | error e => rfl
  | panic p => rfl

/-- The three ways to read many rows agree. They make the same call, and what they deliver is the
same: a list answers the items just when a cursor gives them and no more, and just when a callback
that never says to stop is called with each of them and its index. The first row that cannot be
mapped fails the list, is an error of the cursor after the items before it, and ends the visits
after those items. A callback that says to stop has been called up to there, whatever rows come
after, and the noting of its calls makes no difference to it. -/
theorem reads_agree (observe : μ → σ → σ) (session : Session σ) (state : σ) (s : Statement)
    (decode : Row.Decoder α) (visit : Nat → α → β → β × Bool) (b : β) :
    (bufferedCalls observe session state (s.list decode) = s.queryCalls session.dialect ∧
      bufferedCalls observe session state (s.cursor decode) = s.queryCalls session.dialect ∧
      bufferedCalls observe session state (s.iterate decode visit b) =
        s.queryCalls session.dialect) ∧
    (∀ xs, s.listed observe session state decode = .ok xs ↔
      ∃ c, s.opened observe session state decode = .ok c ∧ c.Gives (Cursor.allOf xs)) ∧
    ((∀ index x b, (visit index x b).2 = false) → ∀ xs,
      (s.listed observe session state decode = .ok xs ↔
        ∃ b', s.iterated observe session state decode (watched visit) (b, []) =
          .ok ((b', xs.zipIdx), .ok ()))) ∧
    (∀ before row after xs, s.fetched observe session state = .ok (before ++ row :: after) →
      decode.MapsAll before xs →
      (∀ e, decode row = .error e →
        s.listed observe session state decode = .error e ∧
        (∃ c, s.opened observe session state decode = .ok c ∧ c.Gives (Cursor.failingAfter xs e)) ∧
        ∀ b', GoesOn visit 0 xs b b' →
          s.iterated observe session state decode (watched visit) (b, []) =
            .ok ((b', xs.zipIdx), .error e)) ∧
      ∀ x b' b'', decode row = .ok x → GoesOn visit 0 xs b b' →
        visit xs.length x b' = (b'', true) →
        s.iterated observe session state decode (watched visit) (b, []) =
          .ok ((b'', (xs ++ [x]).zipIdx), .ok ())) ∧
    s.iterated observe session state decode visit b =
      (s.iterated observe session state decode (watched visit) (b, [])).map
        (Prod.map Prod.fst id) := by
  refine ⟨bufferedCalls_reads observe session s state decode visit b, ?_, ?_, ?_,
    iterated_eq_watched observe session s state decode visit b⟩
  · intro xs
    rw [listed_eq_ok_iff, opened_gives_iff]
    simp only [Cursor.gives_allOf_iff]
  · intro hvisit xs
    rw [listed_eq_ok_iff, iterated_watched_iff observe session s state hvisit]
  · intro before row after xs hfetched hxs
    constructor
    · intro e hrow
      exact reads_of_fails observe session s state hfetched hxs hrow
    · intro x b' b'' hrow hgoes hstop
      exact iterated_of_stops observe session s state hfetched hxs hrow hgoes hstop

namespace RowsWitness

def rowOf (v : Value) : Row := ⟨["id"], [v]⟩

/-- A session whose queries answer a row that cannot be read between others, and that has no streams
of its own. -/
def answering : Session Unit where
  dialect := .mysql
  query _ _ := .pure [rowOf (.int 1), rowOf (.int 2), rowOf .null, rowOf (.int 3)]
  execute _ _ := .pure 0
  stream _ _ := .fail (.driver "no streams")

def ids : Statement := .ofRaw "SELECT id FROM users" .none

def readId : Row.Decoder Int64 := fun row => row.getAt Value.readInt64 0

def unreadable : Error := .decode "0" (.mismatch "int" .null)

/-- Counts its calls and says to stop at the one with the number. -/
def countTo (last index : Nat) (_ : Int64) (count : Nat) : Nat × Bool :=
  (count + 1, index + 1 == last)

def notes (_ : Unit) (state : Unit) : Unit := state

end RowsWitness

open RowsWitness in
theorem reads_agree_unreadable :
    ids.listed notes answering () readId = .error unreadable ∧
    (∃ c, ids.opened notes answering () readId = .ok c ∧
      c.Gives [some (.ok 1), some (.ok 2), some (.error unreadable)]) ∧
    ids.iterated notes answering () readId (watched (countTo 0)) (0, []) =
      .ok ((2, [(1, 0), (2, 1)]), .error unreadable) ∧
    ids.iterated notes answering () readId (watched (countTo 2)) (0, []) =
      .ok ((2, [(1, 0), (2, 1)]), .ok ()) := by
  obtain ⟨-, -, -, hread, -⟩ := reads_agree notes answering () ids readId (countTo 0) 0
  obtain ⟨hlisted, hopened, hiterated⟩ := (hread [rowOf (.int 1), rowOf (.int 2)] (rowOf .null)
    [rowOf (.int 3)] [1, 2] rfl (.cons rfl (.cons rfl .nil))).1 unreadable rfl
  obtain ⟨-, -, -, hstopping, -⟩ := reads_agree notes answering () ids readId (countTo 2) 0
  have hstopped := (hstopping [rowOf (.int 1)] (rowOf (.int 2)) [rowOf .null, rowOf (.int 3)] [1]
    rfl (.cons rfl .nil)).2 2 1 2 rfl (.cons rfl .nil) rfl
  exact ⟨hlisted, hopened, hiterated 2 (.cons rfl (.cons rfl .nil)), hstopped⟩

end Statement

end SqlPipeline
