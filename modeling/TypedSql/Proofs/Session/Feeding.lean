import TypedSql.Proofs.Outcome
import TypedSql.Session.Drain

/-!
# Feeding the rows of a cursor

The rows of a cursor are fed to a step in order, up to the first thing that ends
the feeding: the budget, the token, the cursor, or the step itself.
-/

namespace TypedSql

/-- Whether the token fires while a row is handed out. -/
def FetchReply.fires : FetchReply → Bool
  | .row _ fires => fires
  | _ => false

namespace Cursor

/-- The rows that replies hand out before the first reply that hands out none. -/
def rowsOf (columns : List String) : List FetchReply → List Row
  | .row cells _ :: rest => ⟨columns, cells⟩ :: rowsOf columns rest
  | _ => []

/-- The rows of a cursor, in order. -/
def rows (cursor : Cursor) : List Row :=
  rowsOf cursor.columns cursor.fetches

theorem length_rowsOf_le (columns : List String) (replies : List FetchReply) :
    (rowsOf columns replies).length ≤ replies.length := by
  induction replies with
  | nil => exact Nat.le_refl 0
  | cons reply rest inductionHypothesis =>
      cases reply with
      | row cells fires => exact Nat.succ_le_succ inductionHypothesis
      | failure reason => exact Nat.zero_le _
      | interrupted => exact Nat.zero_le _

end Cursor

namespace Session

/-- Whether the token has fired once a cursor has given some replies. -/
def firedAfter (session : Session) (replies : List FetchReply) : Bool :=
  session.fired || replies.any FetchReply.fires

section Feeding

variable {σ : Type} (budget : Option Nat) (step : σ → Row → Except Error σ) (initial : σ)

/--
How the feeding of rows ends after the rows `seen`, when `next` is what the cursor
would reply and `fired` tells whether the token has fired: the outcome, the last
call of the connection if it handed out no row, and what the observer is told.
-/
inductive Ending (seen : List Row) (next : Option FetchReply) (fired : Bool) :
    Except Error σ → List ConnectionCall → List Event → Prop
  /-- The budget is spent. -/
  | full (result : σ) :
      budget = some seen.length →
      seen.foldlM step initial = .ok result →
      Ending seen next fired (.ok result) [] []
  /-- The step refuses the last row. -/
  | refused (front : List Row) (row : Row) (state : σ) (error : Error) :
      seen = front ++ [row] →
      front.foldlM step initial = .ok state →
      step state row = .error error →
      Ending seen next fired (.error error) [] []
  /-- The token has fired before the next fetch. -/
  | cancelled (result : σ) :
      budget ≠ some seen.length →
      seen.foldlM step initial = .ok result →
      fired = true →
      Ending seen next fired (.error .cancelled) [] [.cancelled .fetching]
  /-- The token fires during the next fetch. -/
  | interrupted (result : σ) :
      budget ≠ some seen.length →
      seen.foldlM step initial = .ok result →
      fired = false →
      next = some .interrupted →
      Ending seen next fired (.error .cancelled) [.fetch false] [.cancelled .fetching]
  /-- The next fetch fails. -/
  | failed (result : σ) (reason : String) :
      budget ≠ some seen.length →
      seen.foldlM step initial = .ok result →
      fired = false →
      next = some (.failure reason) →
      Ending seen next fired (.error (.execution (.reported reason))) [.fetch false] []
  /-- There are no more rows. -/
  | exhausted (result : σ) :
      budget ≠ some seen.length →
      seen.foldlM step initial = .ok result →
      fired = false →
      next = none →
      Ending seen next fired (.ok result) [.fetch false] []

variable {budget step initial}

/-- A row that the step accepted may be put before the rows of an ending. -/
theorem Ending.cons
    {row : Row}
    {state : σ}
    {seen : List Row}
    {next : Option FetchReply}
    {fired : Bool}
    {outcome : Except Error σ}
    {last : List ConnectionCall}
    {noticed : List Event}
    (room : budget ≠ some 0)
    (accepted : step initial row = .ok state)
    (ending : Ending (budget.map Nat.pred) step state seen next fired outcome last noticed) :
    Ending budget step initial (row :: seen) next fired outcome last noticed := by
  have spent : budget.map Nat.pred = some seen.length ↔ budget = some (row :: seen).length := by
    cases budget with
    | none => simp
    | some most =>
        have positive : most ≠ 0 := fun zero => room (congrArg some zero)
        simp only [Option.map_some, Option.some.injEq, List.length_cons, Nat.pred_eq_sub_one]
        omega
  have folded : ∀ rows, (row :: rows).foldlM step initial = rows.foldlM step state := by
    intro rows
    rw [List.foldlM_cons, accepted]
    rfl
  cases ending with
  | full result full fold =>
      exact .full result (spent.mp full) ((folded seen).trans fold)
  | refused front refusedRow reached error shape fold refusal =>
      refine .refused (row :: front) refusedRow reached error ?_ ?_ refusal
      · rw [shape, List.cons_append]
      · exact (folded front).trans fold
  | cancelled result left fold hasFired =>
      exact .cancelled result (mt spent.mpr left) ((folded seen).trans fold) hasFired
  | interrupted result left fold unfired reply =>
      exact .interrupted result (mt spent.mpr left) ((folded seen).trans fold) unfired reply
  | failed result reason left fold unfired reply =>
      exact .failed result reason (mt spent.mpr left) ((folded seen).trans fold) unfired reply
  | exhausted result left fold unfired reply =>
      exact .exhausted result (mt spent.mpr left) ((folded seen).trans fold) unfired reply

/-- Nothing is closed while rows are fed. -/
theorem Ending.count_close
    {seen : List Row}
    {next : Option FetchReply}
    {fired : Bool}
    {outcome : Except Error σ}
    {last : List ConnectionCall}
    {noticed : List Event}
    (ending : Ending budget step initial seen next fired outcome last noticed) :
    last.count .close = 0 := by
  cases ending <;> rfl

/-- A row that is always refused is the last one that is fed. -/
theorem Ending.error_of_mem
    {row : Row}
    {error : Error}
    {seen : List Row}
    {next : Option FetchReply}
    {fired : Bool}
    {outcome : Except Error σ}
    {last : List ConnectionCall}
    {noticed : List Event}
    (ending : Ending budget step initial seen next fired outcome last noticed)
    (refuses : ∀ state, step state row = .error error)
    (member : row ∈ seen) :
    outcome = .error error := by
  cases ending with
  | full result full fold => exact absurd fold (foldlM_ne_ok_of_mem refuses member)
  | refused front refusedRow reached refusal shape fold refused =>
      rw [shape, List.mem_append, List.mem_singleton] at member
      rcases member with inFront | rfl
      · exact absurd fold (foldlM_ne_ok_of_mem refuses inFront)
      · exact refused.symm.trans (refuses reached)
  | cancelled result left fold hasFired =>
      exact absurd fold (foldlM_ne_ok_of_mem refuses member)
  | interrupted result left fold unfired reply =>
      exact absurd fold (foldlM_ne_ok_of_mem refuses member)
  | failed result reason left fold unfired reply =>
      exact absurd fold (foldlM_ne_ok_of_mem refuses member)
  | exhausted result left fold unfired reply =>
      exact absurd fold (foldlM_ne_ok_of_mem refuses member)

/-! ## Feeding rows -/

/-- What the feeding of a cursor's rows did. -/
structure Fed
    (columns : List String)
    (replies : List FetchReply)
    (budget : Option Nat)
    (step : σ → Row → Except Error σ)
    (initial : σ)
    (session : Session)
    (seen : List Row)
    (last : List ConnectionCall)
    (noticed : List Event)
    (result : Except Error σ × Session) : Prop where
  /-- The rows that the step saw are the first rows of the cursor, in order. -/
  inOrder : seen <+: Cursor.rowsOf columns replies
  /-- Every row was asked for while the token had not fired. -/
  unfired : ∀ earlier, earlier < seen.length →
    session.firedAfter (replies.take earlier) = false
  /-- No more fetches reached the cursor than rows were allowed. -/
  bounded : ∀ most, budget = some most → seen.length + last.length ≤ most
  ending :
    Ending budget step initial seen replies[seen.length]?
      (session.firedAfter (replies.take seen.length)) result.1 last noticed
  calls :
    result.2.calls = session.calls ++ List.replicate seen.length (.fetch true) ++ last
  events : result.2.events = session.events ++ noticed

variable {columns : List String} {replies rest : List FetchReply} {session : Session}

/-- Feeding ends at once where it ends before a row was handed out. -/
theorem Fed.atOnce
    {last : List ConnectionCall}
    {noticed : List Event}
    {result : Except Error σ × Session}
    (bounded : ∀ most, budget = some most → last.length ≤ most)
    (ending :
      Ending budget step initial [] replies.head? session.fired result.1 last noticed)
    (calls : result.2.calls = session.calls ++ last)
    (events : result.2.events = session.events ++ noticed) :
    Fed columns replies budget step initial session [] last noticed result where
  inOrder := List.nil_prefix
  unfired := by
    intro earlier before
    exact absurd before (Nat.not_lt_zero earlier)
  bounded := by
    intro most allowed
    rw [List.length_nil, Nat.zero_add]
    exact bounded most allowed
  ending := by
    rw [List.length_nil, List.take_zero, ← List.head?_eq_getElem?]
    rw [firedAfter, List.any_nil, Bool.or_false]
    exact ending
  calls := by
    rw [List.length_nil, List.replicate_zero, List.append_nil]
    exact calls
  events := events

/-- The session after a row was handed out. -/
abbrev afterRow (session : Session) (fires : Bool) : Session :=
  (session.note (.fetch true)).fireIf fires

theorem firedAfter_cons
    (session : Session)
    (cells : List Value)
    (fires : Bool)
    (replies : List FetchReply) :
    session.firedAfter (.row cells fires :: replies) =
      (session.afterRow fires).firedAfter replies := by
  simp [firedAfter, FetchReply.fires, Bool.or_assoc]

theorem firedAfter_take (unfired : session.firedAfter replies = false) (count : Nat) :
    session.firedAfter (replies.take count) = false := by
  rw [firedAfter, Bool.or_eq_false_iff, List.any_eq_false] at unfired ⊢
  exact ⟨unfired.1, fun reply taken => unfired.2 reply (List.mem_of_mem_take taken)⟩

theorem one_le_of_room
    (room : budget ≠ some 0) :
    ∀ most, budget = some most → 1 ≤ most := by
  rintro most rfl
  exact Nat.one_le_iff_ne_zero.mpr fun zero => room (congrArg some zero)

/-- Feeding goes on after a row that the step accepted. -/
theorem Fed.cons
    {cells : List Value}
    {fires : Bool}
    {state : σ}
    {seen : List Row}
    {last : List ConnectionCall}
    {noticed : List Event}
    {result : Except Error σ × Session}
    (room : budget ≠ some 0)
    (unfired : session.fired = false)
    (accepted : step initial ⟨columns, cells⟩ = .ok state)
    (fed : Fed columns rest (budget.map Nat.pred) step state (session.afterRow fires)
      seen last noticed result) :
    Fed columns (.row cells fires :: rest) budget step initial session
      (⟨columns, cells⟩ :: seen) last noticed result where
  inOrder := (List.prefix_cons_inj _).mpr fed.inOrder
  unfired := by
    intro earlier before
    cases earlier with
    | zero => simp [firedAfter, unfired]
    | succ earlier =>
        rw [List.take_succ_cons, firedAfter_cons]
        exact fed.unfired earlier (Nat.lt_of_succ_lt_succ before)
  bounded := by
    rintro most rfl
    have allowed := fed.bounded most.pred rfl
    have positive := one_le_of_room room most rfl
    rw [List.length_cons]
    rw [Nat.pred_eq_sub_one] at allowed
    omega
  ending := by
    rw [List.length_cons, List.getElem?_cons_succ, List.take_succ_cons, firedAfter_cons]
    exact fed.ending.cons room accepted
  calls := by
    rw [fed.calls, calls_fireIf, calls_note, List.length_cons, List.replicate_succ]
    simp
  events := fed.events

theorem fetchReply_of_fired
    (hasFired : session.fired = true)
    (reply : Option FetchReply) :
    session.fetchReply columns reply =
      (.failed .cancelled, session.emit (.cancelled .fetching)) := by
  rw [fetchReply, if_pos hasFired]
  rfl

theorem fetchReply_of_unfired
    (unfired : session.fired = false)
    (reply : Option FetchReply) :
    session.fetchReply columns reply = session.answerFetch columns reply := by
  rw [fetchReply, unfired]
  rfl

/-- Nothing is fetched once the budget is spent. -/
theorem Fed.full :
    Fed columns replies (some 0) step initial session [] [] []
      (feedRows columns step (some 0) replies initial session) := by
  rw [feedRows]
  refine .atOnce ?_ (.full initial rfl rfl) ?_ ?_
  · intro most allowed
    exact Nat.zero_le most
  · exact (List.append_nil _).symm
  · exact (List.append_nil _).symm

theorem feedRows_of_fired
    (room : budget ≠ some 0)
    (hasFired : session.fired = true) :
    feedRows columns step budget replies initial session =
      (.error .cancelled, session.emit (.cancelled .fetching)) := by
  cases replies with
  | nil =>
      rw [feedRows, fetchReply_of_fired hasFired]
      exact room
  | cons reply rest =>
      rw [feedRows, fetchReply_of_fired hasFired]
      exact room

/-- Nothing is fetched once the token has fired. -/
theorem Fed.cancelled
    (room : budget ≠ some 0)
    (hasFired : session.fired = true) :
    Fed columns replies budget step initial session [] [] [.cancelled .fetching]
      (feedRows columns step budget replies initial session) := by
  rw [feedRows_of_fired room hasFired]
  refine .atOnce ?_ (.cancelled initial room rfl hasFired) ?_ rfl
  · intro most allowed
    exact Nat.zero_le most
  · exact (List.append_nil _).symm

/-- Feeding ends with a row that the step refuses. -/
theorem Fed.refused
    {cells : List Value}
    {fires : Bool}
    {error : Error}
    (bounded : ∀ most, budget = some most → 1 ≤ most)
    (unfired : session.fired = false)
    (refusal : step initial ⟨columns, cells⟩ = .error error) :
    Fed columns (.row cells fires :: rest) budget step initial session
      [⟨columns, cells⟩] [] [] (.error error, session.afterRow fires) where
  inOrder := (List.prefix_cons_inj _).mpr List.nil_prefix
  unfired := by
    intro earlier before
    obtain rfl : earlier = 0 := Nat.lt_one_iff.mp before
    rw [List.take_zero, firedAfter, unfired]
    rfl
  bounded := bounded
  ending := .refused [] ⟨columns, cells⟩ initial error rfl rfl refusal
  calls := by
    rw [List.append_nil]
    rfl
  events := (List.append_nil _).symm

theorem feedRows_nil
    (room : budget ≠ some 0)
    (unfired : session.fired = false) :
    feedRows columns step budget [] initial session =
      (.ok initial, session.note (.fetch false)) := by
  rw [feedRows, fetchReply_of_unfired unfired]
  · rfl
  · exact room

theorem feedRows_cons
    (room : budget ≠ some 0)
    (unfired : session.fired = false)
    (reply : FetchReply) :
    feedRows columns step budget (reply :: rest) initial session =
      match session.answerFetch columns (some reply) with
      | (.failed error, after) => (.error error, after)
      | (.finished, after) => (.ok initial, after)
      | (.row row, after) =>
          match step initial row with
          | .error error => (.error error, after)
          | .ok next => feedRows columns step (budget.map Nat.pred) rest next after := by
  rw [feedRows, fetchReply_of_unfired unfired]
  · rfl
  · exact room

/-- The rows of a cursor are fed in order up to the first thing that ends the feeding. -/
theorem feedRows_fed
    (columns : List String)
    (replies : List FetchReply)
    (budget : Option Nat)
    (step : σ → Row → Except Error σ)
    (initial : σ)
    (session : Session) :
    ∃ seen last noticed,
      Fed columns replies budget step initial session seen last noticed
        (feedRows columns step budget replies initial session) := by
  -- The budget is looked at first, then the token, and only then the reply; every row
  -- that the step accepts leaves one reply less and, if there is a budget, one row less.
  induction replies generalizing budget initial session with
  | nil =>
      by_cases room : budget = some 0
      · subst room
        exact ⟨[], [], [], .full⟩
      cases unfired : session.fired with
      | true => exact ⟨[], [], [.cancelled .fetching], .cancelled room unfired⟩
      | false =>
          have bounded : ∀ most, budget = some most → 1 ≤ most := one_le_of_room room
          rw [feedRows_nil room unfired]
          exact ⟨[], [.fetch false], [],
            .atOnce bounded (.exhausted initial room rfl unfired rfl) rfl
              (List.append_nil _).symm⟩
  | cons reply rest inductionHypothesis =>
      by_cases room : budget = some 0
      · subst room
        exact ⟨[], [], [], .full⟩
      cases unfired : session.fired with
      | true => exact ⟨[], [], [.cancelled .fetching], .cancelled room unfired⟩
      | false =>
          have bounded : ∀ most, budget = some most → 1 ≤ most := one_le_of_room room
          rw [feedRows_cons room unfired reply]
          cases reply with
          | failure reason =>
              exact ⟨[], [.fetch false], [],
                .atOnce bounded (.failed initial reason room rfl unfired rfl) rfl
                  (List.append_nil _).symm⟩
          | interrupted =>
              exact ⟨[], [.fetch false], [.cancelled .fetching],
                .atOnce bounded (.interrupted initial room rfl unfired rfl) rfl rfl⟩
          | row cells fires =>
              cases decision : step initial ⟨columns, cells⟩ with
              | ok state =>
                  obtain ⟨seen, last, noticed, fed⟩ :=
                    inductionHypothesis (budget.map Nat.pred) state (session.afterRow fires)
                  simp only [answerFetch, decision]
                  exact ⟨⟨columns, cells⟩ :: seen, last, noticed,
                    fed.cons room unfired decision⟩
              | error error =>
                  simp only [answerFetch, decision]
                  exact ⟨[⟨columns, cells⟩], [], [], .refused bounded unfired decision⟩

/-- Feeding without a budget that fails nowhere feeds what every reply hands out. -/
theorem Fed.all
    {seen : List Row}
    {last : List ConnectionCall}
    {noticed : List Event}
    {result : σ}
    {after : Session}
    (fed : Fed columns replies none step initial session seen last noticed
      (.ok result, after)) :
    seen = Cursor.rowsOf columns replies ∧
      seen.length = replies.length ∧
      seen.foldlM step initial = .ok result := by
  obtain ⟨inOrder, -, -, ending, -, -⟩ := fed
  cases ending with
  | full _ spent _ => cases spent
  | exhausted _ _ folded _ noReply =>
      have enough : replies.length ≤ seen.length := List.getElem?_eq_none_iff.mp noReply
      have shortest := Cursor.length_rowsOf_le columns replies
      have shorter := inOrder.length_le
      have sameRows := inOrder.eq_of_length (by omega)
      exact ⟨sameRows, by omega, folded⟩

/-- Rows that the step accepts are fed one after the other while the token has not fired. -/
theorem feedRows_front
    {state : σ}
    {front back : List Row}
    (rows : Cursor.rowsOf columns replies = front ++ back)
    (accepted : front.foldlM step initial = .ok state)
    (unfired : session.firedAfter (replies.take front.length) = false) :
    ∃ after : Session,
      feedRows columns step none replies initial session =
        feedRows columns step none (replies.drop front.length) state after ∧
      after.fired = false ∧
      after.calls = session.calls ++ List.replicate front.length (.fetch true) ∧
      Cursor.rowsOf columns (replies.drop front.length) = back := by
  induction front generalizing replies initial session with
  | nil =>
      cases accepted
      refine ⟨session, rfl, ?_, (List.append_nil _).symm, rows⟩
      simpa [firedAfter] using unfired
  | cons first front inductionHypothesis =>
      rcases replies with _ | ⟨_ | _ | _, rest⟩
      · cases rows
      · next cells fires =>
        obtain ⟨rfl, restRows⟩ := List.cons.inj rows
        rw [List.foldlM_cons] at accepted
        obtain ⟨next, stepped, others⟩ := bind_eq_ok.mp accepted
        rw [List.length_cons, List.take_succ_cons, firedAfter_cons] at unfired
        have stillUnfired : (session.fired || fires) = false :=
          (Bool.or_eq_false_iff.mp unfired).1
        obtain ⟨after, sameFeed, afterUnfired, calls, left⟩ :=
          inductionHypothesis restRows others unfired
        refine ⟨after, ?_, afterUnfired, ?_, left⟩
        · rw [feedRows_cons (by simp) (Bool.or_eq_false_iff.mp stillUnfired).1, answerFetch]
          simp only [stepped]
          exact sameFeed
        · rw [calls, calls_fireIf, calls_note, List.append_assoc, List.length_cons,
            List.replicate_succ]
          rfl
      · cases rows
      · cases rows

/-- Feeding ends with the first row that the step refuses, and nothing is fetched after it. -/
theorem feedRows_refused
    {state : σ}
    {front back : List Row}
    {row : Row}
    {error : Error}
    (rows : Cursor.rowsOf columns replies = front ++ row :: back)
    (accepted : front.foldlM step initial = .ok state)
    (refusal : step state row = .error error)
    (unfired : session.firedAfter (replies.take front.length) = false) :
    (feedRows columns step none replies initial session).1 = .error error ∧
      (feedRows columns step none replies initial session).2.calls =
        session.calls ++ List.replicate (front.length + 1) (.fetch true) := by
  obtain ⟨after, sameFeed, afterUnfired, calls, left⟩ := feedRows_front rows accepted unfired
  rw [sameFeed]
  generalize replies.drop front.length = others at left
  rcases others with _ | ⟨_ | _ | _, rest⟩
  · cases left
  · obtain ⟨rfl, _⟩ := List.cons.inj left
    rw [feedRows_cons (by simp) afterUnfired, answerFetch]
    simp only [refusal, true_and]
    rw [calls_fireIf, calls_note, calls, List.append_assoc, List.replicate_succ']
  · cases left
  · cases left

/-- Rows that are all handed out and accepted are fed to the last, and then none is left. -/
theorem feedRows_exhausted
    {state : σ}
    (onlyRows : (Cursor.rowsOf columns replies).length = replies.length)
    (accepted : (Cursor.rowsOf columns replies).foldlM step initial = .ok state)
    (unfired : session.firedAfter replies = false) :
    (feedRows columns step none replies initial session).1 = .ok state := by
  obtain ⟨after, sameFeed, afterUnfired, _, _⟩ :=
    feedRows_front (List.append_nil _).symm accepted
      (by rwa [onlyRows, List.take_length])
  rw [sameFeed, onlyRows, List.drop_length, feedRows_nil (by simp) afterUnfired]

end Feeding

end Session
end TypedSql
