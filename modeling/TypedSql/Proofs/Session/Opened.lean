import TypedSql.Proofs.Session.Conduct

/-!
# What a drained statement opens

A drained statement takes one reply of the connection and opens nothing else: the cursor that
is drained is the one of the reply that came first.
-/

namespace TypedSql

/-- The cursor that the first of some replies hands out; when none is left it has no rows. -/
def Cursor.answering : List OpenReply → Cursor
  | .cursor cursor _ :: _ => cursor
  | _ => .empty

namespace Session

/-- Nothing was opened between two sessions. -/
structure OpensNothing (session after : Session) : Prop where
  replies : after.replies = session.replies
  statements : after.statements = session.statements

section Draining

variable {σ : Type} {session opened after last : Session} {logged : Bool}
  {statement : Statement}

theorem OpensNothing.trans
    (first : session.OpensNothing opened)
    (second : opened.OpensNothing last) :
    session.OpensNothing last where
  replies := second.replies.trans first.replies
  statements := second.statements.trans first.statements

/-- A call that opens no statement. -/
theorem OpensNothing.note
    {call : ConnectionCall}
    (idle : call.opens = false)
    (replies : after.replies = session.replies)
    (calls : after.calls = session.calls ++ [call]) :
    session.OpensNothing after := by
  refine ⟨replies, ?_⟩
  rw [Session.statements, calls, List.filterMap_append]
  cases call with
  | «open» statement => cases idle
  | fetch found => exact List.append_nil _
  | close => exact List.append_nil _

theorem opensNothing_fetchReply
    {columns : List String}
    {reply : Option FetchReply}
    {fetched : Fetched}
    (answer : session.fetchReply columns reply = (fetched, after)) :
    session.OpensNothing after := by
  unfold fetchReply at answer
  split at answer
  · cases answer
    exact ⟨rfl, rfl⟩
  · cases reply with
    | none =>
        cases answer
        exact .note rfl rfl rfl
    | some reply =>
        cases reply <;> cases answer <;> exact .note rfl rfl rfl

theorem opensNothing_feedRows
    (columns : List String)
    (step : σ → Row → Except Error σ)
    (budget : Option Nat)
    (replies : List FetchReply)
    (initial : σ)
    (session : Session) :
    session.OpensNothing (feedRows columns step budget replies initial session).2 := by
  fun_induction feedRows columns step budget replies initial session with
  | case1 => exact ⟨rfl, rfl⟩
  | case2 _ _ _ _ _ _ answer => exact opensNothing_fetchReply answer
  | case3 _ _ _ _ _ _ _ answer => exact opensNothing_fetchReply answer
  | case4 _ _ _ _ _ _ _ _ answer => exact opensNothing_fetchReply answer
  | case5 _ _ _ _ _ _ _ answer => exact opensNothing_fetchReply answer
  | case6 _ _ _ _ _ _ _ _ answer _ _ => exact opensNothing_fetchReply answer
  | case7 _ _ _ _ _ _ _ _ answer _ _ inductionHypothesis =>
      exact (opensNothing_fetchReply answer).trans inductionHypothesis

theorem opensNothing_conclude (cursor : Cursor) (fed : Except Error σ × Session) :
    fed.2.OpensNothing (conclude cursor fed).2 := by
  obtain ⟨outcome, session⟩ := fed
  refine .note rfl ?_ (conclude_closed cursor _).calls
  unfold conclude closeCursor settle
  cases outcome <;> cases cursor.closeFailure <;> rfl

/-- An opened statement, with what is left of the replies. -/
theorem statements_openCursor
    (unfired : session.fired = false)
    (logged : Bool)
    (statement : Statement) :
    (session.openCursor logged statement).2.replies = session.replies.tail ∧
      (session.openCursor logged statement).2.statements =
        session.statements ++ [statement] := by
  refine ⟨?_, ?_⟩
  · rw [openCursor_of_unfired unfired]
    cases session.replies with
    | nil => rfl
    | cons reply rest => cases reply <;> rfl
  · rw [Session.statements, calls_openCursor, unfired, if_neg Bool.false_ne_true,
      List.filterMap_append]
    rfl

/-- A drained statement, with what is left of the replies. -/
theorem statements_drain
    (unfired : session.fired = false)
    (logged : Bool)
    (statement : Statement)
    (budget : Option Nat)
    (step : σ → Row → Except Error σ)
    (initial : σ) :
    (session.drain logged statement budget step initial).2.replies = session.replies.tail ∧
      (session.drain logged statement budget step initial).2.statements =
        session.statements ++ [statement] := by
  have opening := statements_openCursor unfired logged statement
  rcases answer : session.openCursor logged statement with ⟨outcome, opened⟩
  rw [answer] at opening
  cases outcome with
  | error error =>
      rw [drain_of_error answer]
      exact opening
  | ok cursor =>
      rw [drain_eq_conclude answer]
      have nothing := (opensNothing_feedRows cursor.columns step budget cursor.fetches initial
        opened).trans (opensNothing_conclude cursor _)
      exact ⟨nothing.replies.trans opening.1, nothing.statements.trans opening.2⟩

theorem drain_of_fired
    (fired : session.fired = true)
    (logged : Bool)
    (statement : Statement)
    (budget : Option Nat)
    (step : σ → Row → Except Error σ)
    (initial : σ) :
    session.drain logged statement budget step initial =
      (.error .cancelled, session.emit (.cancelled .opening)) :=
  drain_of_error (openCursor_of_fired fired logged statement)

theorem statements_drain_of_ok
    {budget : Option Nat}
    {step : σ → Row → Except Error σ}
    {initial result : σ}
    (drained : session.drain logged statement budget step initial = (.ok result, after)) :
    after.statements = session.statements ++ [statement] := by
  cases unfired : session.fired with
  | true =>
      rw [drain_of_fired unfired] at drained
      cases drained
  | false =>
      have opening := (statements_drain unfired logged statement budget step initial).2
      rw [drained] at opening
      exact opening

/-- A cursor that was returned is the one of the first reply. -/
theorem answering_of_openCursor
    {cursor : Cursor}
    (returned : session.openCursor logged statement = (.ok cursor, opened)) :
    cursor = .answering session.replies := by
  rw [openCursor_of_unfired (openCursor_ok returned).1] at returned
  cases replies : session.replies with
  | nil =>
      rw [replies] at returned
      cases returned
      rfl
  | cons reply rest =>
      rw [replies] at returned
      cases reply <;> cases returned
      rfl

end Draining

end Session

end TypedSql
