import TypedSql.Proofs.Session.Opened

/-!
# Statements that are served

A statement whose rows are all asked for is drained successfully exactly when nothing goes
wrong: the token has not fired, a cursor is handed out, each fetch gives a row until none is
left, the cursor can be closed, and the token does not fire before the last fetch.
-/

namespace TypedSql
namespace Session

/-- The reply to the next statement; once no reply is left, every statement has no rows. -/
def nextReply (session : Session) : OpenReply :=
  session.replies.head?.getD (.cursor .empty false)

/-- The connection serves the next statement with a cursor, and nothing goes wrong. -/
structure Serves (session : Session) (cursor : Cursor) : Prop where
  unfired : session.fired = false
  /-- The cursor is handed out, and the token does not fire meanwhile. -/
  opened : session.nextReply = .cursor cursor false
  /-- Each fetch but the last gives a row, and the token does not fire meanwhile. -/
  fetched : ∀ reply ∈ cursor.fetches, ∃ cells, reply = .row cells false
  closed : cursor.closeFailure = none

section Opening

variable {session opened : Session} {logged : Bool} {statement : Statement} {cursor : Cursor}

/-- A cursor that was returned is that of the next reply, and tells whether the token fired. -/
theorem nextReply_of_openCursor
    (returned : session.openCursor logged statement = (.ok cursor, opened)) :
    session.nextReply = .cursor cursor opened.fired := by
  rw [openCursor_of_unfired (openCursor_ok returned).1] at returned
  unfold nextReply
  cases replies : session.replies with
  | nil =>
      rw [replies] at returned
      cases returned
      rfl
  | cons reply rest =>
      rw [replies] at returned
      cases reply <;> cases returned
      rfl

/-- A cursor that the next reply hands out is returned. -/
theorem exists_openCursor
    {fires : Bool}
    (unfired : session.fired = false)
    (next : session.nextReply = .cursor cursor fires)
    (logged : Bool)
    (statement : Statement) :
    ∃ opened, session.openCursor logged statement = (.ok cursor, opened) ∧
      opened.fired = fires := by
  rw [openCursor_of_unfired unfired]
  unfold nextReply at next
  cases replies : session.replies with
  | nil =>
      rw [replies] at next
      cases next
      exact ⟨_, rfl, rfl⟩
  | cons reply rest =>
      rw [replies] at next
      obtain rfl : reply = .cursor cursor fires := next
      exact ⟨_, rfl, rfl⟩

theorem Serves.answering (serves : session.Serves cursor) :
    cursor = .answering session.replies := by
  obtain ⟨opened, returned, _⟩ := exists_openCursor serves.unfired serves.opened false ⟨"", []⟩
  exact answering_of_openCursor returned

end Opening

section Draining

variable {σ : Type} {session : Session} {logged : Bool} {statement : Statement}
  {step : σ → Row → Except Error σ} {initial result : σ}

/-- Rows are fed to the last exactly when every reply is a row and the token never fires. -/
theorem feedRows_eq_ok_iff {columns : List String} {replies : List FetchReply} :
    (feedRows columns step none replies initial session).1 = .ok result ↔
      session.fired = false ∧
        (∀ reply ∈ replies, ∃ cells, reply = .row cells false) ∧
        (Cursor.rowsOf columns replies).foldlM step initial = .ok result := by
  -- A row that makes the token fire is fed, but then the next fetch is refused.
  have room : (none : Option Nat) ≠ some 0 := nofun
  cases unfired : session.fired with
  | true => simp [feedRows_of_fired room unfired]
  | false =>
  induction replies generalizing initial session with
  | nil => simp [feedRows_nil room unfired, Cursor.rowsOf, pure_eq_ok]
  | cons reply rest inductionHypothesis =>
      rw [feedRows_cons room unfired]
      cases reply with
      | failure reason => simp [answerFetch]
      | interrupted => simp [answerFetch]
      | row cells fires =>
          simp only [answerFetch, Cursor.rowsOf, List.foldlM_cons, List.forall_mem_cons]
          cases accepted : step initial ⟨columns, cells⟩ with
          | error error => simp [bind, Except.bind]
          | ok next =>
              cases fires with
              | true =>
                  have fired : (session.afterRow true).fired = true := Bool.or_true _
                  simp [feedRows_of_fired room fired]
              | false =>
                  have stillUnfired : (session.afterRow false).fired = false :=
                    (Bool.or_false _).trans unfired
                  simpa [bind, Except.bind] using inductionHypothesis stillUnfired

/-- A statement is drained to its end exactly when it is served and the step accepts its rows. -/
theorem drain_eq_ok_iff :
    (session.drain logged statement none step initial).1 = .ok result ↔
      ∃ cursor, session.Serves cursor ∧ cursor.rows.foldlM step initial = .ok result := by
  constructor
  · intro drained
    rcases answer : session.openCursor logged statement with ⟨outcome, opened⟩
    cases outcome with
    | error error =>
        rw [drain_of_error answer] at drained
        cases drained
    | ok cursor =>
        have closed : Closed cursor _ (session.drain logged statement none step initial) :=
          drain_of_ok answer
        have fed := closed.succeeded drained
        obtain ⟨openedUnfired, fetched, folded⟩ := feedRows_eq_ok_iff.mp fed
        have next := nextReply_of_openCursor answer
        rw [openedUnfired] at next
        refine ⟨cursor, ⟨(openCursor_ok answer).1, next, fetched, ?_⟩, folded⟩
        cases failure : cursor.closeFailure with
        | none => rfl
        | some reason =>
            rw [(closed.unclosed result reason fed failure).1] at drained
            cases drained
  · rintro ⟨cursor, serves, folded⟩
    obtain ⟨opened, returned, openedUnfired⟩ :=
      exists_openCursor serves.unfired serves.opened logged statement
    have closed : Closed cursor _ (session.drain logged statement none step initial) :=
      drain_of_ok returned
    have fed := feedRows_eq_ok_iff.mpr ⟨openedUnfired, serves.fetched, folded⟩
    exact (closed.closed result fed serves.closed).1

end Draining

end Session
end TypedSql
