import TypedSql.Proofs.Session.Conduct

/-!
# Runs that nothing disturbs

An operation beside the same operation on a connection that answers alike, but never makes
the token fire. Either the operation is cancelled, or it does what the undisturbed one does:
there was nothing left that it would have started.
-/

namespace TypedSql

/--
The replies of a cursor and those that it gives if the token does not fire. What a fetch
that did not complete would have found, and what comes after it, is open.
-/
inductive FetchReply.Undisturbed : List FetchReply → List FetchReply → Prop
  | nothing : Undisturbed [] []
  | row {replies calm : List FetchReply} (cells : List Value) (fires : Bool) :
      Undisturbed replies calm →
      Undisturbed (.row cells fires :: replies) (.row cells false :: calm)
  | failure {replies calm : List FetchReply} (reason : String) :
      Undisturbed (.failure reason :: replies) (.failure reason :: calm)
  | interrupted (replies calm : List FetchReply) :
      Undisturbed (.interrupted :: replies) calm

/-- A cursor and what it is if the token does not fire. -/
structure Cursor.Undisturbed (cursor calm : Cursor) : Prop where
  columns : calm.columns = cursor.columns
  fetches : FetchReply.Undisturbed cursor.fetches calm.fetches
  closeFires : calm.closeFires = false
  closeFailure : calm.closeFailure = cursor.closeFailure

theorem Cursor.Undisturbed.empty : Cursor.empty.Undisturbed .empty where
  columns := rfl
  fetches := .nothing
  closeFires := rfl
  closeFailure := rfl

/-- A reply to a statement and what it is if the token does not fire. -/
inductive OpenReply.Undisturbed : OpenReply → OpenReply → Prop
  | cursor {cursor calm : Cursor} (fires : Bool) :
      cursor.Undisturbed calm → Undisturbed (.cursor cursor fires) (.cursor calm false)
  | failure (reason : String) (fires : Bool) :
      Undisturbed (.failure reason fires) (.failure reason false)
  | interrupted (calm : OpenReply) : Undisturbed .interrupted calm

namespace Session

/-- A session and what it is if the token has not fired and does not fire. -/
structure Undisturbed (session calm : Session) : Prop where
  fired : calm.fired = false
  replies : List.Forall₂ OpenReply.Undisturbed session.replies calm.replies
  calls : calm.calls = session.calls
  events : calm.events = session.events

/-- What comes of an operation beside the undisturbed one. -/
inductive Keeps {α : Type} (ran calm : Except Error α × Session) : Prop
  | cancelled : ran.1 = .error .cancelled → Keeps ran calm
  | same : calm.1 = ran.1 → ran.2.Undisturbed calm.2 → Keeps ran calm

section Keeping

variable {session calm : Session} {σ : Type}

theorem Undisturbed.emit (undisturbed : session.Undisturbed calm) (event : Event) :
    (session.emit event).Undisturbed (calm.emit event) where
  fired := undisturbed.fired
  replies := undisturbed.replies
  calls := undisturbed.calls
  events := congrArg (· ++ [event]) undisturbed.events

/-- A call during which the token fires, or does not, beside one during which it does not. -/
theorem Undisturbed.call
    (undisturbed : session.Undisturbed calm)
    (call : ConnectionCall)
    (fires : Bool) :
    ((session.note call).fireIf fires).Undisturbed ((calm.note call).fireIf false) where
  fired := by
    rw [fired_fireIf, fired_note, undisturbed.fired]
    rfl
  replies := undisturbed.replies
  calls := congrArg (· ++ [call]) undisturbed.calls
  events := undisturbed.events

theorem Undisturbed.note (undisturbed : session.Undisturbed calm) (call : ConnectionCall) :
    (session.note call).Undisturbed (calm.note call) where
  fired := undisturbed.fired
  replies := undisturbed.replies
  calls := congrArg (· ++ [call]) undisturbed.calls
  events := undisturbed.events

/-- Feeding goes on only within its budget, and only while the token has not fired. -/
theorem keeps_feedRows_or
    (columns : List String)
    (budget : Option Nat)
    (step : σ → Row → Except Error σ)
    (initial : σ)
    (replies calmReplies : List FetchReply)
    (undisturbed : session.Undisturbed calm) :
    Keeps (feedRows columns step budget replies initial session)
        (feedRows columns step budget calmReplies initial calm) ∨
      (budget ≠ some 0 ∧ session.fired = false) := by
  by_cases room : budget = some 0
  · subst room
    left
    rw [feedRows, feedRows]
    exact .same rfl undisturbed
  cases unfired : session.fired with
  | true =>
      left
      rw [feedRows_of_fired room unfired]
      exact .cancelled rfl
  | false => exact .inr ⟨room, rfl⟩

/-- Rows are fed alike until the token stops the feeding. -/
theorem keeps_feedRows
    (columns : List String)
    (budget : Option Nat)
    (step : σ → Row → Except Error σ)
    (initial : σ)
    {replies calmReplies : List FetchReply}
    (undisturbed : session.Undisturbed calm)
    (answers : FetchReply.Undisturbed replies calmReplies) :
    Keeps (feedRows columns step budget replies initial session)
      (feedRows columns step budget calmReplies initial calm) := by
  -- A row may make the token fire, and then it is the next fetch that notices.
  induction answers generalizing budget initial session calm with
  | nothing =>
      rcases keeps_feedRows_or columns budget step initial [] [] undisturbed with
        keeps | ⟨room, unfired⟩
      · exact keeps
      · rw [feedRows_nil room unfired, feedRows_nil room undisturbed.fired]
        exact .same rfl (undisturbed.note _)
  | @row replies calmReplies cells fires answers inductionHypothesis =>
      rcases keeps_feedRows_or columns budget step initial (.row cells fires :: replies)
        (.row cells false :: calmReplies) undisturbed with keeps | ⟨room, unfired⟩
      · exact keeps
      · rw [feedRows_cons room unfired, feedRows_cons room undisturbed.fired]
        have asked := undisturbed.call (.fetch true) fires
        cases decision : step initial ⟨columns, cells⟩ with
        | error error =>
            simp only [answerFetch, decision]
            exact .same rfl asked
        | ok state =>
            simp only [answerFetch, decision]
            exact inductionHypothesis (budget.map Nat.pred) state asked
  | @failure replies calmReplies reason =>
      rcases keeps_feedRows_or columns budget step initial (.failure reason :: replies)
        (.failure reason :: calmReplies) undisturbed with keeps | ⟨room, unfired⟩
      · exact keeps
      · rw [feedRows_cons room unfired, feedRows_cons room undisturbed.fired]
        exact .same rfl (undisturbed.note _)
  | interrupted replies calmReplies =>
      rcases keeps_feedRows_or columns budget step initial (.interrupted :: replies)
        calmReplies undisturbed with keeps | ⟨room, unfired⟩
      · exact keeps
      · rw [feedRows_cons room unfired]
        exact .cancelled rfl

/-- A cursor is closed alike after rows that were fed alike. -/
theorem Keeps.conclude
    {cursor calmCursor : Cursor}
    {fed calmFed : Except Error σ × Session}
    (answers : cursor.Undisturbed calmCursor)
    (keeps : Keeps fed calmFed) :
    Keeps (Session.conclude cursor fed) (Session.conclude calmCursor calmFed) := by
  cases keeps with
  | cancelled isCancelled =>
      exact .cancelled ((conclude_closed cursor fed).failed _ isCancelled).1
  | same sameOutcome undisturbed =>
      have closed := undisturbed.call .close cursor.closeFires
      rw [← answers.closeFires] at closed
      unfold Session.conclude closeCursor
      rw [sameOutcome, answers.closeFailure]
      cases fed.1 with
      | ok result => cases cursor.closeFailure <;> exact .same rfl closed
      | error error =>
          cases cursor.closeFailure with
          | none => exact .same rfl closed
          | some reason => exact .same rfl (closed.emit _)

end Keeping

/-! ## Opening and draining -/

section Draining

variable {session calm : Session} {σ : Type}

/-- What comes of opening a statement beside the undisturbed connection. -/
inductive Opens (ran calm : Except Error Cursor × Session) : Prop
  | cancelled : ran.1 = .error .cancelled → Opens ran calm
  | failed (error : Error) :
      ran.1 = .error error → calm.1 = .error error → ran.2.Undisturbed calm.2 → Opens ran calm
  | opened (cursor calmCursor : Cursor) :
      ran.1 = .ok cursor → calm.1 = .ok calmCursor → cursor.Undisturbed calmCursor →
      ran.2.Undisturbed calm.2 → Opens ran calm

/-- A statement is opened alike unless the token stops it. -/
theorem opens_openCursor
    (undisturbed : session.Undisturbed calm)
    (logged : Bool)
    (statement : Statement) :
    Opens (session.openCursor logged statement) (calm.openCursor logged statement) := by
  cases unfired : session.fired with
  | true =>
      rw [openCursor_of_fired unfired]
      exact .cancelled rfl
  | false =>
      have calls := congrArg (· ++ [ConnectionCall.open statement]) undisturbed.calls
      have events := congrArg (· ++ announced logged statement) undisturbed.events
      have related := undisturbed.replies
      rw [openCursor_of_unfired unfired, openCursor_of_unfired undisturbed.fired]
      generalize session.replies = replies, calm.replies = calmReplies at related
      cases related with
      | nil => exact .opened _ _ rfl rfl .empty ⟨rfl, .nil, calls, events⟩
      | @cons reply calmReply rest calmRest answers others =>
          cases answers with
          | cursor fires cursors =>
              exact .opened _ _ rfl rfl cursors ⟨rfl, others, calls, events⟩
          | failure reason fires =>
              exact .failed _ rfl rfl ⟨rfl, others, calls, events⟩
          | interrupted => exact .cancelled rfl

/-- A drained statement does what the undisturbed one does, or is cancelled. -/
theorem keeps_drain
    (undisturbed : session.Undisturbed calm)
    (logged : Bool)
    (statement : Statement)
    (budget : Option Nat)
    (step : σ → Row → Except Error σ)
    (initial : σ) :
    Keeps (session.drain logged statement budget step initial)
      (calm.drain logged statement budget step initial) := by
  have opening := opens_openCursor undisturbed logged statement
  rcases answer : session.openCursor logged statement with ⟨outcome, opened⟩
  rcases calmAnswer : calm.openCursor logged statement with ⟨calmOutcome, calmOpened⟩
  rw [answer, calmAnswer] at opening
  cases opening with
  | cancelled isCancelled =>
      obtain rfl : outcome = .error .cancelled := isCancelled
      rw [drain_of_error answer]
      exact .cancelled rfl
  | failed error failed calmFailed afterwards =>
      obtain rfl : outcome = .error error := failed
      obtain rfl : calmOutcome = .error error := calmFailed
      rw [drain_of_error answer, drain_of_error calmAnswer]
      exact .same rfl afterwards
  | opened cursor calmCursor returned calmReturned cursors afterwards =>
      obtain rfl : outcome = .ok cursor := returned
      obtain rfl : calmOutcome = .ok calmCursor := calmReturned
      rw [drain_eq_conclude answer, drain_eq_conclude calmAnswer, cursors.columns]
      exact (keeps_feedRows _ budget step initial afterwards cursors.fetches).conclude cursors

end Draining

end Session
end TypedSql
