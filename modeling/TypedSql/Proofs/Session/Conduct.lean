import TypedSql.Proofs.Session.Exchange
import TypedSql.Proofs.Session.Stream

/-!
# How operations behave towards their connection

An operation behaves well if its calls are in order, every cursor that it was handed is
closed, and the observer is told of a cancellation once if the operation was cancelled and
never otherwise. Opening, feeding and closing do so one after the other, and so do drained
statements.
-/

namespace TypedSql

namespace Event

/-- Whether the observer is told that an operation stops because its token fired. -/
def isCancelled : Event → Bool
  | .cancelled _ => true
  | _ => false

/-- Whether the observer is told of a statement. -/
def isExecuting : Event → Bool
  | .executing .. => true
  | _ => false

end Event

/-- The error of an outcome, if it is one. -/
def Error.of? {α : Type} : Except Error α → Option Error
  | .ok _ => none
  | .error error => some error

@[simp] theorem Error.of?_ok {α : Type} (result : α) :
    Error.of? (.ok result : Except Error α) = none := rfl

@[simp] theorem Error.of?_error {α : Type} (error : Error) :
    Error.of? (.error error : Except Error α) = some error := rfl

namespace Session

/-- The connection of a session, given the cursor that is open. -/
def exchange (session : Session) (cut : Bool) (cursor : Option Cursor) : Exchange :=
  ⟨session.fired, cut, session.replies, cursor⟩

/--
What an operation did that started with the cursor `held` open, ended with the cursor
`left` open, and failed or did not: the calls it made, whether one of them did not complete
because the token fired, and what the observer was told.
-/
structure Conduct
    (session : Session)
    (held : Option Cursor)
    (made : List ConnectionCall)
    (isCut : Bool)
    (noticed : List Event)
    (failure : Option Error)
    (left : Option Cursor)
    (after : Session) : Prop where
  calls : after.calls = session.calls ++ made
  events : after.events = session.events ++ noticed
  inOrder : (session.exchange false held).InOrder made (after.exchange isCut left)
  /-- A call that did not complete ends the operation. -/
  cut : isCut = true → failure = some .cancelled
  fired : failure = some .cancelled → after.fired = true
  cancelled : noticed.countP Event.isCancelled = if failure = some .cancelled then 1 else 0
  /-- No statement is announced once the token has fired. -/
  quiet : session.fired = true → noticed.countP Event.isExecuting = 0

/-- An operation that starts and ends without an open cursor behaves well. -/
def Behaves (session : Session) (failure : Option Error) (after : Session) : Prop :=
  ∃ made isCut noticed, Conduct session none made isCut noticed failure none after

section Conducts

variable
  {session middle after : Session}
  {held between left : Option Cursor}
  {made others : List ConnectionCall}
  {isCut : Bool}
  {noticed seen : List Event}
  {failure : Option Error}

/-- A token that has fired stays so. -/
theorem fired_of_inOrder
    {exchange last : Exchange}
    (inOrder : exchange.InOrder made last)
    (hasFired : exchange.fired = true) :
    last.fired = true := by
  induction inOrder with
  | nothing => exact hasFired
  | @call exchange next last call calls unfired answered _ inductionHypothesis =>
      apply inductionHypothesis
      cases call with
      | close =>
          obtain ⟨cursor, _, rfl⟩ := Option.map_eq_some_iff.mp answered
          simp [hasFired]
      | «open» statement =>
          rw [unfired rfl] at hasFired
          cases hasFired
      | fetch found =>
          rw [unfired rfl] at hasFired
          cases hasFired

/-- Once the token has fired, nothing but an open cursor can be closed. -/
theorem calls_eq_nil_of_fired
    {exchange last : Exchange}
    (inOrder : exchange.InOrder made last)
    (hasFired : exchange.fired = true)
    (noCursor : exchange.cursor = none) :
    made = [] := by
  cases inOrder with
  | nothing => rfl
  | @call _ _ _ call _ unfired answered _ =>
      cases call with
      | close =>
          obtain ⟨cursor, isOpen, _⟩ := Option.map_eq_some_iff.mp answered
          rw [noCursor] at isOpen
          cases isOpen
      | «open» statement =>
          rw [unfired rfl] at hasFired
          cases hasFired
      | fetch found =>
          rw [unfired rfl] at hasFired
          cases hasFired

theorem Conduct.nothing
    (session : Session)
    (held : Option Cursor)
    (notCancelled : failure ≠ some .cancelled) :
    Conduct session held [] false [] failure held session where
  calls := (List.append_nil _).symm
  events := (List.append_nil _).symm
  inOrder := .nothing _
  cut := by simp
  fired := fun isCancelled => absurd isCancelled notCancelled
  cancelled := (if_neg notCancelled).symm
  quiet := fun _ => rfl

/-- An operation stops before its next call once the token has fired. -/
theorem Conduct.stopped
    (held : Option Cursor)
    (stage : Stage)
    (hasFired : session.fired = true) :
    Conduct session held [] false [.cancelled stage] (some .cancelled) held
      (session.emit (.cancelled stage)) where
  calls := (List.append_nil _).symm
  events := rfl
  inOrder := .nothing _
  cut := by simp
  fired := fun _ => hasFired
  cancelled := rfl
  quiet := fun _ => rfl

/-- The observer may be told of other things. -/
theorem Conduct.told
    (held : Option Cursor)
    (event : Event)
    (notCancelled : event.isCancelled = false)
    (notExecuting : event.isExecuting = false) :
    Conduct session held [] false [event] none held (session.emit event) where
  calls := (List.append_nil _).symm
  events := rfl
  inOrder := .nothing _
  cut := by simp
  fired := by simp
  cancelled := by simp [notCancelled]
  quiet := fun _ => by simp [notExecuting]

/-- What follows on a success is done after it. -/
theorem Conduct.trans
    {wasCut : Bool}
    (first : Conduct session held made wasCut noticed none between middle)
    (second : Conduct middle between others isCut seen failure left after) :
    Conduct session held (made ++ others) isCut (noticed ++ seen) failure left after where
  calls := by rw [second.calls, first.calls, List.append_assoc]
  events := by rw [second.events, first.events, List.append_assoc]
  inOrder := by
    have complete : wasCut = false := by
      cases stalled : wasCut with
      | false => rfl
      | true => cases first.cut stalled
    exact (complete ▸ first.inOrder).append second.inOrder
  cut := second.cut
  fired := second.fired
  cancelled := by
    rw [List.countP_append, first.cancelled, second.cancelled, if_neg (by simp), Nat.zero_add]
  quiet := by
    intro hasFired
    have middleFired : middle.fired = true := fired_of_inOrder first.inOrder hasFired
    rw [List.countP_append, first.quiet hasFired, second.quiet middleFired]

/-- What one call does that is made before the token has fired. -/
theorem Conduct.one
    (call : ConnectionCall)
    (unfired : session.fired = false)
    (answered : (session.exchange false held).answer call = some (after.exchange isCut left))
    (calls : after.calls = session.calls ++ [call])
    (events : after.events = session.events ++ noticed)
    (cut : isCut = true → failure = some .cancelled)
    (fired : failure = some .cancelled → after.fired = true)
    (cancelled :
      noticed.countP Event.isCancelled = if failure = some .cancelled then 1 else 0) :
    Conduct session held [call] isCut noticed failure left after where
  calls := calls
  events := events
  inOrder := .one (fun _ => unfired) answered
  cut := cut
  fired := fired
  cancelled := cancelled
  quiet := by
    intro hasFired
    rw [unfired] at hasFired
    cases hasFired

theorem Behaves.trans
    (first : session.Behaves none middle)
    (second : middle.Behaves failure after) :
    session.Behaves failure after := by
  obtain ⟨_, _, _, first⟩ := first
  obtain ⟨_, _, _, second⟩ := second
  exact ⟨_, _, _, first.trans second⟩

end Conducts

/-! ## Opening -/

section Opening

variable {logged : Bool} {statement : Statement} {session opened : Session}

/-- What the observer is told of a statement. -/
def announced (logged : Bool) (statement : Statement) : List Event :=
  if logged then [.executing statement.sql statement.parameters.length] else []

theorem announce_eq (session : Session) (logged : Bool) (statement : Statement) :
    session.announce logged statement =
      { session with events := session.events ++ announced logged statement } := by
  cases logged with
  | true => rfl
  | false => simp [announce, announced]

theorem countP_isCancelled_announced (logged : Bool) (statement : Statement) :
    (announced logged statement).countP Event.isCancelled = 0 := by
  cases logged <;> rfl

/-- A statement that is opened before the token fired is answered by the first reply. -/
theorem openCursor_of_unfired
    (unfired : session.fired = false)
    (logged : Bool)
    (statement : Statement) :
    session.openCursor logged statement =
      match session.replies with
      | [] =>
          (.ok .empty, ⟨false, [], session.calls ++ [.open statement],
            session.events ++ announced logged statement⟩)
      | reply :: rest =>
          answerOpen ⟨false, rest, session.calls ++ [.open statement],
            session.events ++ announced logged statement⟩ reply := by
  obtain ⟨fired, replies, calls, events⟩ := session
  obtain rfl : fired = false := unfired
  rw [openCursor, announce_eq]
  cases replies <;> rfl

theorem openCursor_of_fired
    (hasFired : session.fired = true)
    (logged : Bool)
    (statement : Statement) :
    session.openCursor logged statement =
      (.error .cancelled, session.emit (.cancelled .opening)) := by
  rw [openCursor, if_pos hasFired]
  rfl

theorem conduct_openCursor_of_ok
    {cursor : Cursor}
    (returned : session.openCursor logged statement = (.ok cursor, opened)) :
    Conduct session none [.open statement] false (announced logged statement) none
      (some cursor) opened := by
  obtain ⟨unfired, _, _⟩ := openCursor_ok returned
  rw [openCursor_of_unfired unfired] at returned
  have noneCancelled := countP_isCancelled_announced logged statement
  cases replies : session.replies with
  | nil =>
      rw [replies] at returned
      cases returned
      refine .one _ unfired ?_ rfl rfl (by simp) (by simp) noneCancelled
      simp [exchange, Exchange.answer, replies, unfired]
  | cons reply rest =>
      rw [replies] at returned
      cases reply with
      | failure reason fires => cases returned
      | interrupted => cases returned
      | cursor found fires =>
          cases returned
          refine .one _ unfired ?_ rfl rfl (by simp) (by simp) noneCancelled
          simp [exchange, Exchange.answer, replies, unfired, fireIf]

theorem behaves_openCursor_of_error
    {error : Error}
    (refused : session.openCursor logged statement = (.error error, opened)) :
    session.Behaves (some error) opened := by
  have noneCancelled := countP_isCancelled_announced logged statement
  cases unfired : session.fired with
  | true =>
      rw [openCursor_of_fired unfired] at refused
      cases refused
      exact ⟨_, _, _, .stopped none .opening unfired⟩
  | false =>
      rw [openCursor_of_unfired unfired] at refused
      cases replies : session.replies with
      | nil =>
          rw [replies] at refused
          cases refused
      | cons reply rest =>
          rw [replies] at refused
          cases reply with
          | cursor found fires => cases refused
          | failure reason fires =>
              cases refused
              refine ⟨_, false, announced logged statement,
                .one (.open statement) unfired ?_ rfl rfl (by simp) (by simp)
                  noneCancelled⟩
              simp [exchange, Exchange.answer, replies, unfired, fireIf]
          | interrupted =>
              cases refused
              refine ⟨_, true, announced logged statement ++ [.cancelled .opening],
                .one (.open statement) unfired ?_ rfl ?_ (fun _ => rfl) (fun _ => rfl)
                  ?_⟩
              · simp [exchange, Exchange.answer, replies, fire, fireIf, emit]
              · exact List.append_assoc _ _ _
              · rw [List.countP_append, noneCancelled]
                rfl

end Opening

/-! ## Feeding -/

section Feeding

variable {σ : Type} {step : σ → Row → Except Error σ}

/-- A step never claims that the token has fired. -/
def NeverCancels (step : σ → Row → Except Error σ) : Prop :=
  ∀ state row error, step state row = .error error → error ≠ .cancelled

/-- Rows are asked of the open cursor one by one, and not after the token has fired. -/
theorem conduct_feedRows
    (honest : NeverCancels step)
    (budget : Option Nat)
    (initial : σ)
    (cursor : Cursor)
    (session : Session) :
    ∃ left made isCut noticed,
      left.closeFires = cursor.closeFires ∧
      Conduct session (some cursor) made isCut noticed
        (Error.of? (feedRows cursor.columns step budget cursor.fetches initial session).1)
        (some left) (feedRows cursor.columns step budget cursor.fetches initial session).2 := by
  -- Each reply that is consumed advances the cursor, so the induction is on the replies left.
  induction replies : cursor.fetches generalizing budget initial cursor session with
  | nil =>
      by_cases room : budget = some 0
      · subst room
        exact ⟨cursor, _, _, _, rfl, .nothing session _ (by simp [feedRows])⟩
      cases unfired : session.fired with
      | true =>
          rw [feedRows_of_fired room unfired]
          exact ⟨cursor, _, _, _, rfl, .stopped _ .fetching unfired⟩
      | false =>
          rw [feedRows_nil room unfired]
          refine ⟨cursor, _, false, [], rfl,
            .one (.fetch false) unfired ?_ rfl (List.append_nil _).symm (by simp)
              (by simp) rfl⟩
          simp [exchange, Exchange.answer, replies, note]
  | cons reply rest inductionHypothesis =>
      by_cases room : budget = some 0
      · subst room
        exact ⟨cursor, _, _, _, rfl, .nothing session _ (by simp [feedRows])⟩
      cases unfired : session.fired with
      | true =>
          rw [feedRows_of_fired room unfired]
          exact ⟨cursor, _, _, _, rfl, .stopped _ .fetching unfired⟩
      | false =>
          rw [feedRows_cons room unfired reply]
          have advanced : cursor.advance.fetches = rest := by
            rw [Cursor.advance, replies]
            rfl
          cases reply with
          | failure reason =>
              refine ⟨cursor.advance, _, false, [], rfl,
                .one (.fetch false) unfired ?_ rfl (List.append_nil _).symm (by simp)
                  (by simp [answerFetch]) rfl⟩
              simp [exchange, Exchange.answer, replies, note, answerFetch]
          | interrupted =>
              have stopped : session.answerFetch cursor.columns (some .interrupted) =
                  (.failed .cancelled,
                    (session.note (.fetch false)).fire.emit (.cancelled .fetching)) := rfl
              rw [stopped]
              refine ⟨cursor.advance, _, true, [.cancelled .fetching], rfl,
                .one (.fetch false) unfired ?_ rfl rfl (fun _ => rfl) ?_ rfl⟩
              · simp [exchange, Exchange.answer, replies, note, fire, fireIf, emit]
              · simp [note, fire, fireIf, emit]
          | row cells fires =>
              have asked : Conduct session (some cursor) [.fetch true] false [] none
                  (some cursor.advance) (session.afterRow fires) := by
                refine .one (.fetch true) unfired ?_ rfl (List.append_nil _).symm
                  (by simp) (by simp) rfl
                simp [exchange, Exchange.answer, replies, note, fireIf]
              cases decision : step initial ⟨cursor.columns, cells⟩ with
              | error error =>
                  simp only [answerFetch, decision]
                  have notCancelled : some error ≠ some .cancelled := fun same =>
                    honest _ _ _ decision (Option.some.inj same)
                  exact ⟨cursor.advance, _, _, _, rfl, asked.trans (.nothing _ _ notCancelled)⟩
              | ok state =>
                  simp only [answerFetch, decision]
                  obtain ⟨left, made, isCut, noticed, sameClosing, others⟩ :=
                    inductionHypothesis (budget.map Nat.pred) state cursor.advance
                      (session.afterRow fires) advanced
                  exact ⟨left, _, _, _, sameClosing, asked.trans others⟩

end Feeding

/-! ## Closing -/

section Closing

variable {σ : Type} {cursor : Cursor} {fed : Except Error σ × Session}

theorem of?_conclude (cursor : Cursor) (fed : Except Error σ × Session) :
    Error.of? (conclude cursor fed).1 =
      (Error.of? fed.1).or
        (cursor.closeFailure.map fun reason => .execution (.reported reason)) := by
  obtain ⟨outcome, session⟩ := fed
  unfold conclude closeCursor
  cases outcome <;> cases cursor.closeFailure <;> rfl

theorem exchange_conclude (cursor : Cursor) (fed : Except Error σ × Session) (isCut : Bool) :
    (conclude cursor fed).2.exchange isCut none =
      ⟨fed.2.fired || cursor.closeFires, isCut, fed.2.replies, none⟩ := by
  obtain ⟨outcome, session⟩ := fed
  unfold conclude closeCursor
  cases outcome <;> cases cursor.closeFailure <;> rfl

/-- What the observer is told when a cursor is closed. -/
def closingEvents (cursor : Cursor) (failure : Option Error) : List Event :=
  match failure, cursor.closeFailure with
  | some _, some reason => [.closeFailed (Error.execution (.reported reason)).message]
  | _, _ => []

theorem events_conclude (cursor : Cursor) (fed : Except Error σ × Session) :
    (conclude cursor fed).2.events =
      fed.2.events ++ closingEvents cursor (Error.of? fed.1) := by
  obtain ⟨outcome, session⟩ := fed
  unfold conclude closeCursor closingEvents
  cases outcome <;> cases cursor.closeFailure <;> simp [settle]

theorem countP_closingEvents
    {kind : Event → Bool}
    (other : ∀ reason, kind (.closeFailed reason) = false)
    (cursor : Cursor)
    (failure : Option Error) :
    (closingEvents cursor failure).countP kind = 0 := by
  unfold closingEvents
  split <;> simp [other]

/-- Only what was fed can be cancelled; closing cannot. -/
theorem of?_conclude_eq_cancelled :
    Error.of? (conclude cursor fed).1 = some .cancelled ↔
      Error.of? fed.1 = some .cancelled := by
  rw [of?_conclude]
  cases Error.of? fed.1 with
  | some error => simp
  | none => cases cursor.closeFailure <;> simp

/-- The open cursor is closed whatever came of its rows. -/
theorem Conduct.conclude
    {session : Session}
    {left : Cursor}
    {held : Option Cursor}
    {made : List ConnectionCall}
    {isCut : Bool}
    {noticed : List Event}
    (feeding : Conduct session held made isCut noticed (Error.of? fed.1) (some left) fed.2)
    (sameClosing : left.closeFires = cursor.closeFires) :
    Conduct session held (made ++ [.close]) isCut
      (noticed ++ closingEvents cursor (Error.of? fed.1))
      (Error.of? (Session.conclude cursor fed).1) none (Session.conclude cursor fed).2 where
  calls := by rw [(conclude_closed cursor fed).calls, feeding.calls, List.append_assoc]
  events := by rw [events_conclude, feeding.events, List.append_assoc]
  inOrder := by
    refine feeding.inOrder.append (.one (by simp [ConnectionCall.starts]) ?_)
    rw [exchange_conclude, ← sameClosing]
    rfl
  cut := fun stalled => of?_conclude_eq_cancelled.mpr (feeding.cut stalled)
  fired := by
    intro isCancelled
    have hasFired := feeding.fired (of?_conclude_eq_cancelled.mp isCancelled)
    have same := congrArg Exchange.fired (exchange_conclude cursor fed isCut)
    exact same.trans (by rw [hasFired, Bool.true_or])
  cancelled := by
    rw [List.countP_append, feeding.cancelled, countP_closingEvents (fun _ => rfl),
      Nat.add_zero]
    simp only [of?_conclude_eq_cancelled]
  quiet := by
    intro hasFired
    rw [List.countP_append, feeding.quiet hasFired, countP_closingEvents (fun _ => rfl)]

/-- A drained statement behaves well. -/
theorem behaves_drain
    {step : σ → Row → Except Error σ}
    (honest : NeverCancels step)
    (logged : Bool)
    (statement : Statement)
    (budget : Option Nat)
    (initial : σ)
    (session : Session) :
    session.Behaves (Error.of? (session.drain logged statement budget step initial).1)
      (session.drain logged statement budget step initial).2 := by
  rcases answer : session.openCursor logged statement with ⟨outcome, opened⟩
  cases outcome with
  | error error =>
      rw [drain_of_error answer]
      exact behaves_openCursor_of_error answer
  | ok cursor =>
      rw [drain_eq_conclude answer]
      obtain ⟨left, made, isCut, noticed, sameClosing, feeding⟩ :=
        conduct_feedRows honest budget initial cursor opened
      have opening := conduct_openCursor_of_ok answer
      exact ⟨_, _, _, (opening.trans feeding).conclude sameClosing⟩

end Closing

end Session
end TypedSql
