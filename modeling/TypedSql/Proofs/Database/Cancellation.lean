import TypedSql.Proofs.Database.Composed

/-!
# Operations whose token fires

Whatever the operation and whenever its token fires, nothing is started from then on, every
cursor that was handed out is closed once, and the operation is cancelled if it was not done
yet.
-/

namespace TypedSql

/-- The number of calls that opened a statement or asked for a row. -/
def Session.startCount (session : Session) : Nat :=
  session.calls.countP ConnectionCall.starts

namespace Database
namespace Composed

variable {database : Database} {α : Type} {action : Action α}

/-- An operation that is put together from its parts behaves well towards its connection. -/
theorem behaves (composed : Composed database action) (session : Session) :
    session.Behaves (Error.of? (action session).1) (action session).2 := by
  induction composed generalizing session with
  | settled result honest => exact ⟨_, _, _, .nothing session none honest⟩
  | drained statement budget step initial honest =>
      exact Session.behaves_drain honest database.logged statement budget initial session
  | checked stage =>
      unfold checkToken
      cases unfired : session.fired with
      | true => exact ⟨_, _, _, .stopped none stage unfired⟩
      | false => exact ⟨_, _, _, .nothing session none (by simp)⟩
  | told relation parents => exact ⟨_, _, _, .told none _ rfl rfl⟩
  | @bound _ _ first next _ _ firstBehaves nextBehaves =>
      have front := firstBehaves session
      rw [Action.bind_apply]
      rcases ran : first session with ⟨outcome, middle⟩
      rw [ran] at front
      cases outcome with
      | error error => exact front
      | ok value => exact front.trans (nextBehaves value middle)

/-- Such an operation is cancelled, or does what it does where the token never fires. -/
theorem keeps
    (composed : Composed database action)
    {session calm : Session}
    (undisturbed : session.Undisturbed calm) :
    Session.Keeps (action session) (action calm) := by
  induction composed generalizing session calm with
  | settled result honest => exact .same rfl undisturbed
  | drained statement budget step initial honest =>
      exact Session.keeps_drain undisturbed database.logged statement budget step initial
  | checked stage =>
      unfold checkToken
      rw [undisturbed.fired]
      cases unfired : session.fired with
      | true => exact .cancelled rfl
      | false => exact .same rfl undisturbed
  | told relation parents => exact .same rfl (undisturbed.emit _)
  | @bound _ _ first next _ _ firstKeeps nextKeeps =>
      have front := firstKeeps undisturbed
      rw [Action.bind_apply, Action.bind_apply]
      rcases ran : first session with ⟨outcome, middle⟩
      rcases calmRan : first calm with ⟨calmOutcome, calmMiddle⟩
      rw [ran, calmRan] at front
      cases front with
      | cancelled isCancelled =>
          obtain rfl : outcome = .error .cancelled := isCancelled
          exact .cancelled rfl
      | same sameOutcome afterwards =>
          obtain rfl : calmOutcome = outcome := sameOutcome
          cases calmOutcome with
          | error error => exact .same rfl afterwards
          | ok value => exact nextKeeps value afterwards

end Composed

/--
Whatever an operation does and whenever its token fires, its calls are in order: none is
started once the token has fired, and every cursor that was handed out is closed once. An
operation that would have started more had the token not fired, or whose last call did not
complete, ends as cancelled, and the observer is told so once; one that is not cancelled does
what it does where the token never fires. After the token has fired nothing reaches the
connection, and no statement is announced.
-/
theorem nothing_starts_after_firing
    (database : Database)
    (request : Request)
    (session after : Session)
    (failure : Option Error)
    (ended : database.ends request session = (failure, after)) :
    ∃ calls isCut noticed,
      after.calls = session.calls ++ calls ∧
      after.events = session.events ++ noticed ∧
      (session.exchange false none).InOrder calls (after.exchange isCut none) ∧
      calls.count .close =
        Exchange.handedOut session.replies (calls.countP ConnectionCall.opens) ∧
      (isCut = true → failure = some .cancelled) ∧
      (∀ calm, session.Undisturbed calm →
        (after.startCount < (database.ends request calm).2.startCount →
          failure = some .cancelled) ∧
        (failure ≠ some .cancelled →
          (database.ends request calm).1 = failure ∧
          (database.ends request calm).2.calls = after.calls ∧
          (database.ends request calm).2.events = after.events)) ∧
      (failure = some .cancelled → after.fired = true) ∧
      noticed.countP Event.isCancelled = (if failure = some .cancelled then 1 else 0) ∧
      (session.fired = true → calls = [] ∧ noticed.countP Event.isExecuting = 0) := by
  obtain ⟨α, action, composed, ends⟩ := database.exists_composed request
  rw [ends] at ended
  obtain ⟨rfl, rfl⟩ := Prod.mk.inj ended
  obtain ⟨calls, isCut, noticed, conduct⟩ := composed.behaves session
  refine ⟨calls, isCut, noticed, conduct.calls, conduct.events, conduct.inOrder, ?_,
    conduct.cut, ?_, conduct.fired, conduct.cancelled, ?_⟩
  · simpa [Session.exchange] using conduct.inOrder.closes
  · intro calm undisturbed
    rw [ends]
    cases composed.keeps undisturbed with
    | cancelled isCancelled =>
        have stopped : Error.of? (action session).1 = some .cancelled := by
          rw [isCancelled]
          rfl
        exact ⟨fun _ => stopped, fun notStopped => absurd stopped notStopped⟩
    | same sameOutcome afterwards =>
        refine ⟨fun more => ?_, fun _ =>
          ⟨congrArg Error.of? sameOutcome, afterwards.calls, afterwards.events⟩⟩
        have sameCount : (action calm).2.startCount = (action session).2.startCount :=
          congrArg (List.countP ConnectionCall.starts) afterwards.calls
        exact absurd sameCount (Nat.ne_of_gt more)
  · intro hasFired
    exact ⟨Session.calls_eq_nil_of_fired conduct.inOrder hasFired rfl, conduct.quiet hasFired⟩

end Database

namespace Sample

/-- The players of teams. -/
def players : Shape := ⟨"players", [⟨"team", "team_id", ⟨.integer .signed64, false⟩⟩]⟩

/-- Teams, each with its players. -/
def teams : Model :=
  ⟨⟨"teams", [⟨"id", "id", ⟨.integer .signed64, false⟩⟩]⟩,
    [⟨"players", .many, players, "id", "team"⟩]⟩

/-- All teams. -/
def league : Query := database.source teams.shape

/-- The cursor of the players. -/
def squad : Cursor := ⟨["team_id"], [.row [.integer 1] false], false, none⟩

/-- A session with one team, whose token fires, or does not, while its cursor is closed. -/
def season (fires : Bool) : Session :=
  .start false
    [.cursor ⟨["id"], [.row [.integer 1] false], fires, none⟩ false, .cursor squad false]

/-- What is left of the season when the token fires. -/
def abandoned : Session :=
  ⟨true, [.cursor squad false], [.open league.toSelect, .fetch true, .fetch false, .close],
    [.executing league.toSelect.sql 0, .cancelled .loading]⟩

theorem season_undisturbed : (season true).Undisturbed (season false) where
  fired := rfl
  replies :=
    .cons (.cursor false ⟨rfl, .row _ _ .nothing, rfl, rfl⟩)
      (.cons (.cursor false ⟨rfl, .row _ _ .nothing, rfl, rfl⟩) .nil)
  calls := rfl
  events := rfl

end Sample

namespace Database

/-- The token fires after the teams were read, and the players are not asked for. -/
theorem nothing_starts_after_firing_season :
    Sample.database.ends (.loadSelect Sample.teams Sample.league ["players"] rfl)
        (Sample.season true) = (some .cancelled, Sample.abandoned) ∧
      (Sample.season true).Undisturbed (Sample.season false) ∧
      Sample.abandoned.startCount <
        (Sample.database.ends (.loadSelect Sample.teams Sample.league ["players"] rfl)
          (Sample.season false)).2.startCount ∧
      Sample.abandoned.fired = true ∧
      Sample.abandoned.calls.count .close = 1 ∧
      Sample.abandoned.events.countP Event.isCancelled = 1 := by
  have ended : Sample.database.ends
      (.loadSelect Sample.teams Sample.league ["players"] rfl) (Sample.season true) =
        (some .cancelled, Sample.abandoned) := rfl
  have more : Sample.abandoned.startCount <
      (Sample.database.ends (.loadSelect Sample.teams Sample.league ["players"] rfl)
        (Sample.season false)).2.startCount := by
    decide +kernel
  obtain ⟨calls, isCut, noticed, sameCalls, sameEvents, -, closes, -, calm, fired, told, -⟩ :=
    nothing_starts_after_firing _ _ _ _ _ ended
  have cancelled := (calm _ Sample.season_undisturbed).1 more
  obtain rfl : Sample.abandoned.calls = calls := sameCalls
  obtain rfl : Sample.abandoned.events = noticed := sameEvents
  exact ⟨ended, Sample.season_undisturbed, more, fired cancelled, closes,
    told.trans (if_pos cancelled)⟩

end Database
end TypedSql
