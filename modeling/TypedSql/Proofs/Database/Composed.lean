import TypedSql.Proofs.Database.Request
import TypedSql.Proofs.Relation.Attaching

/-!
# What operations are put together from

Every operation but the stream is put together from drained statements, checks of the token,
what the observer is told of a relation, and steps that need no connection. What all of these
have, and what is kept when one follows another, every operation has.
-/

namespace TypedSql

namespace Action

variable {α β : Type}

/-- What follows on an operation is done with its result if there is one. -/
theorem bind_apply (first : Action α) (next : α → Action β) (session : Session) :
    (first >>= next) session =
      match first session with
      | (.ok value, after) => next value after
      | (.error error, after) => (.error error, after) := by
  have unfolded : (first >>= next) session =
      (ExceptT.bindCont next (first session).1 : StateM Session _) (first session).2 := rfl
  rw [unfolded]
  rcases first session with ⟨outcome, after⟩
  cases outcome <;> rfl

theorem ofCompile_bind_apply
    (compiled : Except CompileError α)
    (next : α → Action β)
    (session : Session) :
    (ofCompile compiled >>= next) session =
      match compiled with
      | .ok value => next value session
      | .error cause => (.error (.compilation cause), session) := by
  rw [bind_apply]
  cases compiled <;> rfl

theorem map_apply (f : α → β) (action : Action α) (session : Session) :
    (f <$> action) session = ((action session).1.map f, (action session).2) := by
  rw [map_eq_pure_bind, bind_apply]
  rcases action session with ⟨outcome, after⟩
  cases outcome <;> rfl

end Action

namespace Database

/-- An operation that is put together from its parts. -/
inductive Composed (database : Database) : {α : Type} → Action α → Prop
  /-- A step that needs no connection. -/
  | settled {α : Type} (result : Except Error α) :
      Error.of? result ≠ some .cancelled →
      Composed database fun session => (result, session)
  | drained {σ : Type} (statement : Statement) (budget : Option Nat)
      (step : σ → Row → Except Error σ) (initial : σ) :
      Session.NeverCancels step →
      Composed database (database.drain statement budget step initial)
  | checked (stage : Stage) : Composed database (checkToken stage)
  | told (relation : String) (parents : Nat) :
      Composed database (tell (.loading relation parents))
  | bound {α β : Type} {first : Action α} {next : α → Action β} :
      Composed database first → (∀ value, Composed database (next value)) →
      Composed database (first >>= next)

namespace Composed

variable {database : Database} {α β : Type}

theorem returned (value : α) : Composed database (pure value : Action α) :=
  .settled (.ok value) (by simp)

theorem compiled (result : Except CompileError α) :
    Composed database (Action.ofCompile result) := by
  refine .settled _ ?_
  cases result <;> simp [Except.mapError]

theorem mapped {action : Action α} (f : α → β) (composed : Composed database action) :
    Composed database (f <$> action) := by
  rw [map_eq_pure_bind]
  exact .bound composed fun value => .returned (f value)

theorem folded
    {step : α → β → Action α}
    (each : ∀ value item, Composed database (step value item))
    (items : List β)
    (initial : α) :
    Composed database (items.foldlM step initial) := by
  induction items generalizing initial with
  | nil => exact .returned initial
  | cons item items inductionHypothesis =>
      rw [List.foldlM_cons]
      exact .bound (each initial item) inductionHypothesis

end Composed

/-- A step that fails by rows only never claims that the token has fired. -/
theorem FailsByRows.neverCancels
    {σ : Type}
    {step : σ → Row → Except Error σ}
    (rows : FailsByRows step) :
    Session.NeverCancels step := by
  rintro state row error failed rfl
  cases rows _ _ _ failed

section Operations

variable (database : Database)

theorem composed_collect
    (statement : Statement)
    (shape : Shape)
    (only : Restriction)
    (budget : Option Nat) :
    Composed database (database.collect statement shape only budget) :=
  .drained _ _ _ _ (database.recordStep_failsByRows shape only).neverCancels

theorem composed_select (query : Query) : Composed database (database.select query) :=
  database.composed_collect _ _ _ _

theorem composed_selectInto (query : Query) (target : Shape) :
    Composed database (database.selectInto query target) :=
  .bound (.compiled _) fun _ => database.composed_collect _ _ _ _

theorem composed_selectWhere (root : Shape) (predicate : Expr) :
    Composed database (database.selectWhere root predicate) :=
  .bound (.compiled _) database.composed_select

theorem composed_selectMulti (query : Query) (shapes : List Shape) :
    Composed database (database.selectMulti query shapes) := by
  refine .bound (.compiled _) fun (statement, layout) => .drained _ _ _ _ ?_
  rintro tuples row error failed rfl
  rcases isOfRow_or_of_tupleStep failed with ofRow | ⟨_, cause, isCompilation⟩
  · cases ofRow
  · cases isCompilation

theorem composed_single (query : Query) : Composed database (database.single query) :=
  .bound (database.composed_collect _ _ _ _) fun _ => .returned _

theorem composed_singleWhere (root : Shape) (predicate : Expr) :
    Composed database (database.singleWhere root predicate) :=
  .bound (.compiled _) database.composed_single

theorem composed_scalarOf (query : Query) (type : FieldType) :
    Composed database (database.scalarOf query type) :=
  .drained _ _ _ _ (database.scalarStep_failsByRows type).neverCancels

theorem composed_scalar
    (root : Shape)
    (item : Expr)
    (predicate : Option Expr)
    (type : FieldType) :
    Composed database (database.scalar root item predicate type) := by
  refine .bound (.compiled _) fun selected => ?_
  cases predicate with
  | none => exact .bound (.returned selected) fun query => database.composed_scalarOf query type
  | some condition =>
      exact .bound (.compiled _) fun query => database.composed_scalarOf query type

theorem composed_countStatement (statement : Statement) :
    Composed database (database.countStatement statement) :=
  .drained _ _ _ _ database.countStep_failsByRows.neverCancels

theorem composed_countWhere (root : Shape) (predicate : Expr) :
    Composed database (database.countWhere root predicate) :=
  .bound (.compiled _) fun query => database.composed_countStatement query.toCount

end Operations

/-! ## Relations -/

section Relations

variable (database : Database) (shape : Shape) (query : Query)

theorem composed_readChildren (relation : Relation) (parents : List Parent) :
    Composed database (database.readChildren shape query relation parents) := by
  refine .bound (.checked _) fun _ => .bound (.compiled _) fun (position, field) => ?_
  dsimp only
  split
  · exact .returned none
  · refine .bound (.compiled _) fun keys => .bound (.told _ _) fun _ =>
      .bound (.compiled _) fun statement => .bound ?_ fun rows => .returned (some rows)
    exact .drained _ _ _ _ rowStep_failsByRows.neverCancels

/-- What is made of the rows that were read, if there was anything to read. -/
def attachRead
    (relation : Relation)
    (slot : Nat)
    (parents : List Parent) :
    Option (List Row) → Except Error Unit × List Parent
  | none => (.ok (), parents)
  | some rows => relation.attach slot shape database.dialect (columnsOf rows) rows parents

/-- The parents with a relation loaded, if that succeeds. -/
def loadOne (entry : Relation × Nat) (parents : List Parent) : Action (List Parent) := do
  let read ← database.readChildren shape query entry.1 parents
  let (outcome, loaded) := database.attachRead shape entry.1 entry.2 parents read
  fun session => (outcome.map fun _ => loaded, session)

theorem loadOne_apply (entry : Relation × Nat) (parents : List Parent) (session : Session) :
    database.loadOne shape query entry parents session =
      let ((outcome, loaded), after) :=
        database.loadRelation shape query entry.1 entry.2 parents session
      (outcome.map fun _ => loaded, after) := by
  rw [loadOne, Action.bind_apply, loadRelation]
  rcases database.readChildren shape query entry.1 parents session with ⟨_ | _ | rows, after⟩ <;>
    rfl

theorem isOfRow_or_of_attachRead
    {relation : Relation}
    {slot : Nat}
    {parents : List Parent}
    {read : Option (List Row)}
    {error : Error}
    (failed : (database.attachRead shape relation slot parents read).1 = .error error) :
    error.isOfRow = true ∨
      ∃ cause, error = .compilation cause ∧
        (relation.child.locate relation.childKey = .error cause ∨
          shape.locate relation.parentKey = .error cause) := by
  cases read with
  | none => cases failed
  | some rows => exact Relation.isOfRow_or_of_attach failed

theorem composed_loadOne (entry : Relation × Nat) (parents : List Parent) :
    Composed database (database.loadOne shape query entry parents) := by
  refine .bound (database.composed_readChildren shape query entry.1 parents) fun read => ?_
  rcases attached : database.attachRead shape entry.1 entry.2 parents read with ⟨outcome, loaded⟩
  refine .settled _ ?_
  cases outcome with
  | ok _ => exact nofun
  | error error =>
      rcases database.isOfRow_or_of_attachRead shape (congrArg Prod.fst attached) with
        ofRow | ⟨cause, rfl, _⟩
      · rintro ⟨⟩
        cases ofRow
      · exact nofun

/-- Relations are loaded one after the other, and nothing is done without parents. -/
theorem loadAll_eq (relations : List (Relation × Nat)) (parents : List Parent) :
    database.loadAll shape query relations parents =
      if parents.isEmpty then pure parents
      else relations.foldlM (fun loaded entry => database.loadOne shape query entry loaded)
        parents := by
  funext session
  unfold loadAll loadReferences
  cases parents.isEmpty with
  | true => rfl
  | false =>
      simp only [Bool.false_eq_true, if_false]
      induction relations generalizing parents session with
      | nil => rfl
      | cons entry relations inductionHypothesis =>
          rw [List.foldlM_cons, Action.bind_apply, loadOne_apply, loadRelations]
          rcases database.loadRelation shape query entry.1 entry.2 parents session
            with ⟨⟨_ | _, loaded⟩, after⟩
          · rfl
          · exact inductionHypothesis loaded after

theorem composed_loadAll (relations : List (Relation × Nat)) (parents : List Parent) :
    Composed database (database.loadAll shape query relations parents) := by
  rw [loadAll_eq]
  split
  · exact .returned parents
  · refine Composed.folded ?_ relations parents
    intro loaded entry
    exact database.composed_loadOne shape query entry loaded

theorem loadOnto_eq (model : Model) (relations : List (Relation × Nat)) (records : List Record) :
    database.loadOnto model query relations records =
      database.loadAll model.shape query relations (records.map (Parent.ofRecord model)) := by
  funext session
  unfold loadOnto loadAll
  rcases database.loadReferences model.shape query relations
    (records.map (Parent.ofRecord model)) session with ⟨⟨outcome, parents⟩, after⟩
  cases outcome <;> rfl

theorem composed_loadOnto
    (model : Model)
    (relations : List (Relation × Nat))
    (records : List Record) :
    Composed database (database.loadOnto model query relations records) := by
  rw [loadOnto_eq]
  exact database.composed_loadAll model.shape query relations _

theorem composed_loadSelect (model : Model) (names : List String) :
    Composed database (database.loadSelect model query names) :=
  .bound (.compiled _) fun relations => .bound (database.composed_select query) fun records =>
    database.composed_loadOnto query model relations records

theorem composed_loadSelectInto (model : Model) (names : List String) :
    Composed database (database.loadSelectInto model query names) :=
  .bound (.compiled _) fun relations =>
    .bound (database.composed_selectInto query model.shape) fun records =>
      database.composed_loadOnto query model relations records

theorem composed_loadSelectWhere (model : Model) (predicate : Expr) (names : List String) :
    Composed database (database.loadSelectWhere model predicate names) :=
  .bound (.compiled _) fun query => database.composed_loadSelect query model names

end Relations

/-- What an operation returns does not matter to how it ends, unless it is a stream. -/
theorem map_failure?_map
    {α : Type}
    {wrap : α → Answer}
    (plain : ∀ value, Answer.failure? (.ok (wrap value)) = none)
    (action : Action α)
    (session : Session) :
    ((wrap <$> action) session).map Answer.failure? id =
      (action session).map Error.of? id := by
  rw [Action.map_apply]
  rcases action session with ⟨outcome, after⟩
  cases outcome with
  | ok value => exact congrArg (·, after) (plain value)
  | error error => rfl

/-- Every operation ends like one that is put together from its parts. -/
theorem exists_composed (database : Database) (request : Request) :
    ∃ (α : Type) (action : Action α), Composed database action ∧
      ∀ session, database.ends request session = (action session).map Error.of? id := by
  have like {α : Type} {action : Action α} {wrap : α → Answer}
      (composed : Composed database action)
      (plain : ∀ value, Answer.failure? (.ok (wrap value)) = none)
      (performs : database.perform request = wrap <$> action) :
      ∃ (α : Type) (action : Action α), Composed database action ∧
        ∀ session, database.ends request session = (action session).map Error.of? id := by
    refine ⟨α, action, composed, fun session => ?_⟩
    rw [ends, performs, map_failure?_map plain]
  cases request with
  | stream query =>
      exact ⟨_, _, database.composed_select query, database.ends_stream query⟩
  | select query => exact like (database.composed_select query) (fun _ => rfl) rfl
  | selectInto query target =>
      exact like (database.composed_selectInto query target) (fun _ => rfl) rfl
  | selectWhere root predicate =>
      exact like (database.composed_selectWhere root predicate) (fun _ => rfl) rfl
  | selectMulti query shapes =>
      exact like (database.composed_selectMulti query shapes) (fun _ => rfl) rfl
  | single query => exact like (database.composed_single query) (fun _ => rfl) rfl
  | singleWhere root predicate =>
      exact like (database.composed_singleWhere root predicate) (fun _ => rfl) rfl
  | scalar root item predicate type =>
      exact like (database.composed_scalar root item predicate type) (fun _ => rfl) rfl
  | scalarOf query type => exact like (database.composed_scalarOf query type) (fun _ => rfl) rfl
  | count query => exact like (database.composed_countStatement _) (fun _ => rfl) rfl
  | countWhere root predicate =>
      exact like (database.composed_countWhere root predicate) (fun _ => rfl) rfl
  | countAll root => exact like (database.composed_countStatement _) (fun _ => rfl) rfl
  | countStatement statement =>
      exact like (database.composed_countStatement statement) (fun _ => rfl) rfl
  | rowCount query => exact like (database.composed_countStatement _) (fun _ => rfl) rfl
  | rowCountOf statement => exact like (database.composed_countStatement _) (fun _ => rfl) rfl
  | loadSelect model query names =>
      exact like (database.composed_loadSelect query model names) (fun _ => rfl) rfl
  | loadSelectInto model query names =>
      exact like (database.composed_loadSelectInto query model names) (fun _ => rfl) rfl
  | loadSelectWhere model predicate names =>
      exact like (database.composed_loadSelectWhere model predicate names) (fun _ => rfl) rfl
  | loadReferences shape query relations parents =>
      exact like (database.composed_loadAll shape query relations parents) (fun _ => rfl) rfl

end Database
end TypedSql
