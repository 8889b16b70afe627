import TypedSql.Proofs.Relation.Keys

/-!
# Errors of compilation and the connection

An operation compiles its statements before it opens any, so that an error of compilation
leaves the session as it was. The exception is a relation that is loaded onto records of another
entity than the query's root: whether its keys can be read from the query is found out only
once the records have been read.
-/

namespace TypedSql

namespace Session

variable {σ : Type} {session after : Session} {logged : Bool} {statement : Statement}
  {error : Error}

theorem isCompilation_of_openCursor
    (refused : (session.openCursor logged statement).1 = .error error) :
    error.isCompilation = false := by
  cases unfired : session.fired with
  | true =>
      rw [openCursor_of_fired unfired] at refused
      cases refused
      rfl
  | false =>
      rw [openCursor_of_unfired unfired] at refused
      cases replies : session.replies with
      | nil =>
          rw [replies] at refused
          cases refused
      | cons reply rest =>
          rw [replies] at refused
          cases reply <;> cases refused <;> rfl

/-- Neither a connection nor a step that fails by rows reports an error of compilation. -/
theorem isCompilation_of_drain
    {budget : Option Nat}
    {step : σ → Row → Except Error σ}
    {initial : σ}
    (rows : Database.FailsByRows step)
    (failed : (session.drain logged statement budget step initial).1 = .error error) :
    error.isCompilation = false := by
  rcases answer : session.openCursor logged statement with ⟨outcome, opened⟩
  cases outcome with
  | error refusal =>
      rw [drain_of_error answer] at failed
      cases failed
      exact isCompilation_of_openCursor (congrArg Prod.fst answer)
  | ok cursor =>
      have closed : Closed cursor _ (session.drain logged statement budget step initial) :=
        drain_of_ok answer
      obtain ⟨seen, last, noticed, fed⟩ :=
        feedRows_fed cursor.columns cursor.fetches budget step initial opened
      have ending := fed.ending
      generalize feedRows cursor.columns step budget cursor.fetches initial opened = result
        at closed ending
      cases outcome : result.1 with
      | ok value =>
          cases failure : cursor.closeFailure with
          | none =>
              rw [(closed.closed value outcome failure).1] at failed
              cases failed
          | some reason =>
              rw [(closed.unclosed value reason outcome failure).1] at failed
              cases failed
              rfl
      | error refusal =>
          rw [(closed.failed refusal outcome).1] at failed
          cases failed
          rw [outcome] at ending
          cases ending with
          | refused front row state _ _ _ refusal =>
              have ofRow := rows _ _ _ refusal
              cases error <;> first | rfl | cases ofRow
          | cancelled | interrupted | failed => rfl

end Session

namespace Database

/-! ## Operations that compile first -/

section Compiling

variable {α β : Type} {excuse : CompileError → Prop}

/-- No error of compilation comes of an operation, excuses aside. -/
def NeverCompiles (excuse : CompileError → Prop) (action : Action α) : Prop :=
  ∀ session cause, (action session).1 = .error (.compilation cause) → excuse cause

/-- An error of compilation leaves the session as it was, excuses aside. -/
def CompilesFirst (excuse : CompileError → Prop) (action : Action α) : Prop :=
  ∀ session cause, (action session).1 = .error (.compilation cause) →
    (action session).2 = session ∨ excuse cause

theorem NeverCompiles.first
    {action : Action α}
    (never : NeverCompiles excuse action) :
    CompilesFirst excuse action :=
  fun session cause failed => .inr (never session cause failed)

namespace NeverCompiles

theorem returned (value : α) : NeverCompiles excuse (pure value : Action α) :=
  fun _ _ failed => nomatch failed

theorem drained
    {σ : Type}
    {step : σ → Row → Except Error σ}
    (rows : FailsByRows step)
    (database : Database)
    (statement : Statement)
    (budget : Option Nat)
    (initial : σ) :
    NeverCompiles excuse (database.drain statement budget step initial) :=
  fun _ _ failed => nomatch Session.isCompilation_of_drain rows failed

theorem bound
    {first : Action α}
    {next : α → Action β}
    (firstNever : NeverCompiles excuse first)
    (nextNever : ∀ value, NeverCompiles excuse (next value)) :
    NeverCompiles excuse (first >>= next) := by
  intro session cause failed
  rw [Action.bind_apply] at failed
  rcases ran : first session with ⟨outcome, middle⟩
  rw [ran] at failed
  cases outcome with
  | error error =>
      cases failed
      exact firstNever session cause (congrArg Prod.fst ran)
  | ok value => exact nextNever value middle cause failed

theorem folded
    {step : α → β → Action α}
    {items : List β}
    (each : ∀ item ∈ items, ∀ value, NeverCompiles excuse (step value item))
    (initial : α) :
    NeverCompiles excuse (items.foldlM step initial) := by
  induction items generalizing initial with
  | nil => exact .returned initial
  | cons item items inductionHypothesis =>
      rw [List.foldlM_cons]
      obtain ⟨first, others⟩ := List.forall_mem_cons.mp each
      exact .bound (first initial) (inductionHypothesis others)

end NeverCompiles

namespace CompilesFirst

/-- What is compiled first may fail before anything is done. -/
theorem compiled
    {result : Except CompileError α}
    {next : α → Action β}
    (success : ∀ value, result = .ok value → CompilesFirst excuse (next value)) :
    CompilesFirst excuse (Action.ofCompile result >>= next) := by
  intro session cause failed
  rw [Action.ofCompile_bind_apply] at failed ⊢
  cases result with
  | error error => exact .inl rfl
  | ok value => exact success value rfl session cause failed

theorem bound
    {first : Action α}
    {next : α → Action β}
    (firstCompiles : CompilesFirst excuse first)
    (nextNever : ∀ value, NeverCompiles excuse (next value)) :
    CompilesFirst excuse (first >>= next) := by
  intro session cause failed
  rw [Action.bind_apply] at failed ⊢
  have front := firstCompiles session cause
  rcases ran : first session with ⟨outcome, middle⟩
  rw [ran] at front failed
  cases outcome with
  | error error =>
      cases failed
      exact front rfl
  | ok value => exact .inr (nextNever value middle cause failed)

end CompilesFirst

end Compiling

section Operations

variable (database : Database) {excuse : CompileError → Prop}

theorem neverCompiles_collect
    (statement : Statement)
    (shape : Shape)
    (only : Restriction)
    (budget : Option Nat) :
    NeverCompiles excuse (database.collect statement shape only budget) :=
  .drained (database.recordStep_failsByRows shape only) _ _ _ _

theorem neverCompiles_select (query : Query) : NeverCompiles excuse (database.select query) :=
  database.neverCompiles_collect _ _ _ _

theorem neverCompiles_single (query : Query) : NeverCompiles excuse (database.single query) :=
  .bound (database.neverCompiles_collect _ _ _ _) fun _ => .returned _

theorem neverCompiles_scalarOf (query : Query) (type : FieldType) :
    NeverCompiles excuse (database.scalarOf query type) :=
  .drained (database.scalarStep_failsByRows type) _ _ _ _

theorem neverCompiles_countStatement (statement : Statement) :
    NeverCompiles excuse (database.countStatement statement) :=
  .drained database.countStep_failsByRows _ _ _ _

theorem compilesFirst_selectMulti (query : Query) (shapes : List Shape) :
    CompilesFirst excuse (database.selectMulti query shapes) := by
  refine .compiled fun layout compiled => NeverCompiles.first ?_
  exact .drained (tupleStep_failsByRows compiled) _ _ _ _

theorem compilesFirst_scalar
    (root : Shape)
    (item : Expr)
    (predicate : Option Expr)
    (type : FieldType) :
    CompilesFirst excuse (database.scalar root item predicate type) := by
  refine .compiled fun selected _ => ?_
  cases predicate with
  | none =>
      refine NeverCompiles.first (.bound (.returned selected) fun query => ?_)
      exact database.neverCompiles_scalarOf query type
  | some condition =>
      exact .compiled fun query _ => (database.neverCompiles_scalarOf query type).first

/-- A relation fails to compile only if its keys cannot be looked up. -/
theorem lookup_of_fails
    {shape : Shape}
    {query : Query}
    {relation : Relation}
    {slot : Nat}
    {parents : List Parent}
    {session : Session}
    {cause : CompileError}
    {opened : List Statement}
    (fails : Fails database shape query relation slot parents session (.compilation cause)
      opened) :
    relation.lookup database.dialect shape query = .error cause := by
  cases fails with
  | unlocated _ _ located =>
      rw [Relation.lookup, located]
      rfl
  | unresolved _ _ _ lookup => exact lookup
  | unopened _ _ _ _ refused => cases Session.isCompilation_of_openCursor refused
  | unfetched _ _ _ _ _ _ answer fed =>
      have failed := ((Session.drain_of_ok answer).failed _ fed).1
      cases Session.isCompilation_of_drain rowStep_failsByRows failed
  | unconverted _ _ _ _ _ _ ofRow => cases ofRow

/-- A relation is loaded without an error of compilation if its keys can be looked up. -/
theorem neverCompiles_loadOne
    (shape : Shape)
    (query : Query)
    (entry : Relation × Nat)
    (parents : List Parent)
    (excused : ∀ cause, entry.1.lookup database.dialect shape query = .error cause →
      excuse cause) :
    NeverCompiles excuse (database.loadOne shape query entry parents) := by
  intro session cause failed
  rw [loadOne_apply] at failed
  rcases loads_or_fails database shape query entry.1 entry.2 parents session with
    ⟨_, _, _, loads⟩ | ⟨error, _, fails⟩
  · rw [loads.loadRelation_eq] at failed
    cases failed
  · obtain ⟨_, ended, _⟩ := fails.loadRelation_eq
    rw [ended] at failed
    cases failed
    exact excused cause (database.lookup_of_fails fails)

theorem neverCompiles_loadAll
    (shape : Shape)
    (query : Query)
    (relations : List (Relation × Nat))
    (parents : List Parent)
    (excused : ∀ entry ∈ relations, ∀ cause,
      entry.1.lookup database.dialect shape query = .error cause → excuse cause) :
    NeverCompiles excuse (database.loadAll shape query relations parents) := by
  rw [loadAll_eq]
  split
  · exact .returned parents
  · exact .folded (fun entry listed loaded =>
      database.neverCompiles_loadOne shape query entry loaded (excused entry listed)) parents

theorem neverCompiles_loadOnto
    (model : Model)
    (query : Query)
    (relations : List (Relation × Nat))
    (records : List Record)
    (excused : ∀ entry ∈ relations, ∀ cause,
      entry.1.lookup database.dialect model.shape query = .error cause → excuse cause) :
    NeverCompiles excuse (database.loadOnto model query relations records) := by
  rw [loadOnto_eq]
  exact database.neverCompiles_loadAll model.shape query relations _ excused

theorem compilesFirst_selectInto (query : Query) (target : Shape) :
    CompilesFirst excuse (database.selectInto query target) :=
  .compiled fun _ _ => (database.neverCompiles_collect _ _ _ _).first

/-- The keys of selected relations are looked up if they can be read from the query. -/
theorem excused_of_resolve
    {model : Model}
    {query : Query}
    {names : List String}
    {relations : List (Relation × Nat)}
    (resolved : model.resolve names = .ok relations)
    (excused : ∀ entry ∈ relations, ∀ position field cause,
      model.shape.locate entry.1.parentKey = .ok (position, field) →
      query.keysOf field = .error cause → excuse cause) :
    ∀ entry ∈ relations, ∀ cause,
      entry.1.lookup database.dialect model.shape query = .error cause → excuse cause := by
  intro entry listed cause failed
  obtain ⟨position, field, located, lookup⟩ :=
    Relation.lookup_of_checkKeys (Model.checkKeys_of_resolve resolved listed) database.dialect
      query
  exact excused entry listed position field cause located ((lookup cause).mp failed)

/-- Relations of the query's root are looked up by keys that can be read from the query. -/
theorem compilesFirst_loadSelect
    {model : Model}
    {query : Query}
    (rooted : query.root = model.shape)
    (names : List String) :
    CompilesFirst excuse (database.loadSelect model query names) := by
  refine .compiled fun relations resolved => NeverCompiles.first ?_
  refine .bound (database.neverCompiles_select query) fun records =>
    database.neverCompiles_loadOnto model query relations records
      (database.excused_of_resolve resolved ?_)
  intro entry _ position field cause located unread
  obtain ⟨keys, read⟩ : ∃ keys, query.keysOf field = .ok keys :=
    Query.exists_keysOf (rooted ▸ (Shape.locate_eq_ok.mp located).2)
  rw [read] at unread
  cases unread

end Operations

end Database

/-! ## Requests -/

/--
A relation of a request is looked up by a key that cannot be read from its query. A request
for the root's own records has no such relation.
-/
inductive Request.Unresolved (database : Database) : Request → CompileError → Prop
  | into (model : Model) (query : Query) (names : List String)
      (relations : List (Relation × Nat)) (entry : Relation × Nat) (position : Nat)
      (field : Field) :
      model.resolve names = .ok relations →
      entry ∈ relations →
      model.shape.locate entry.1.parentKey = .ok (position, field) →
      query.placeFor? field = none →
      Unresolved database (.loadSelectInto model query names) (.unknownColumn field.name)
  | references (shape : Shape) (query : Query) (relations : List (Relation × Nat))
      (parents : List Parent) (entry : Relation × Nat) (cause : CompileError) :
      entry ∈ relations →
      entry.1.lookup database.dialect shape query = .error cause →
      Unresolved database (.loadReferences shape query relations parents) cause

namespace Database

section Requests

variable {database : Database} {session after : Session} {cause : CompileError}

/-- An operation that compiles first ends so as a request. -/
theorem CompilesFirst.of_ends
    {α : Type}
    {excuse : CompileError → Prop}
    {request : Request}
    {action : Action α}
    {wrap : α → Answer}
    (compiles : CompilesFirst excuse action)
    (plain : ∀ value, Answer.failure? (.ok (wrap value)) = none)
    (performs : database.perform request = wrap <$> action)
    (ended : database.ends request session = (some (.compilation cause), after)) :
    after = session ∨ excuse cause := by
  rw [ends, performs, map_failure?_map plain] at ended
  obtain ⟨isError, rfl⟩ := Prod.mk.inj ended
  refine compiles session cause ?_
  cases outcome : (action session).1 with
  | ok value =>
      rw [outcome] at isError
      cases isError
  | error error =>
      rw [outcome] at isError
      cases isError
      rfl

theorem compilesFirst_loadSelectInto
    (database : Database)
    (model : Model)
    (query : Query)
    (names : List String) :
    CompilesFirst ((Request.loadSelectInto model query names).Unresolved database)
      (database.loadSelectInto model query names) := by
  refine .compiled fun relations resolved => ?_
  -- The selection compiles against the query's tables; the keys are not looked at by then.
  refine .bound (database.compilesFirst_selectInto query model.shape) fun records =>
    database.neverCompiles_loadOnto model query relations records
      (database.excused_of_resolve resolved ?_)
  intro entry listed position field cause located unread
  obtain ⟨unplaced, rfl⟩ := Query.keysOf_eq_error.mp unread
  exact .into model query names relations entry position field resolved listed located unplaced

/-- An operation that fails to compile has done nothing, or it has a key that is unresolved. -/
theorem unchanged_or_unresolved
    (request : Request)
    (ended : database.ends request session = (some (.compilation cause), after)) :
    after = session ∨ request.Unresolved database cause := by
  cases request with
  | stream query =>
      have sameEnd : database.ends (.select query) session =
          database.ends (.stream query) session :=
        (map_failure?_map (fun _ => rfl) (database.select query) session).trans
          (database.ends_stream query session).symm
      exact (database.neverCompiles_select query).first.of_ends (fun _ => rfl) rfl
        (sameEnd.trans ended)
  | select query =>
      exact (database.neverCompiles_select query).first.of_ends (fun _ => rfl) rfl ended
  | selectInto query target =>
      exact (database.compilesFirst_selectInto query target).of_ends (fun _ => rfl) rfl ended
  | selectWhere root predicate =>
      exact (CompilesFirst.compiled fun query _ =>
        (database.neverCompiles_select query).first).of_ends (fun _ => rfl) rfl ended
  | selectMulti query shapes =>
      exact (database.compilesFirst_selectMulti query shapes).of_ends (fun _ => rfl) rfl ended
  | single query =>
      exact (database.neverCompiles_single query).first.of_ends (fun _ => rfl) rfl ended
  | singleWhere root predicate =>
      exact (CompilesFirst.compiled fun query _ =>
        (database.neverCompiles_single query).first).of_ends (fun _ => rfl) rfl ended
  | scalar root item predicate type =>
      exact (database.compilesFirst_scalar root item predicate type).of_ends (fun _ => rfl) rfl
        ended
  | scalarOf query type =>
      exact (database.neverCompiles_scalarOf query type).first.of_ends (fun _ => rfl) rfl ended
  | count query =>
      exact (database.neverCompiles_countStatement _).first.of_ends (fun _ => rfl) rfl ended
  | countWhere root predicate =>
      exact (CompilesFirst.compiled fun query _ =>
        (database.neverCompiles_countStatement query.toCount).first).of_ends (fun _ => rfl) rfl
        ended
  | countAll root =>
      exact (database.neverCompiles_countStatement _).first.of_ends (fun _ => rfl) rfl ended
  | countStatement statement =>
      exact (database.neverCompiles_countStatement statement).first.of_ends (fun _ => rfl) rfl
        ended
  | rowCount query =>
      exact (database.neverCompiles_countStatement _).first.of_ends (fun _ => rfl) rfl ended
  | rowCountOf statement =>
      exact (database.neverCompiles_countStatement _).first.of_ends (fun _ => rfl) rfl ended
  | loadSelect model query names rooted =>
      exact (database.compilesFirst_loadSelect rooted names).of_ends (fun _ => rfl) rfl ended
  | loadSelectInto model query names =>
      exact (database.compilesFirst_loadSelectInto model query names).of_ends (fun _ => rfl) rfl
        ended
  | loadSelectWhere model predicate names =>
      refine (CompilesFirst.compiled fun query compiled => ?_).of_ends (fun _ => rfl) rfl ended
      obtain ⟨condition, _, rfl⟩ := Query.filterBy_eq_ok.mp compiled
      exact database.compilesFirst_loadSelect rfl names
  | loadReferences shape query relations parents =>
      refine (NeverCompiles.first (database.neverCompiles_loadAll shape query relations parents
        ?_)).of_ends (fun _ => rfl) rfl ended
      intro entry listed cause failed
      exact .references shape query relations parents entry cause listed failed

/-- Names and keys of relations are looked at before anything is opened. -/
theorem ends_of_unresolved_names
    {model : Model}
    {names : List String}
    (unresolved : model.resolve names = .error cause)
    (query : Query)
    (session : Session) :
    (∀ rooted, database.ends (.loadSelect model query names rooted) session =
        (some (.compilation cause), session)) ∧
      database.ends (.loadSelectInto model query names) session =
        (some (.compilation cause), session) := by
  refine ⟨fun rooted => ?_, ?_⟩
  · rw [ends, perform, map_failure?_map (fun _ => rfl), loadSelect, Action.ofCompile_bind_apply,
      unresolved]
    rfl
  · rw [ends, perform, map_failure?_map (fun _ => rfl), loadSelectInto,
      Action.ofCompile_bind_apply, unresolved]
    rfl

/-- A selection that succeeds has opened its statement. -/
theorem statements_selectInto
    {query : Query}
    {target : Shape}
    {records : List Record}
    (selected : database.selectInto query target session = (.ok records, after)) :
    ∃ statement, query.toSelectInto target = .ok statement ∧
      after.statements = session.statements ++ [statement] := by
  unfold selectInto at selected
  rw [Action.ofCompile_bind_apply] at selected
  cases compiled : query.toSelectInto target with
  | error cause =>
      rw [compiled] at selected
      cases selected
  | ok statement =>
      rw [compiled] at selected
      exact ⟨statement, rfl, Session.statements_drain_of_ok selected⟩

/-- A key that cannot be read from the query is found out once the records were read. -/
theorem ends_of_unread_key
    {model : Model}
    {query : Query}
    {names : List String}
    {relation : Relation}
    {slot position : Nat}
    {rest : List (Relation × Nat)}
    {field : Field}
    {records : List Record}
    (resolved : model.resolve names = .ok ((relation, slot) :: rest))
    (located : model.shape.locate relation.parentKey = .ok (position, field))
    (unplaced : query.placeFor? field = none)
    (selected : database.selectInto query model.shape session = (.ok records, after))
    (unfired : after.fired = false)
    (wanted : relation.isWanted model.shape (records.map (Parent.ofRecord model)) = true) :
    database.ends (.loadSelectInto model query names) session =
      (some (.compilation (.unknownColumn field.name)), after) := by
  have inhabited : (records.map (Parent.ofRecord model)).isEmpty = false := by
    rw [Relation.isWanted, located] at wanted
    obtain ⟨parent, member, _⟩ := List.any_eq_true.mp wanted
    exact List.isEmpty_eq_false_iff.mpr (List.ne_nil_of_mem member)
  have unread : query.keysOf field = .error (.unknownColumn field.name) :=
    Query.keysOf_eq_error.mpr ⟨unplaced, rfl⟩
  have stopped : database.loadReferences model.shape query ((relation, slot) :: rest)
      (records.map (Parent.ofRecord model)) after =
        ((.error (.compilation (.unknownColumn field.name)),
          records.map (Parent.ofRecord model)), after) := by
    have unreadChildren : database.readChildren model.shape query relation
        (records.map (Parent.ofRecord model)) after =
          (.error (.compilation (.unknownColumn field.name)), after) := by
      rw [readChildren_of_located unfired located, if_pos wanted, unread]
    rw [loadReferences, inhabited, if_neg Bool.false_ne_true, loadRelations,
      loadRelation_of_unread unreadChildren]
  rw [ends, perform, map_failure?_map (fun _ => rfl), loadSelectInto,
    Action.ofCompile_bind_apply, resolved]
  dsimp only
  rw [Action.bind_apply, selected]
  dsimp only
  rw [loadOnto, stopped]
  rfl

end Requests

/--
An operation that fails to compile leaves the session as it was, unless a relation is looked up
by a key that cannot be read from the query. Relations that are not known, and keys of theirs
that are no fields, are found out at once. A key that cannot be read from the query is found out
only after the records were selected, when the records themselves are lost.
-/
theorem compiles_before_opening (database : Database) (session : Session) :
    (∀ request cause after,
      database.ends request session = (some (.compilation cause), after) →
      after = session ∨ request.Unresolved database cause) ∧
    (∀ model query names cause,
      model.resolve names = .error cause →
      (∀ rooted, database.ends (.loadSelect model query names rooted) session =
        (some (.compilation cause), session)) ∧
      database.ends (.loadSelectInto model query names) session =
        (some (.compilation cause), session)) ∧
    (∀ model query names relation slot rest position field records after,
      model.resolve names = .ok ((relation, slot) :: rest) →
      model.shape.locate relation.parentKey = .ok (position, field) →
      query.placeFor? field = none →
      database.selectInto query model.shape session = (.ok records, after) →
      after.fired = false →
      relation.isWanted model.shape (records.map (Parent.ofRecord model)) = true →
      database.ends (.loadSelectInto model query names) session =
          (some (.compilation (.unknownColumn field.name)), after) ∧
        ∃ statement, query.toSelectInto model.shape = .ok statement ∧
          after.statements = session.statements ++ [statement]) := by
  refine ⟨?_, ?_, ?_⟩
  · intro request cause after ended
    exact unchanged_or_unresolved request ended
  · intro model query names cause unresolved
    exact ends_of_unresolved_names unresolved query session
  · intro model query names relation slot rest position field records after resolved located
      unplaced selected unfired wanted
    exact ⟨ends_of_unread_key resolved located unplaced selected unfired wanted,
      statements_selectInto selected⟩

end Database

namespace Sample

/-- Orders as they stand in their table. -/
def orders : Shape :=
  ⟨"orders", [⟨"id", "id", ⟨.integer .signed64, false⟩⟩,
    ⟨"code", "code", ⟨.integer .signed64, false⟩⟩]⟩

/-- Records with an identity of the queried table and a code that it does not have. -/
def digests : Model :=
  ⟨⟨"digests", [⟨"id", "id", ⟨.integer .signed64, false⟩⟩,
      ⟨"code", "code", ⟨.integer .signed64, false⟩⟩]⟩,
    [⟨"orders", .many, orders, "code", "code"⟩]⟩

/-- All rows of a table that has no codes. -/
def uncoded : Query :=
  database.source ⟨"customers", [⟨"id", "id", ⟨.integer .signed64, false⟩⟩]⟩

/-- A session with one row. -/
def lookout : Session :=
  .start false [.cursor ⟨["id"], [.row [.integer 1] false], false, none⟩ false]

/-- The statement that reads the rows as digests. -/
def digest : Statement := ((uncoded.toSelectInto digests.shape).toOption).getD ⟨"", []⟩

/-- The session after the row was read. -/
def seen : Session :=
  ⟨false, [], [.open digest, .fetch true, .fetch false, .close], [.executing digest.sql 0]⟩

end Sample

namespace Database

/-- An unknown relation is found out at once, and a key that cannot be read is found out late. -/
theorem compiles_before_opening_digests :
    Sample.digests.resolve ["invoices"] = .error (.unknownRelation "invoices" "digests") ∧
      Sample.database.ends (.loadSelectInto Sample.digests Sample.uncoded ["invoices"])
          Sample.lookout =
        (some (.compilation (.unknownRelation "invoices" "digests")), Sample.lookout) ∧
      Sample.uncoded.placeFor? ⟨"code", "code", ⟨.integer .signed64, false⟩⟩ = none ∧
      Sample.database.selectInto Sample.uncoded Sample.digests.shape Sample.lookout =
        (.ok [⟨Sample.digests.shape, [.integer 1, .integer 0]⟩], Sample.seen) ∧
      Sample.database.ends (.loadSelectInto Sample.digests Sample.uncoded ["orders"])
          Sample.lookout =
        (some (.compilation (.unknownColumn "code")), Sample.seen) ∧
      (Request.loadSelectInto Sample.digests Sample.uncoded ["orders"]).Unresolved
        Sample.database (.unknownColumn "code") := by
  obtain ⟨unchanged, atOnce, late⟩ := compiles_before_opening Sample.database Sample.lookout
  have unresolved : Sample.digests.resolve ["invoices"] =
      .error (.unknownRelation "invoices" "digests") := rfl
  have unplaced : Sample.uncoded.placeFor? ⟨"code", "code", ⟨.integer .signed64, false⟩⟩ =
      none := rfl
  have selected : Sample.database.selectInto Sample.uncoded Sample.digests.shape
      Sample.lookout = (.ok [⟨Sample.digests.shape, [.integer 1, .integer 0]⟩], Sample.seen) :=
    rfl
  obtain ⟨ended, -⟩ := late Sample.digests Sample.uncoded ["orders"] _ _ _ _ _ _ _ rfl rfl
    unplaced selected rfl rfl
  refine ⟨unresolved, (atOnce _ _ _ _ unresolved).2, unplaced, selected, ended, ?_⟩
  rcases unchanged _ _ _ ended with same | isUnresolved
  · cases congrArg Session.calls same
  · exact isUnresolved

/-- An operation fails to compile although it has opened a statement. -/
theorem compiles_after_opening :
    (Sample.database.ends (.loadSelectInto Sample.digests Sample.uncoded ["orders"])
        Sample.lookout).1 = some (.compilation (.unknownColumn "code")) ∧
      Sample.lookout.openCount = 0 ∧
      (Sample.database.ends (.loadSelectInto Sample.digests Sample.uncoded ["orders"])
        Sample.lookout).2.openCount = 1 :=
  ⟨rfl, rfl, rfl⟩

end Database
end TypedSql
