import TypedSql.Proofs.Database.Composed
import TypedSql.Proofs.Session.Served

/-!
# What loading a relation makes of parents

A relation is loaded as a whole or not at all. It is loaded exactly if nothing goes wrong: the
token has not fired, the key is a field, and, if there is anything to look up, the keys can be
read from the query, the statement is served, and its rows convert. Each way in which it fails
leaves the parents as they were.
-/

namespace TypedSql

namespace Relation

/-- Whether some parent has a key, so that there is something to look up. -/
def isWanted (relation : Relation) (shape : Shape) (parents : List Parent) : Bool :=
  match shape.locate relation.parentKey with
  | .ok (position, _) => parents.any fun parent => !(parent.record.get position).isNull
  | .error _ => false

/-- The statement that looks the children up, if the keys resolve. -/
def lookup
    (relation : Relation)
    (dialect : Dialect)
    (shape : Shape)
    (query : Query) :
    Except CompileError Statement := do
  let (_, field) ← shape.locate relation.parentKey
  let keys ← query.keysOf field
  relation.childStatement keys dialect

/-- The relation looks its children up with a statement. -/
structure Asks
    (relation : Relation)
    (dialect : Dialect)
    (shape : Shape)
    (query : Query)
    (parents : List Parent)
    (statement : Statement) : Prop where
  wanted : relation.isWanted shape parents = true
  lookup : relation.lookup dialect shape query = .ok statement

/-- Once both keys of a relation are known to be fields, attaching fails by rows only. -/
theorem isOfRow_of_attach
    {relation : Relation}
    {slot : Nat}
    {dialect : Dialect}
    {shape : Shape}
    {query : Query}
    {columns : List String}
    {rows : List Row}
    {parents : List Parent}
    {statement : Statement}
    {error : Error}
    (found : relation.lookup dialect shape query = .ok statement)
    (failed : (relation.attach slot shape dialect columns rows parents).1 = .error error) :
    error.isOfRow = true := by
  obtain ⟨key, parentLocated, reading⟩ := bind_eq_ok.mp found
  obtain ⟨keys, _, asking⟩ := bind_eq_ok.mp reading
  obtain ⟨childKey, childLocated, _⟩ := bind_eq_ok.mp asking
  rcases isOfRow_or_of_attach failed with ofRow | ⟨cause, _, childMissing | parentMissing⟩
  · exact ofRow
  · rw [childLocated] at childMissing
    cases childMissing
  · rw [parentLocated] at parentMissing
    cases parentMissing

/-- The session once the observer was told that the relation is loaded. -/
def announced (relation : Relation) (parents : List Parent) (session : Session) : Session :=
  session.emit (.loading relation.name parents.length)

/-- Whether a relation has something to look up depends on the records of the parents only. -/
theorem isWanted_congr
    (relation : Relation)
    (shape : Shape)
    {parents others : List Parent}
    (same : parents.map Parent.record = others.map Parent.record) :
    relation.isWanted shape parents = relation.isWanted shape others := by
  unfold isWanted
  split
  · next position field located =>
    have anyRecord := congrArg
      (List.any · fun record => !(record.get position).isNull) same
    simpa only [List.any_map, Function.comp_def] using anyRecord
  · rfl

theorem Asks.congr
    {relation : Relation}
    {dialect : Dialect}
    {shape : Shape}
    {query : Query}
    {parents others : List Parent}
    {statement : Statement}
    (same : parents.map Parent.record = others.map Parent.record)
    (asks : relation.Asks dialect shape query parents statement) :
    relation.Asks dialect shape query others statement :=
  ⟨relation.isWanted_congr shape same ▸ asks.wanted, asks.lookup⟩

end Relation

namespace Database

section Loading

variable {database : Database} {shape : Shape} {query : Query} {relation : Relation}
  {slot : Nat} {parents loaded : List Parent} {session after : Session}

theorem foldlM_rowStep (rows seen : List Row) : rows.foldlM rowStep seen = .ok (seen ++ rows) := by
  induction rows generalizing seen with
  | nil => rw [List.append_nil, List.foldlM_nil]; rfl
  | cons row rows inductionHypothesis =>
      rw [List.foldlM_cons, List.append_cons]
      exact inductionHypothesis (seen ++ [row])

/-- What the observer is told does not matter to how a statement is served. -/
theorem serves_announced {cursor : Cursor} :
    (relation.announced parents session).Serves cursor ↔ session.Serves cursor :=
  ⟨fun serves => ⟨serves.unfired, serves.opened, serves.fetched, serves.closed⟩,
    fun serves => ⟨serves.unfired, serves.opened, serves.fetched, serves.closed⟩⟩

/-- All rows of a statement are read exactly when it is served, and they are its cursor's. -/
theorem drain_rowStep_eq_ok_iff {statement : Statement} {rows : List Row} :
    (database.drain statement none rowStep [] session).1 = .ok rows ↔
      ∃ cursor, session.Serves cursor ∧ cursor.rows = rows := by
  rw [drain, Session.drain_eq_ok_iff]
  simp only [foldlM_rowStep, List.nil_append, Except.ok.injEq]

/--
How the loading of a relation fails in a session, and the statements that it opened until
then. Nothing but the token and the keys is looked at before the statement is opened.
-/
inductive Fails
    (database : Database)
    (shape : Shape)
    (query : Query)
    (relation : Relation)
    (slot : Nat)
    (parents : List Parent)
    (session : Session) : Error → List Statement → Prop
  | cancelled :
      session.fired = true →
      Fails database shape query relation slot parents session .cancelled []
  /-- The key is no field of the parents. -/
  | unlocated (cause : CompileError) :
      session.fired = false →
      shape.locate relation.parentKey = .error cause →
      Fails database shape query relation slot parents session (.compilation cause) []
  /-- The keys cannot be read from the query, or not be looked up among the children. -/
  | unresolved (cause : CompileError) :
      session.fired = false →
      relation.isWanted shape parents = true →
      relation.lookup database.dialect shape query = .error cause →
      Fails database shape query relation slot parents session (.compilation cause) []
  | unopened (statement : Statement) (error : Error) :
      session.fired = false →
      relation.Asks database.dialect shape query parents statement →
      ((relation.announced parents session).openCursor database.logged statement).1 =
        .error error →
      Fails database shape query relation slot parents session error [statement]
  | unfetched (statement : Statement) (cursor : Cursor) (opened : Session) (error : Error) :
      session.fired = false →
      relation.Asks database.dialect shape query parents statement →
      (relation.announced parents session).openCursor database.logged statement =
        (.ok cursor, opened) →
      (Session.feedRows cursor.columns rowStep none cursor.fetches [] opened).1 =
        .error error →
      Fails database shape query relation slot parents session error [statement]
  | unclosed (statement : Statement) (cursor : Cursor) (opened : Session) (rows : List Row)
      (reason : String) :
      session.fired = false →
      relation.Asks database.dialect shape query parents statement →
      (relation.announced parents session).openCursor database.logged statement =
        (.ok cursor, opened) →
      (Session.feedRows cursor.columns rowStep none cursor.fetches [] opened).1 = .ok rows →
      cursor.closeFailure = some reason →
      Fails database shape query relation slot parents session
        (.execution (.reported reason)) [statement]
  /-- A row does not convert to a child. -/
  | unconverted (statement : Statement) (cursor : Cursor) (error : Error) :
      relation.Asks database.dialect shape query parents statement →
      session.Serves cursor →
      (relation.attach slot shape database.dialect (columnsOf cursor.rows) cursor.rows
        parents).1 = .error error →
      error.isOfRow = true →
      Fails database shape query relation slot parents session error [statement]

/--
How a relation is loaded in a session: the statements that are opened for it, the parents with
the relation, and the session thereafter.
-/
inductive Loads
    (database : Database)
    (shape : Shape)
    (query : Query)
    (relation : Relation)
    (slot : Nat)
    (parents : List Parent)
    (session : Session) : List Statement → List Parent → Session → Prop
  /-- No parent has a key, so that nothing is looked up. -/
  | skipped (position : Nat) (field : Field) :
      session.fired = false →
      shape.locate relation.parentKey = .ok (position, field) →
      relation.isWanted shape parents = false →
      Loads database shape query relation slot parents session [] parents session
  | attached (statement : Statement) (cursor : Cursor) (loaded : List Parent)
      (after : Session) :
      relation.Asks database.dialect shape query parents statement →
      session.Serves cursor →
      database.drain statement none rowStep [] (relation.announced parents session) =
        (.ok cursor.rows, after) →
      relation.attach slot shape database.dialect (columnsOf cursor.rows) cursor.rows parents =
        (.ok (), loaded) →
      Loads database shape query relation slot parents session [statement] loaded after

/-- What a failing relation opened is the statement that it asks for, if anything. -/
theorem Fails.asks
    {error : Error}
    {opened : List Statement}
    (fails : Fails database shape query relation slot parents session error opened) :
    ∀ statement ∈ opened, relation.Asks database.dialect shape query parents statement := by
  intro statement member
  cases fails with
  | cancelled | unlocated | unresolved => cases member
  | unopened _ _ _ asks | unfetched _ _ _ _ _ asks | unclosed _ _ _ _ _ _ asks
  | unconverted _ _ _ asks =>
      exact List.mem_singleton.mp member ▸ asks

/-! ## What is read -/

theorem readChildren_of_fired (fired : session.fired = true) :
    database.readChildren shape query relation parents session =
      (.error .cancelled, session.emit (.cancelled .loading)) := by
  unfold readChildren
  rw [Action.bind_apply, checkToken, if_pos fired]
  rfl

theorem readChildren_of_unlocated
    {cause : CompileError}
    (unfired : session.fired = false)
    (unlocated : shape.locate relation.parentKey = .error cause) :
    database.readChildren shape query relation parents session =
      (.error (.compilation cause), session) := by
  unfold readChildren
  rw [Action.bind_apply, checkToken, unfired, if_neg Bool.false_ne_true]
  dsimp only
  rw [Action.ofCompile_bind_apply, unlocated]

/-- What is read for a relation whose key is a field, while the token has not fired. -/
theorem readChildren_of_located
    {position : Nat}
    {field : Field}
    (unfired : session.fired = false)
    (located : shape.locate relation.parentKey = .ok (position, field)) :
    database.readChildren shape query relation parents session =
      if relation.isWanted shape parents then
        match query.keysOf field with
        | .error cause => (.error (.compilation cause), session)
        | .ok keys =>
            match relation.childStatement keys database.dialect with
            | .error cause => (.error (.compilation cause), relation.announced parents session)
            | .ok statement =>
                (database.drain statement none rowStep []
                  (relation.announced parents session)).map (Except.map some) id
      else (.ok none, session) := by
  have wanted : relation.isWanted shape parents =
      !(parents.all fun parent => (parent.record.get position).isNull) := by
    rw [Relation.isWanted, located, List.not_all_eq_any_not]
  unfold readChildren
  rw [Action.bind_apply, checkToken, unfired, if_neg Bool.false_ne_true]
  dsimp only
  rw [Action.ofCompile_bind_apply, located, wanted]
  dsimp only
  cases parents.all fun parent => (parent.record.get position).isNull with
  | true => rfl
  | false =>
      rw [if_neg Bool.false_ne_true, Bool.not_false, if_pos rfl, Action.ofCompile_bind_apply]
      cases query.keysOf field with
      | error cause => rfl
      | ok keys =>
          dsimp only
          rw [Action.bind_apply, tell]
          dsimp only
          rw [← Relation.announced, Action.ofCompile_bind_apply]
          cases relation.childStatement keys database.dialect with
          | error cause => rfl
          | ok statement =>
              dsimp only
              rw [Action.bind_apply]
              rcases database.drain statement none rowStep [] (relation.announced parents session)
                with ⟨_ | _, _⟩ <;> rfl

theorem lookup_of_located
    {position : Nat}
    {field : Field}
    (located : shape.locate relation.parentKey = .ok (position, field)) :
    relation.lookup database.dialect shape query =
      query.keysOf field >>= fun keys => relation.childStatement keys database.dialect := by
  rw [Relation.lookup, located]
  rfl

/-- A relation that is wanted has a key that is a field. -/
theorem exists_located_of_isWanted (wanted : relation.isWanted shape parents = true) :
    ∃ position field, shape.locate relation.parentKey = .ok (position, field) := by
  unfold Relation.isWanted at wanted
  split at wanted
  · exact ⟨_, _, ‹_›⟩
  · cases wanted

theorem readChildren_of_unresolved
    {cause : CompileError}
    (unfired : session.fired = false)
    (wanted : relation.isWanted shape parents = true)
    (unresolved : relation.lookup database.dialect shape query = .error cause) :
    ∃ told, database.readChildren shape query relation parents session =
        (.error (.compilation cause), told) ∧
      told.statements = session.statements := by
  obtain ⟨position, field, located⟩ := exists_located_of_isWanted wanted
  rw [readChildren_of_located unfired located, if_pos wanted]
  rw [lookup_of_located located] at unresolved
  rcases bind_eq_error.mp unresolved with unread | ⟨keys, read, unasked⟩
  · rw [unread]
    exact ⟨session, rfl, rfl⟩
  · rw [read]
    dsimp only
    rw [unasked]
    exact ⟨relation.announced parents session, rfl, rfl⟩

theorem readChildren_of_asks
    {statement : Statement}
    (unfired : session.fired = false)
    (asks : relation.Asks database.dialect shape query parents statement) :
    database.readChildren shape query relation parents session =
      (database.drain statement none rowStep [] (relation.announced parents session)).map
        (Except.map some) id := by
  obtain ⟨position, field, located⟩ := exists_located_of_isWanted asks.wanted
  have resolved := asks.lookup
  rw [lookup_of_located located] at resolved
  obtain ⟨keys, read, asked⟩ := bind_eq_ok.mp resolved
  rw [readChildren_of_located unfired located, if_pos asks.wanted, read]
  dsimp only
  rw [asked]

/-- A relation is not loaded if its rows are not read. -/
theorem loadRelation_of_unread
    {error : Error}
    (unread : database.readChildren shape query relation parents session = (.error error, after)) :
    database.loadRelation shape query relation slot parents session =
      ((.error error, parents), after) := by
  rw [loadRelation, unread]

/-- Rows that were read are attached. -/
theorem loadRelation_of_drained
    {statement : Statement}
    {rows : List Row}
    (unfired : session.fired = false)
    (asks : relation.Asks database.dialect shape query parents statement)
    (drained : database.drain statement none rowStep [] (relation.announced parents session) =
      (.ok rows, after))
    (slot : Nat) :
    database.loadRelation shape query relation slot parents session =
      (relation.attach slot shape database.dialect (columnsOf rows) rows parents, after) := by
  rw [loadRelation, readChildren_of_asks unfired asks, drained]
  rfl

/-! ## What comes of it -/

/-- What is drained with an error was not opened, not fetched, or not closed. -/
theorem fails_of_drain
    {statement : Statement}
    {error : Error}
    (unfired : session.fired = false)
    (asks : relation.Asks database.dialect shape query parents statement)
    (drained : (database.drain statement none rowStep []
      (relation.announced parents session)).1 = .error error) :
    Fails database shape query relation slot parents session error [statement] := by
  rcases answer : (relation.announced parents session).openCursor database.logged statement
    with ⟨outcome, opened⟩
  cases outcome with
  | error refusal =>
      have stopped : database.drain statement none rowStep []
          (relation.announced parents session) = (.error refusal, opened) :=
        Session.drain_of_error answer
      rw [stopped] at drained
      obtain rfl : refusal = error := Except.error.inj drained
      exact .unopened statement refusal unfired asks (congrArg Prod.fst answer)
  | ok cursor =>
      have closed : Session.Closed cursor _ (database.drain statement none rowStep []
          (relation.announced parents session)) :=
        Session.drain_of_ok answer
      cases fed : (Session.feedRows cursor.columns rowStep none cursor.fetches [] opened).1 with
      | error refusal =>
          rw [(closed.failed refusal fed).1] at drained
          obtain rfl : refusal = error := Except.error.inj drained
          exact .unfetched statement cursor opened refusal unfired asks answer fed
      | ok rows =>
          cases failure : cursor.closeFailure with
          | none =>
              rw [(closed.closed rows fed failure).1] at drained
              cases drained
          | some reason =>
              rw [(closed.unclosed rows reason fed failure).1] at drained
              obtain rfl := Except.error.inj drained
              exact .unclosed statement cursor opened rows reason unfired asks answer fed failure

/-- Draining for a relation opens its statement only. -/
theorem statements_drain_announced
    (unfired : session.fired = false)
    (database : Database)
    (relation : Relation)
    (parents : List Parent)
    (statement : Statement) :
    (database.drain statement none rowStep [] (relation.announced parents session)).2.replies =
        session.replies.tail ∧
      (database.drain statement none rowStep []
          (relation.announced parents session)).2.statements =
        session.statements ++ [statement] := by
  have told : (relation.announced parents session).fired = false := unfired
  exact Session.statements_drain told database.logged statement none rowStep []

/-- A drained statement with an error ends the loading of its relation. -/
theorem loadRelation_of_drain_error
    {statement : Statement}
    {error : Error}
    (unfired : session.fired = false)
    (asks : relation.Asks database.dialect shape query parents statement)
    (drained : (database.drain statement none rowStep []
      (relation.announced parents session)).1 = .error error)
    (slot : Nat) :
    ∃ after, database.loadRelation shape query relation slot parents session =
        ((.error error, parents), after) ∧
      after.statements = session.statements ++ [statement] := by
  have grown := (statements_drain_announced unfired database relation parents statement).2
  rcases ran : database.drain statement none rowStep [] (relation.announced parents session)
    with ⟨outcome, after⟩
  rw [ran] at drained grown
  obtain rfl : outcome = .error error := drained
  refine ⟨after, loadRelation_of_unread ?_, grown⟩
  rw [readChildren_of_asks unfired asks, ran]
  rfl

/-- A relation loads, or it fails. -/
theorem loads_or_fails
    (database : Database)
    (shape : Shape)
    (query : Query)
    (relation : Relation)
    (slot : Nat)
    (parents : List Parent)
    (session : Session) :
    (∃ opened loaded after,
      Loads database shape query relation slot parents session opened loaded after) ∨
    ∃ error opened,
      Fails database shape query relation slot parents session error opened := by
  -- The token is looked at first, then the parents' key, and only then whether it is wanted.
  cases unfired : session.fired with
  | true => exact .inr ⟨_, [], .cancelled unfired⟩
  | false =>
  cases located : shape.locate relation.parentKey with
  | error cause => exact .inr ⟨_, [], .unlocated cause unfired located⟩
  | ok key =>
  obtain ⟨position, field⟩ := key
  cases wanted : relation.isWanted shape parents with
  | false => exact .inl ⟨[], parents, session, .skipped position field unfired located wanted⟩
  | true =>
  cases lookup : relation.lookup database.dialect shape query with
  | error cause => exact .inr ⟨_, [], .unresolved cause unfired wanted lookup⟩
  | ok statement =>
  have asks : relation.Asks database.dialect shape query parents statement := ⟨wanted, lookup⟩
  rcases drained : database.drain statement none rowStep [] (relation.announced parents session)
    with ⟨outcome, after⟩
  cases outcome with
  | error error =>
      exact .inr ⟨error, [statement], fails_of_drain unfired asks (congrArg Prod.fst drained)⟩
  | ok rows =>
      obtain ⟨cursor, served, rfl⟩ := drain_rowStep_eq_ok_iff.mp (congrArg Prod.fst drained)
      have serves := serves_announced.mp served
      rcases attached : relation.attach slot shape database.dialect (columnsOf cursor.rows)
        cursor.rows parents with ⟨result, loaded⟩
      cases result with
      | ok _ =>
          exact .inl ⟨[statement], loaded, after,
            .attached statement cursor loaded after asks serves drained attached⟩
      | error error =>
          have refused := congrArg Prod.fst attached
          exact .inr ⟨error, [statement], .unconverted statement cursor error asks serves refused
            (Relation.isOfRow_of_attach asks.lookup refused)⟩

/-- A relation that loads is loaded. -/
theorem Loads.loadRelation_eq
    {opened : List Statement}
    (loads : Loads database shape query relation slot parents session opened loaded after) :
    database.loadRelation shape query relation slot parents session =
      ((.ok (), loaded), after) := by
  cases loads with
  | skipped position field unfired located idle =>
      rw [loadRelation, readChildren_of_located unfired located, idle,
        if_neg Bool.false_ne_true]
  | attached statement cursor _ _ asks serves drained attached =>
      rw [loadRelation_of_drained serves.unfired asks drained, attached]

/-- A relation whose loading fails is not loaded, and leaves the parents as they were. -/
theorem Fails.loadRelation_eq
    {error : Error}
    {opened : List Statement}
    (fails : Fails database shape query relation slot parents session error opened) :
    ∃ after, database.loadRelation shape query relation slot parents session =
        ((.error error, parents), after) ∧
      after.statements = session.statements ++ opened := by
  cases fails with
  | cancelled fired =>
      exact ⟨_, loadRelation_of_unread (readChildren_of_fired fired), (List.append_nil _).symm⟩
  | unlocated cause unfired located =>
      exact ⟨_, loadRelation_of_unread (readChildren_of_unlocated unfired located),
        (List.append_nil _).symm⟩
  | unresolved cause unfired wanted lookup =>
      obtain ⟨told, unread, same⟩ := readChildren_of_unresolved unfired wanted lookup
      exact ⟨told, loadRelation_of_unread unread, same.trans (List.append_nil _).symm⟩
  | unopened statement _ unfired asks refused =>
      refine loadRelation_of_drain_error unfired asks ?_ slot
      rcases answer : (relation.announced parents session).openCursor database.logged statement
        with ⟨outcome, middle⟩
      rw [answer] at refused
      obtain rfl : outcome = .error error := refused
      exact congrArg Prod.fst (Session.drain_of_error answer)
  | unfetched statement cursor middle _ unfired asks answer fed =>
      refine loadRelation_of_drain_error unfired asks ?_ slot
      exact ((Session.drain_of_ok answer).failed error fed).1
  | unclosed statement cursor middle rows reason unfired asks answer fed failure =>
      refine loadRelation_of_drain_error unfired asks ?_ slot
      exact ((Session.drain_of_ok answer).unclosed rows reason fed failure).1
  | unconverted statement cursor _ asks serves refused _ =>
      have drained : (database.drain statement none rowStep []
          (relation.announced parents session)).1 = .ok cursor.rows :=
        drain_rowStep_eq_ok_iff.mpr ⟨cursor, serves_announced.mpr serves, rfl⟩
      refine ⟨_, ?_,
        (statements_drain_announced serves.unfired database relation parents statement).2⟩
      rw [loadRelation_of_drained serves.unfired asks (Prod.ext drained rfl),
        Relation.attach_of_error refused]

/-- What a relation that loads makes of the session and of the parents' records. -/
theorem Loads.frame
    {opened : List Statement}
    (loads : Loads database shape query relation slot parents session opened loaded after) :
    loaded.map Parent.record = parents.map Parent.record ∧
      after.statements = session.statements ++ opened ∧
      after.replies = session.replies.drop opened.length ∧
      ∀ statement ∈ opened, relation.Asks database.dialect shape query parents statement := by
  cases loads with
  | skipped => exact ⟨rfl, (List.append_nil _).symm, rfl, by simp⟩
  | attached statement cursor _ _ asks serves drained attached =>
      have grown :=
        statements_drain_announced serves.unfired database relation parents statement
      rw [drained] at grown
      refine ⟨Relation.records_of_attach attached, grown.2, ?_, ?_⟩
      · rw [grown.1, List.length_singleton, List.drop_one]
      · intro other member
        exact List.mem_singleton.mp member ▸ asks

end Loading

end Database
end TypedSql
