import TypedSql.Proofs.Query.Statements
import TypedSql.Proofs.Record.ByName
import TypedSql.Proofs.Relation.Progress

/-!
# The keys that parents carry and the keys that are looked up

Children are looked up by the keys that the parent query is made to read once more, and they
are given to the parents that carry their key. The two agree where the parents' own statement
lists the key's column. A restriction that leaves the key out does not keep it from being
looked up: then every parent carries the value that a fresh key field holds.
-/

namespace TypedSql

namespace Shape

variable {shape : Shape} {position : Nat} {field : Field} {name : String}

theorem locate_eq_ok :
    shape.locate name = .ok (position, field) ↔
      shape.find? name = some position ∧ shape.fields[position]? = some field := by
  unfold locate
  cases found : shape.find? name with
  | none => simp
  | some place =>
      cases present : shape.fields[place]? with
      | none =>
          simp only [present]
          constructor
          · intro absurdly
            cases absurdly
          · rintro ⟨same, held⟩
            cases same
            rw [present] at held
            cases held
      | some other =>
          simp only [present]
          constructor
          · intro same
            cases same
            exact ⟨rfl, present⟩
          · rintro ⟨same, held⟩
            cases same
            rw [present] at held
            cases held
            rfl

/-- Some field is found by the column of a field, be it another one. -/
theorem exists_field?_column (present : shape.fields[position]? = some field) :
    ∃ owner, shape.field? field.column = some owner := by
  have named : ∃ other ∈ shape.fields, other.isNamed field.column = true :=
    ⟨field, List.mem_of_getElem? present, by simp [Field.isNamed, Ascii.same]⟩
  obtain ⟨place, found⟩ := Option.isSome_iff_exists.mp
    (List.findIdx?_isSome.trans (List.any_eq_true.mpr named))
  obtain ⟨inside, -⟩ := List.findIdx?_eq_some_iff_getElem.mp found
  refine ⟨shape.fields[place], ?_⟩
  rw [field?, find?_eq_findIdx?, found]
  exact List.getElem?_eq_getElem inside

theorem field?_column (own : shape.OwnColumns) (present : shape.fields[position]? = some field) :
    shape.field? field.column = some field := by
  rw [field?, own position field present]
  exact present

end Shape

namespace Model

variable {model : Model} {names : List String} {relations : List (Relation × Nat)}
  {entry : Relation × Nat}

theorem resolve_eq_ok :
    model.resolve names = .ok relations ↔
      model.select names = .ok relations ∧
        relations.forM (fun entry => model.checkKeys entry.1) = .ok () := by
  simp only [resolve, bind_eq_ok, pure_eq_ok]
  constructor
  · rintro ⟨selected, selection, checked, checking, rfl⟩
    exact ⟨selection, checking⟩
  · rintro ⟨selection, checking⟩
    exact ⟨relations, selection, (), checking, rfl⟩

/-- The selected relations are relations of the model. -/
theorem mem_of_resolve
    (resolved : model.resolve names = .ok relations)
    (member : entry ∈ relations) :
    entry.1 ∈ model.relations := by
  have selection := (resolve_eq_ok.mp resolved).1
  have indexed : entry ∈ model.relations.zipIdx := by
    unfold select at selection
    split at selection
    · cases selection
      exact member
    · obtain ⟨name, _, named⟩ := exists_of_mem_mapM selection member
      unfold relationNamed at named
      split at named
      · next found =>
        cases named
        exact List.mem_of_find?_eq_some found
      · cases named
  exact List.mem_of_getElem? (List.mem_zipIdx_iff_getElem?.mp indexed)

/-- The keys of the selected relations are fields. -/
theorem checkKeys_of_resolve
    (resolved : model.resolve names = .ok relations)
    (member : entry ∈ relations) :
    model.checkKeys entry.1 = .ok () := by
  have checking := (resolve_eq_ok.mp resolved).2
  clear resolved
  induction relations with
  | nil => cases member
  | cons first rest inductionHypothesis =>
      obtain ⟨_, checked, others⟩ := bind_eq_ok.mp checking
      cases member with
      | head => exact checked
      | tail _ later => exact inductionHypothesis later others

end Model

/-- Once the keys of a relation are known to be fields, it is looked up if they can be read. -/
theorem Relation.lookup_of_checkKeys
    {model : Model}
    {relation : Relation}
    (checked : model.checkKeys relation = .ok ())
    (dialect : Dialect)
    (query : Query) :
    ∃ position field, model.shape.locate relation.parentKey = .ok (position, field) ∧
      ∀ cause, relation.lookup dialect model.shape query = .error cause ↔
        query.keysOf field = .error cause := by
  obtain ⟨⟨position, field⟩, located, checking⟩ := bind_eq_ok.mp checked
  obtain ⟨⟨_, key⟩, childLocated, _⟩ := bind_eq_ok.mp checking
  have asked (keys : Fragment) :
      ∃ statement, relation.childStatement keys dialect = .ok statement := by
    rw [childStatement, childLocated]
    exact ⟨_, rfl⟩
  have found : relation.lookup dialect model.shape query =
      query.keysOf field >>= fun keys => relation.childStatement keys dialect := by
    rw [lookup, located]
    rfl
  refine ⟨position, field, located, fun cause => ?_⟩
  rw [found, bind_eq_error]
  constructor
  · rintro (unread | ⟨keys, _, unasked⟩)
    · exact unread
    · obtain ⟨statement, asks⟩ := asked keys
      rw [asks] at unasked
      cases unasked
  · exact .inl

namespace Query

variable {query : Query} {field owner : Field}

/-- The keys of a field of the root are those of the root's column that bears its name. -/
theorem keysOf_of_field? (found : query.root.field? field.column = some owner) :
    query.keysOf field =
      .ok (keysFrom (query.keyRows ⟨query.root.table, owner.column⟩)) := by
  have resolved : query.scope.resolve ⟨none, field.column⟩ =
      .ok ⟨query.root.table, owner.column⟩ := by
    refine Scope.resolve_eq_ok.mpr ?_
    rw [scope_eq_cons, Scope.place?, List.filter_cons_of_pos rfl, List.findSome?_cons, Scope.placeIn?,
      found]
    rfl
  rw [keysOf, keySubquery_eq_ok.mpr ⟨_, resolved, rfl⟩]

theorem keySubquery_eq_error {key : String} {cause : CompileError} :
    query.keySubquery key = .error cause ↔
      query.scope.place? ⟨none, key⟩ = none ∧ cause = .unknownColumn key := by
  rw [keySubquery, Scope.resolve]
  cases query.scope.place? ⟨none, key⟩ with
  | none =>
      constructor
      · intro failed
        cases failed
        exact ⟨rfl, rfl⟩
      · rintro ⟨-, rfl⟩
        rfl
  | some place =>
      constructor
      · intro failed
        cases failed
      · rintro ⟨absent, -⟩
        cases absent

/-- The keys of a field can be read where the field itself can be read. -/
theorem keysOf_eq_error {cause : CompileError} :
    query.keysOf field = .error cause ↔
      query.placeFor? field = none ∧ cause = .unknownColumn field.name := by
  rw [placeFor?, Option.or_eq_none_iff, keysOf]
  split
  · next keys byColumn =>
    obtain ⟨place, resolved, _⟩ := keySubquery_eq_ok.mp byColumn
    rw [Scope.resolve_eq_ok.mp resolved]
    constructor
    · intro failed
      cases failed
    · rintro ⟨⟨absent, _⟩, _⟩
      cases absent
  · next other unplaced =>
    obtain ⟨absent, _⟩ := keySubquery_eq_error.mp unplaced
    rw [keySubquery_eq_error, absent]
    simp

/-- The keys of a root field can always be read. -/
theorem exists_keysOf
    {position : Nat}
    (present : query.root.fields[position]? = some field) :
    ∃ keys, query.keysOf field = .ok keys := by
  obtain ⟨owner, found⟩ := Shape.exists_field?_column present
  exact ⟨_, keysOf_of_field? found⟩

end Query

namespace Database

variable {database : Database} {query : Query} {position : Nat} {field : Field} {row : Row}
  {record : Record}

/-! ## Records of rows -/

/-- A row that becomes a record is fed into a fresh one. -/
theorem fill_of_readRecord
    {shape : Shape}
    {only : Restriction}
    (read : database.readRecord shape only row = .ok record) :
    record = (Record.fresh shape).fill database.dialect
        (Mapper.feedsFrom row 0 (Mapper.slotsFrom shape only [] row.columns)) ∧
      ∀ feed ∈ Mapper.feedsFrom row 0 (Mapper.slotsFrom shape only [] row.columns),
        ∃ value, feed.outcome database.dialect shape = .ok value := by
  rcases Mapper.outcome_cases database.dialect shape
      (Mapper.feedsFrom row 0 (Mapper.slotsFrom shape only [] row.columns)) with
    succeeds | ⟨front, failed, back, cause, split, succeeds, fails⟩
  · have applied := Mapper.applyFrom_ok (.fresh shape) succeeds
    have materialized := (Mapper.ofColumns shape row.columns only).materialize_of_ok applied
    rw [readRecord, Mapper.read, materialized] at read
    exact ⟨(Except.ok.inj read).symm, succeeds⟩
  · have applied := Mapper.applyFrom_error (.fresh shape) split succeeds fails
    have materialized := (Mapper.ofColumns shape row.columns only).materialize_of_error applied
    rw [readRecord, Mapper.read, materialized] at read
    cases read

/-! ## Keys that are left in -/

/--
The statement of a query lists the column of a field at a place, and the records of its rows
hold in that field, and nowhere else, what the cell at that place becomes.
-/
structure CarriesKey
    (database : Database)
    (query : Query)
    (position : Nat)
    (field : Field)
    (place : Nat) : Prop where
  projection : query.effectiveProjection = .commas query.rootColumns
  listed : query.rootColumns[place]? = some (.qualified query.root.table field.column)
  labelled : (query.root.columns query.only)[place]? = some field.column
  mapped : ∀ other,
    (Mapper.ofColumns query.root (query.root.columns query.only) query.only).slots[other]? =
      some (some position) ↔ other = place
  read : ∀ row record cell,
    row.columns = query.root.columns query.only → row.cell? place = some cell →
    database.readRecord query.root query.only row = .ok record →
    field.hold database.dialect cell = .ok (record.get position)

/-- A field is fed from the place at which it is listed, and from no other. -/
theorem slots_eq_some_iff
    {place : Nat}
    (own : query.root.OwnColumns)
    (listed : (query.root.allowed query.only)[place]? = some position)
    (other : Nat) :
    (Mapper.ofColumns query.root (query.root.columns query.only) query.only).slots[other]? =
      some (some position) ↔ other = place := by
  rw [Mapper.ofColumns, Mapper.slotsFrom_columns fun _ _ present _ => own _ _ present,
    List.getElem?_map, Option.map_eq_some_iff]
  constructor
  · rintro ⟨_, atOther, same⟩
    obtain rfl := Option.some.inj same
    have inside := (List.getElem?_eq_some_iff.mp atOther).1
    exact (List.getElem?_inj inside (query.root.nodup_allowed query.only)).mp
      (atOther.trans listed.symm)
  · rintro rfl
    exact ⟨position, listed, rfl⟩

/-- A field that is listed at a place holds what the cell at that place becomes. -/
theorem hold_of_readRecord
    {place : Nat}
    {cell : Value}
    (own : query.root.OwnColumns)
    (present : query.root.fields[position]? = some field)
    (listed : (query.root.allowed query.only)[place]? = some position)
    (labelled : row.columns = query.root.columns query.only)
    (held : row.cell? place = some cell)
    (read : database.readRecord query.root query.only row = .ok record) :
    field.hold database.dialect cell = .ok (record.get position) := by
  obtain ⟨filled, succeeds⟩ := fill_of_readRecord read
  rw [labelled, Mapper.slotsFrom_columns fun _ _ present _ => own _ _ present] at filled succeeds
  -- The cell is one that feeds the field, and no other cell does.
  have member : (⟨place, position, cell⟩ : Mapper.Feed) ∈
      Mapper.feedsFrom row 0 ((query.root.allowed query.only).map some) := by
    refine Mapper.mem_feedsFrom.mpr ⟨place, ?_, (Nat.zero_add place).symm, held⟩
    rw [List.getElem?_map, listed]
    rfl
  have distinct := (query.root.nodup_allowed query.only).sublist
    (Mapper.positions_feedsFrom_sublist row 0 (query.root.allowed query.only))
  have inside : position < (Record.fresh query.root).values.length := by
    rw [Record.fresh, List.length_map]
    exact (List.getElem?_eq_some_iff.mp present).1
  obtain ⟨value, becomes⟩ := succeeds _ member
  have stored : record.values[position]? =
      some (Mapper.Feed.value database.dialect query.root ⟨place, position, cell⟩) :=
    filled ▸ Record.values_fill_of_mem distinct inside member
  rw [Mapper.Feed.value, becomes] at stored
  rw [Mapper.Feed.outcome_of_field _ present] at becomes
  rw [becomes, Record.get, List.getD_eq_getElem?_getD, stored]
  rfl

theorem exists_carriesKey
    (database : Database)
    (plain : query.projection = none)
    (own : query.root.OwnColumns)
    (present : query.root.fields[position]? = some field)
    (allows : query.only.allows field = true) :
    ∃ place, database.CarriesKey query position field place := by
  obtain ⟨place, listed⟩ :=
    List.getElem?_of_mem (Shape.mem_allowed.mpr ⟨field, present, allows⟩)
  have labelled := Shape.getElem?_columns listed present
  have rootColumns : query.rootColumns[place]? =
      some (.qualified query.root.table field.column) := by
    rw [Shape.columns, List.getElem?_map, Option.map_eq_some_iff] at labelled
    obtain ⟨other, atPlace, sameColumn⟩ := labelled
    rw [Query.rootColumns, List.getElem?_map, atPlace, ← sameColumn]
    rfl
  refine ⟨place, ?_, rootColumns, labelled, slots_eq_some_iff own listed, ?_⟩
  · have inhabited : query.rootColumns.isEmpty = false :=
      List.isEmpty_eq_false_iff.mpr (List.ne_nil_of_mem (List.mem_of_getElem? rootColumns))
    rw [Query.effectiveProjection, plain, Option.getD_none, Query.defaultProjection, inhabited]
    rfl
  · intro row record cell sameColumns held read
    exact hold_of_readRecord own present listed sameColumns held read

/-! ## Keys that are left out -/

/--
The statement of a query does not list the column of a field, and the records of its rows hold
in that field what a fresh one holds.
-/
structure LacksKey
    (database : Database)
    (query : Query)
    (position : Nat)
    (field : Field) : Prop where
  unlisted : Fragment.qualified query.root.table field.column ∉ query.rootColumns
  fresh : ∀ row record, database.readRecord query.root query.only row = .ok record →
    record.get position = field.type.fresh

/-- A field that is left out is fed from no column. -/
theorem slotsFrom_ne_some
    {shape : Shape}
    {only : Restriction}
    (present : shape.fields[position]? = some field)
    (refused : only.allows field = false)
    (fed : List Nat)
    (columns : List String) :
    some position ∉ Mapper.slotsFrom shape only fed columns := by
  induction columns generalizing fed with
  | nil => simp [Mapper.slotsFrom]
  | cons column columns inductionHypothesis =>
      rw [Mapper.slotsFrom, List.mem_cons, not_or]
      refine ⟨fun feeds => ?_, inductionHypothesis _⟩
      have allowed := (Option.filter_eq_some_iff.mp feeds.symm).2
      simp [present, refused] at allowed

theorem lacksKey
    (database : Database)
    (own : query.root.OwnColumns)
    (present : query.root.fields[position]? = some field)
    (refused : query.only.allows field = false) :
    database.LacksKey query position field := by
  refine ⟨?_, ?_⟩
  · intro listed
    obtain ⟨other, member, same⟩ := List.mem_map.mp listed
    obtain ⟨otherMember, allows⟩ := List.mem_filter.mp member
    obtain ⟨place, otherPresent⟩ := List.getElem?_of_mem otherMember
    -- Both fields are found by the one column, so they are the same field.
    have sameColumn : other.column = field.column := by
      simpa [Fragment.qualified] using same
    have found := own place other otherPresent
    rw [sameColumn, own position field present] at found
    obtain rfl := Option.some.inj found
    rw [present] at otherPresent
    obtain rfl := Option.some.inj otherPresent
    rw [refused] at allows
    cases allows
  · intro row record read
    obtain ⟨filled, -⟩ := fill_of_readRecord read
    have untouched : record.values[position]? = (Record.fresh query.root).values[position]? := by
      rw [filled]
      refine Record.values_fill_of_ne fun feed member same => ?_
      obtain ⟨place, slot, -, -⟩ := Mapper.mem_feedsFrom.mp member
      rw [same] at slot
      exact slotsFrom_ne_some present refused [] row.columns (List.mem_of_getElem? slot)
    rw [Record.get, List.getD_eq_getElem?_getD, untouched, Mapper.values_fresh present]
    rfl

/-! ## Children of a selection -/

/-- A selection opens its statement, unless the token has fired. -/
theorem statements_select (database : Database) (query : Query) (session : Session) :
    (session.fired = true ∧
        (database.select query session).2.statements = session.statements) ∨
      (session.fired = false ∧
        (database.select query session).2.statements =
          session.statements ++ [query.toSelect]) := by
  cases unfired : session.fired with
  | true =>
      left
      have refused : database.select query session =
          (.error .cancelled, session.emit (.cancelled .opening)) :=
        Session.drain_of_fired unfired _ _ _ _ _
      rw [refused]
      exact ⟨rfl, rfl⟩
  | false => exact .inr ⟨rfl, (Session.statements_drain unfired _ _ _ _ _).2⟩

/-- A relation whose key is left out is looked up only if fresh keys are no null values. -/
theorem fresh_of_isWanted
    {relation : Relation}
    {model : Model}
    {records : List Record}
    (located : model.shape.locate relation.parentKey = .ok (position, field))
    (fresh : ∀ record ∈ records, record.get position = field.type.fresh)
    (wanted : relation.isWanted model.shape (records.map (Parent.ofRecord model)) = true) :
    field.type.fresh.isNull = false := by
  rw [Relation.isWanted, located] at wanted
  obtain ⟨parent, member, held⟩ := List.any_eq_true.mp wanted
  obtain ⟨record, read, rfl⟩ := List.mem_map.mp member
  have same : (Parent.ofRecord model record).record.get position = field.type.fresh :=
    fresh record read
  rw [same] at held
  simpa using held

/-- A statement reads the children of a relation by the root's own column of its key. -/
structure LooksUp
    (database : Database)
    (query : Query)
    (relation : Relation)
    (position : Nat)
    (field : Field)
    (statement : Statement) : Prop where
  located : query.root.locate relation.parentKey = .ok (position, field)
  keys : query.keysOf field =
    .ok (Query.keysFrom (query.keyRows ⟨query.root.table, field.column⟩))
  asked : relation.childStatement
      (Query.keysFrom (query.keyRows ⟨query.root.table, field.column⟩)) database.dialect =
    .ok statement

theorem exists_looksUp
    {relation : Relation}
    {parents : List Parent}
    {statement : Statement}
    (own : query.root.OwnColumns)
    (asks : relation.Asks database.dialect query.root query parents statement) :
    ∃ position field, database.LooksUp query relation position field statement := by
  obtain ⟨⟨position, field⟩, located, looking⟩ := bind_eq_ok.mp asks.lookup
  obtain ⟨keys, keysRead, asking⟩ := bind_eq_ok.mp looking
  have ownKeys :=
    Query.keysOf_of_field? (Shape.field?_column own (Shape.locate_eq_ok.mp located).2)
  rw [ownKeys] at keysRead
  cases keysRead
  exact ⟨position, field, located, ownKeys, asking⟩

/--
What a selection with relations looks up. Its first statement is that of the parents, and each
one after it reads the children of a relation by keys that are read from the root's own column
of the relation's key. If the restriction leaves the key in, the parents' statement lists that
very column, and the key of each parent is what its cell becomes. If it leaves the key out, the
parents' statement does not list the column, and children are looked up all the same where a
fresh key is not the null value, which is then the key of every parent.
-/
theorem loadSelect_keys
    (database : Database)
    (model : Model)
    (query : Query)
    (names : List String)
    (session after : Session)
    (outcome : Except Error (List Parent))
    (rooted : query.root = model.shape)
    (plain : query.projection = none)
    (own : query.root.OwnColumns)
    (loading : database.loadSelect model query names session = (outcome, after)) :
    ∃ opened,
      after.statements = session.statements ++ opened ∧
      (opened = [] ∨
        ∃ children, opened = query.toSelect :: children ∧
          ∀ statement ∈ children, ∃ relation position field,
            relation ∈ model.relations ∧
            database.LooksUp query relation position field statement ∧
            (query.only.allows field = true →
              ∃ place, database.CarriesKey query position field place) ∧
            (query.only.allows field = false →
              database.LacksKey query position field ∧ field.type.fresh.isNull = false)) := by
  unfold loadSelect at loading
  rw [Action.ofCompile_bind_apply] at loading
  cases resolved : model.resolve names with
  | error cause =>
      rw [resolved] at loading
      cases loading
      exact ⟨[], (List.append_nil _).symm, .inl rfl⟩
  | ok relations =>
  rw [resolved] at loading
  dsimp only at loading
  rw [Action.bind_apply] at loading
  -- Without parents there is nothing to look up, so only a selection that succeeds goes on.
  have first := statements_select database query session
  rcases selected : database.select query session with ⟨result, middle⟩
  rw [selected] at first loading
  cases result with
  | error error =>
      cases loading
      rcases first with ⟨-, same⟩ | ⟨-, grown⟩
      · exact ⟨[], same.trans (List.append_nil _).symm, .inl rfl⟩
      · exact ⟨_, grown, .inr ⟨[], rfl, by simp⟩⟩
  | ok records =>
  dsimp only at loading
  obtain ⟨cursor, _, _, _, read⟩ := rows_of_select selected
  have grown : middle.statements = session.statements ++ [query.toSelect] :=
    Session.statements_drain_of_ok selected
  have onto := database.statements_loadOnto model query relations records middle
  rw [loading] at onto
  obtain ⟨children, more, each⟩ := onto
  refine ⟨query.toSelect :: children, ?_, .inr ⟨children, rfl, ?_⟩⟩
  · rw [more, grown, List.append_assoc, List.singleton_append]
  · intro statement member
    obtain ⟨entry, listed, asks⟩ := each statement member
    rw [← rooted] at asks
    obtain ⟨position, field, looksUp⟩ := exists_looksUp own asks
    have present := (Shape.locate_eq_ok.mp looksUp.located).2
    refine ⟨entry.1, position, field, Model.mem_of_resolve resolved listed, looksUp,
      fun allows => exists_carriesKey database plain own present allows, ?_⟩
    intro refused
    have lacks := lacksKey database own present refused
    refine ⟨lacks, fresh_of_isWanted (rooted ▸ looksUp.located) ?_ (rooted ▸ asks.wanted)⟩
    intro record inRecords
    obtain ⟨row, _, becomes⟩ := exists_of_mem_mapM read inRecords
    exact lacks.fresh row record becomes

end Database

namespace Sample

/-- What customers bought. -/
def purchases : Shape :=
  ⟨"purchases", [⟨"id", "id", ⟨.integer .signed64, false⟩⟩,
    ⟨"customer", "customer_id", ⟨.integer .signed64, false⟩⟩]⟩

/-- Customers, each with what they bought. -/
def customers : Model :=
  ⟨⟨"customers", [⟨"id", "id", ⟨.integer .signed64, false⟩⟩,
      ⟨"name", "name", ⟨.text, false⟩⟩]⟩,
    [⟨"purchases", .many, purchases, "id", "customer"⟩]⟩

/-- All customers, with some of their fields. -/
def buyers (names : List String) : Query := (database.source customers.shape).restrict names

/-- A session with one customer and one purchase, whatever is selected. -/
def shop : Session :=
  .start false
    [.cursor ⟨["id", "name"], [.row [.integer 1, .text "alice"] false], false, none⟩ false,
      .cursor ⟨["id", "customer_id"], [.row [.integer 10, .integer 1] false], false, none⟩ false]

/-- The keys of some customers. -/
def buyerKeys (names : List String) : Fragment :=
  Query.keysFrom ((buyers names).keyRows ⟨"customers", "id"⟩)

/-- The statement for what some customers bought. -/
def purchasesOf (names : List String) : Statement :=
  (customers.relations.head?.bind fun relation =>
    (relation.childStatement (buyerKeys names) database.dialect).toOption).getD ⟨"", []⟩

/-- The session after the purchases of some customers were read. -/
def sold (names : List String) : Session :=
  ⟨false, [],
    [.open (buyers names).toSelect, .fetch true, .fetch false, .close,
      .open (purchasesOf names), .fetch true, .fetch false, .close],
    [.executing (buyers names).toSelect.sql 0, .loading "purchases" 1,
      .executing (purchasesOf names).sql 0]⟩

end Sample

namespace Database

/-- A customer that is selected with the key is given the purchases that were looked up. -/
theorem loadSelect_keys_listed :
    (Sample.buyers ["id"]).root.OwnColumns ∧
      Sample.database.loadSelect Sample.customers (Sample.buyers ["id"]) ["purchases"]
          Sample.shop =
        (.ok [⟨⟨Sample.customers.shape, [.integer 1, .text ""]⟩,
          [some (.many [⟨Sample.purchases, [.integer 10, .integer 1]⟩])]⟩], Sample.sold ["id"]) ∧
      ∃ relation position field place,
        relation ∈ Sample.customers.relations ∧
        Sample.database.LooksUp (Sample.buyers ["id"]) relation position field
          (Sample.purchasesOf ["id"]) ∧
        Sample.database.CarriesKey (Sample.buyers ["id"]) position field place := by
  have own : (Sample.buyers ["id"]).root.OwnColumns := by decide
  have loading : Sample.database.loadSelect Sample.customers (Sample.buyers ["id"])
      ["purchases"] Sample.shop =
        (.ok [⟨⟨Sample.customers.shape, [.integer 1, .text ""]⟩,
          [some (.many [⟨Sample.purchases, [.integer 10, .integer 1]⟩])]⟩],
          Sample.sold ["id"]) := rfl
  refine ⟨own, loading, ?_⟩
  obtain ⟨opened, grown, lookups⟩ := loadSelect_keys _ _ _ _ _ _ _ rfl rfl own loading
  have both : [(Sample.buyers ["id"]).toSelect, Sample.purchasesOf ["id"]] = opened := grown
  subst both
  rcases lookups with none | ⟨children, split, each⟩
  · cases none
  · obtain rfl := (List.cons.inj split).2
    obtain ⟨relation, position, field, listed, looksUp, carries, -⟩ :=
      each _ (List.mem_singleton_self _)
    obtain rfl := List.mem_singleton.mp listed
    cases looksUp.located
    obtain ⟨place, carriesKey⟩ := carries (by decide)
    exact ⟨_, _, _, place, listed, looksUp, carriesKey⟩

/-- A customer that is selected without the key is not given the purchases. -/
theorem loadSelect_keys_unlisted :
    (Sample.buyers ["name"]).root.OwnColumns ∧
      (Sample.buyers ["name"]).projection = none ∧
      Sample.database.loadSelect Sample.customers (Sample.buyers ["name"]) ["purchases"]
          Sample.shop =
        (.ok [⟨⟨Sample.customers.shape, [.integer 0, .text "alice"]⟩, [some (.many [])]⟩],
          Sample.sold ["name"]) ∧
      Sample.customers.relations.map
          (fun relation =>
            relation.childStatement (Sample.buyerKeys ["name"]) Sample.database.dialect) =
        [.ok (Sample.purchasesOf ["name"])] ∧
      Fragment.qualified "customers" "id" ∉ (Sample.buyers ["name"]).rootColumns := by
  exact ⟨by decide, rfl, rfl, rfl, by decide⟩

end Database
end TypedSql
