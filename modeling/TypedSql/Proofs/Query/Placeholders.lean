import TypedSql.Proofs.Query.Parameters

/-!
# Placeholders of queries

Every statement of a query writes its bound values as placeholders in their order. The
text that PostgreSQL reads has the placeholders from one up to the number of the values,
each once and in order, and no others: the page is text of its own, but it consists of
words and numbers.
-/

namespace TypedSql

/-! ## Raw chunks -/

namespace Fragment

variable {accepts : String → Prop}

/-- The texts of the raw chunks are accepted. -/
def RawOnly (accepts : String → Prop) (fragment : Fragment) : Prop :=
  ∀ content, .raw content ∈ fragment → accepts content

theorem rawOnly_token (symbol : Token) : RawOnly accepts [.token symbol] := by
  intro content member
  simp at member

/-- Accepted texts stay accepted when fragments are put in a row. -/
theorem rawOnly_concatenable : Concatenable (RawOnly accepts) where
  empty := by
    intro content member
    cases member
  token symbol _ _ := rawOnly_token symbol
  identifier := by
    intro name content member
    simp at member
  append := by
    intro front back frontOnly backOnly content member
    rcases List.mem_append.mp member with inFront | inBack
    · exact frontOnly content inFront
    · exact backOnly content inBack

theorem rawOnly_qualified (table column : String) : RawOnly accepts (.qualified table column) := by
  intro content member
  simp [Fragment.qualified] at member

/-- The raw chunks of compiled expressions are names of functions. -/
theorem rawOnly_stable (functions : ∀ rule ∈ FunctionRule.supported, accepts rule.name) :
    Stable fun _ => RawOnly accepts where
  pieces scope := by
    apply rawOnly_concatenable.compositional
    · exact fun _ place _ => rawOnly_qualified place.table place.column
    · intro value content member
      simp at member
    · intro count content member
      simp at member
    · intro rule supported content member
      simp only [List.mem_singleton, Chunk.raw.injEq] at member
      rw [member]
      exact functions rule supported
  grows _ _ _ held := held

end Fragment

namespace Lexer

theorem words_token (symbol : Token) : WordsOnly [.token symbol] :=
  Fragment.rawOnly_token symbol

/-- Words stay words when fragments are put in a row. -/
theorem words_concatenable : Fragment.Concatenable WordsOnly :=
  Fragment.rawOnly_concatenable

/-- The names of functions are words. -/
theorem words_supported : ∀ rule ∈ FunctionRule.supported, isWord rule.name = true := by
  decide

theorem words_qualified (table column : String) : WordsOnly (.qualified table column) :=
  Fragment.rawOnly_qualified table column

/-- The raw chunks of compiled expressions are words. -/
theorem words_stable : Fragment.Stable fun _ => WordsOnly :=
  Fragment.rawOnly_stable words_supported

end Lexer

/-! ## Pages -/

/-- A limit and an offset in words and numbers. -/
def Fragment.page (limit offset : Option UInt64) : Fragment :=
  (limit.elim [] fun count => [.raw "LIMIT", .number count]) ++
    offset.elim [] fun count => [.raw "OFFSET", .number count]

theorem Fragment.words_page (limit offset : Option UInt64) :
    Lexer.WordsOnly (.page limit offset) := by
  intro content member
  have keyword : content = "LIMIT" ∨ content = "OFFSET" := by
    cases limit <;> cases offset <;> simp_all [Fragment.page]
  rcases keyword with rfl | rfl <;> decide

@[simp] theorem Fragment.parameters_page (limit offset : Option UInt64) :
    (Fragment.page limit offset).parameters = [] := by
  cases limit <;> cases offset <;> rfl

@[simp] theorem Vendor.paging_dialect (vendor : Vendor) (limit offset : Option UInt64) :
    vendor.dialect.paging limit offset = vendor.paging limit offset := rfl

/-- PostgreSQL's text for a page is that of its words and numbers. -/
theorem Fragment.renderFrom_page
    (dialect : Dialect)
    (index : Nat)
    (limit offset : Option UInt64) :
    (Fragment.page limit offset).renderFrom dialect index =
      (Vendor.postgresql.paging limit offset).getD "" := by
  have limitBlank (count : UInt64) : (Chunk.raw "LIMIT").needsBlank (.number count) = true := rfl
  have offsetBlank (count : UInt64) : (Chunk.raw "OFFSET").needsBlank (.number count) = true := rfl
  have numberBlank (count : UInt64) : (Chunk.number count).needsBlank (.raw "OFFSET") = true := rfl
  have between (rest : String) : " " ++ ("OFFSET " ++ rest) = " OFFSET " ++ rest := by
    rw [← String.append_assoc]
    rfl
  cases limit <;> cases offset <;>
    simp [page, Vendor.paging, renderFrom, chunkText, blankBefore, limitBlank, offsetBlank,
      numberBlank, between, String.append_assoc]

/-- The page of a query for PostgreSQL has the text of words and numbers. -/
theorem Query.render_pageClause
    {query : Query}
    (postgresql : query.dialect = Vendor.postgresql.dialect)
    (dialect : Dialect)
    (front : Fragment)
    {back : Fragment}
    (closed : ∀ next ∈ back.head?, next = .mark .closeParen) :
    (front ++ query.pageClause ++ back).render dialect =
      (front ++ .page query.limit query.offset ++ back).render dialect := by
  have sameText := Fragment.renderFrom_page dialect
  rw [pageClause, postgresql, Vendor.paging_dialect]
  generalize query.limit = limit, query.offset = offset
  apply Fragment.render_replace dialect
  · cases limit <;> cases offset
    · rfl
    all_goals
      refine Fragment.gap_raw front ?_ rfl _ _
      simp [Chunk.startsBlank]
  · intro index
    rw [sameText index limit offset]
    cases Vendor.postgresql.paging limit offset with
    | none => rfl
    | some text => simp [Fragment.renderFrom, Fragment.blankBefore, Fragment.chunkText]
  · rw [Fragment.gap_closed _ closed, Fragment.gap_closed _ closed]
  · rw [Fragment.parameters_page]
    cases limit <;> cases offset <;> rfl

/-! ## Statements -/

/--
A statement binds values: they are its parameters, and it is the text of a fragment in
which each parameter is written as the placeholder of its position.
-/
structure Statement.Binds
    (statement : Statement)
    (dialect : Dialect)
    (values : List Value) : Prop where
  parameters : statement.parameters = values
  written : ∃ fragment : Fragment, statement = fragment.build dialect ∧
    ∀ (front : Fragment) (value : Value) (back : Fragment),
      fragment = front ++ .parameter value :: back → statement.sql =
        front.render dialect ++ Fragment.gap front (.parameter value :: back) ++
          dialect.placeholder (front.parameters.length + 1) ++
            Fragment.blankBefore (.parameter value) back ++
              back.renderFrom dialect (front.parameters.length + 2)

/-- PostgreSQL reads the placeholders from one up to the number of the parameters. -/
def Statement.Numbered (statement : Statement) : Prop :=
  Lexer.placeholders .postgresql statement.sql =
    some ((List.range' 1 statement.parameters.length).map some)

namespace Fragment

/-- The statement of a fragment binds the values of the fragment. -/
theorem binds_build
    (dialect : Dialect)
    {fragment : Fragment}
    {values : List Value}
    (bound : fragment.parameters = values) :
    (fragment.build dialect).Binds dialect values where
  parameters := bound
  written := by
    refine ⟨fragment, rfl, ?_⟩
    rintro front value back rfl
    exact render_parameter dialect front value back

theorem numbered_build
    {fragment : Fragment}
    (words : Lexer.WordsOnly fragment) :
    (fragment.build Vendor.postgresql.dialect).Numbered :=
  placeholders_render words

/-- A page among words does not disturb the placeholders. -/
theorem numbered_pageClause
    {query : Query}
    {front back : Fragment}
    (postgresql : query.dialect = Vendor.postgresql.dialect)
    (frontWords : Lexer.WordsOnly front)
    (backWords : Lexer.WordsOnly back)
    (closed : ∀ next ∈ back.head?, next = .mark .closeParen) :
    ((front ++ query.pageClause ++ back).build Vendor.postgresql.dialect).Numbered := by
  have words : Lexer.WordsOnly (front ++ .page query.limit query.offset ++ back) :=
    Lexer.words_concatenable.append _ _
      (Lexer.words_concatenable.append _ _ frontWords (words_page _ _)) backWords
  have numbered := numbered_build words
  unfold Statement.Numbered at numbered ⊢
  rw [sql_build, query.render_pageClause postgresql _ front closed]
  simpa using numbered

end Fragment

namespace Query

variable {query : Query} (built : Built (fun _ => Lexer.WordsOnly) query)

include built in
theorem words_bodyOf {projection : Fragment} (projected : Lexer.WordsOnly projection) :
    Lexer.WordsOnly (query.bodyOf projection) :=
  holds_bodyOf built Lexer.words_stable Lexer.words_concatenable
    (fun symbol _ => Lexer.words_token symbol) projected

include built in
theorem numbered_rows (postgresql : query.dialect = Vendor.postgresql.dialect) :
    query.toSelect.Numbered := by
  have projected : Lexer.WordsOnly query.effectiveProjection :=
    holds_effectiveProjection built Lexer.words_concatenable fun _ _ =>
      Lexer.words_qualified _ _
  have noWords : Lexer.WordsOnly [] := Lexer.words_concatenable.empty
  have numbered := Fragment.numbered_pageClause postgresql (words_bodyOf built projected) noWords
    (by simp)
  rwa [List.append_nil, ← selectFragmentOf_eq, ← rowsFragment, ← postgresql] at numbered

include built in
theorem numbered_count (postgresql : query.dialect = Vendor.postgresql.dialect) :
    query.toCount.Numbered := by
  have words : Lexer.WordsOnly query.countFragment :=
    holds_countFragment built Lexer.words_stable Lexer.words_concatenable
      fun symbol _ => Lexer.words_token symbol
  have numbered := Fragment.numbered_build words
  rwa [← postgresql] at numbered

include built in
theorem numbered_children
    {relation : Relation}
    {key : Field}
    {place : Place}
    (postgresql : query.dialect = Vendor.postgresql.dialect) :
    ((relation.childHead key ++ (keysFrom (query.keyRows place)).parens).build
      Vendor.postgresql.dialect).Numbered := by
  have chunks := Lexer.words_concatenable
  have column := Lexer.words_qualified
  -- The page stands in the middle, between the rows of the keys and their parentheses.
  let selected : Fragment :=
    .mark .openParen :: .keyword .selectKw :: Fragment.qualified keyTable keyColumn
  let opened : Fragment := [.keyword .fromKw, .mark .openParen]
  let back : Fragment :=
    [.mark .closeParen, .keyword .asKw, .identifier keyTable, .mark .closeParen]
  have shape : relation.childHead key ++ (keysFrom (query.keyRows place)).parens =
      relation.childHead key ++ selected ++ opened ++
        query.bodyOf (.named (.place place) keyColumn) ++ query.pageClause ++ back := by
    simp [selected, opened, back, keysFrom, keyRows, selectFragmentOf_eq, Fragment.parens,
      Fragment.named]
  have headWords : Lexer.WordsOnly (relation.childHead key) :=
    relation.holds_childHead chunks (fun symbol _ => Lexer.words_token symbol) fun field =>
      column _ field.column
  have selectedWords : Lexer.WordsOnly selected :=
    chunks.append [_] _ (Lexer.words_token _)
      (chunks.keyword_cons .selectKw rfl (column keyTable keyColumn))
  have openedWords : Lexer.WordsOnly opened :=
    chunks.append [_] _ (Lexer.words_token _) (Lexer.words_token _)
  have frontWords := chunks.append _ _ (chunks.append _ _ headWords selectedWords) openedWords
  have bodyWords := words_bodyOf built (chunks.named keyColumn (column place.table place.column))
  have backWords : Lexer.WordsOnly back := by
    intro content member
    simp [back] at member
  rw [shape]
  exact Fragment.numbered_pageClause postgresql (chunks.append _ _ frontWords bodyWords)
    backWords (by simp [back])

/--
The statements of a query bind the literals of the calls that led to it: those of the
last projection, of the joins, of the conditions, of the grouping and of the order, as
far as a statement has these clauses. PostgreSQL reads just their placeholders, in order.
-/
theorem statements_bind_literals
    (dialect : Dialect)
    (root : Shape)
    (calls : List QueryCall)
    (final : Query)
    (compiled : ∀ call ∈ calls, call.isCompiled = true)
    (reached : (ofRoot dialect root).extendAll calls = .ok final) :
    final.toSelect.Binds dialect
        (boundInProjection calls ++ boundInRows calls ++ boundIn .order calls) ∧
      final.toCount.Binds dialect (boundInRows calls) ∧
      (∀ (field : Field) (keys : Fragment) (relation : Relation) (childDialect : Dialect)
        (statement : Statement),
        final.keysOf field = .ok keys →
          relation.childStatement keys childDialect = .ok statement →
            statement.Binds childDialect (boundInRows calls ++ boundIn .order calls)) ∧
      (dialect = Vendor.postgresql.dialect →
        final.toSelect.Numbered ∧
          final.toCount.Numbered ∧
          ∀ (field : Field) (keys : Fragment) (relation : Relation) (statement : Statement),
            final.keysOf field = .ok keys →
              relation.childStatement keys Vendor.postgresql.dialect = .ok statement →
                statement.Numbered) := by
  have built : Built (fun _ => Lexer.WordsOnly) final :=
    built_extendAll Lexer.words_stable compiled reached
  have sameDialect : final.dialect = dialect := (extendAll_origin reached).1
  refine ⟨?_, ?_, ?_, ?_⟩
  · rw [toSelect, sameDialect]
    exact Fragment.binds_build dialect (parameters_rowsFragment reached)
  · rw [toCount, sameDialect]
    exact Fragment.binds_build dialect (parameters_countFragment reached)
  · intro field keys relation childDialect statement found stated
    obtain ⟨key, subquery⟩ := exists_keySubquery found
    obtain ⟨entry, _, rfl⟩ := Relation.childStatement_eq_ok.mp stated
    apply Fragment.binds_build childDialect
    rw [relation.parameters_childHead]
    exact parameters_keySubquery reached subquery
  · rintro rfl
    refine ⟨numbered_rows built sameDialect, numbered_count built sameDialect, ?_⟩
    intro field keys relation statement found stated
    obtain ⟨key, subquery⟩ := exists_keySubquery found
    obtain ⟨place, _, rfl⟩ := keySubquery_eq_ok.mp subquery
    obtain ⟨entry, _, rfl⟩ := Relation.childStatement_eq_ok.mp stated
    exact numbered_children built sameDialect

end Query

namespace Sample

/-- A table with a column whose name looks like a placeholder. -/
def authors : Shape :=
  ⟨"authors", [⟨"id", "id", ⟨.integer .signed64, false⟩⟩, ⟨"name", "$1", ⟨.text, false⟩⟩]⟩

/-- A table that refers to the other one. -/
def books : Shape :=
  ⟨"books", [⟨"author", "author_id", ⟨.integer .signed64, false⟩⟩,
    ⟨"title", "title", ⟨.text, true⟩⟩]⟩

/-- The books of an author. -/
def works : Relation := ⟨"works", .many, books, "id", "author"⟩

/-- Calls for clauses in mixed order, with literals that are not bound among others. -/
def report : List QueryCall :=
  [.orderBy (.binary .plus (.col "id") (.literal (.integer 7))) .descending,
   .filter .and (.binary .eq (.col "name") (.literal (.text "$9"))),
   .select [.literal (.integer 1)],
   .join .left books (.group .and
     [.binary .eq (.col "author") (.colOf "authors" "id"),
      .binary .gt (.literal (.text "t")) (.col "title")]),
   .groupBy (.call "abs" [.literal (.integer 5)]),
   .filter .or (.binary .ne (.literal .null) (.col "id")),
   .filter .and (.membership (.literal (.integer 8)) [] true),
   .select [.named (.binary .times (.col "id") (.literal (.integer 2))) "twice"],
   .limit 5,
   .offset 3]

/-- The query after the calls. -/
def reported : Query :=
  (Query.ofRoot Vendor.postgresql.dialect authors).extendEach report

/-- The key of an author. -/
def authorKey : Field := ⟨"id", "id", ⟨.integer .signed64, false⟩⟩

end Sample

/-- The values of mixed calls, in the order in which each statement asks for them. -/
theorem Query.statements_bind_literals_report :
    (∀ call ∈ Sample.report, call.isCompiled = true) ∧
      (ofRoot Vendor.postgresql.dialect Sample.authors).extendAll Sample.report =
        .ok Sample.reported ∧
      Sample.reported.toSelect.parameters =
        [.integer 2, .text "t", .text "$9", .integer 5, .integer 7] ∧
      Lexer.placeholders .postgresql Sample.reported.toSelect.sql =
        some [some 1, some 2, some 3, some 4, some 5] ∧
      Sample.reported.toCount.parameters = [.text "t", .text "$9", .integer 5] ∧
      ∃ keys statement,
        Sample.reported.keysOf Sample.authorKey = .ok keys ∧
        Sample.works.childStatement keys Vendor.postgresql.dialect = .ok statement ∧
        statement.parameters = [.text "t", .text "$9", .integer 5, .integer 7] ∧
        Lexer.placeholders .postgresql statement.sql =
          some [some 1, some 2, some 3, some 4] := by
  have compiled : ∀ call ∈ Sample.report, call.isCompiled = true := by decide
  have reached : (ofRoot Vendor.postgresql.dialect Sample.authors).extendAll Sample.report =
      .ok Sample.reported := rfl
  obtain ⟨selected, counted, children, numbered⟩ := statements_bind_literals
    Vendor.postgresql.dialect Sample.authors Sample.report Sample.reported compiled reached
  obtain ⟨selectNumbered, _, childrenNumbered⟩ := numbered rfl
  obtain ⟨keys, found⟩ : ∃ keys, Sample.reported.keysOf Sample.authorKey = .ok keys := ⟨_, rfl⟩
  obtain ⟨statement, stated⟩ : ∃ statement,
      Sample.works.childStatement keys Vendor.postgresql.dialect = .ok statement := ⟨_, rfl⟩
  have bound := children _ _ _ _ _ found stated
  have read := childrenNumbered _ _ _ _ found stated
  rw [Statement.Numbered, selected.parameters] at selectNumbered
  rw [Statement.Numbered, bound.parameters] at read
  exact ⟨compiled, reached, selected.parameters, selectNumbered, counted.parameters, keys,
    statement, found, stated, bound.parameters, read⟩

end TypedSql
