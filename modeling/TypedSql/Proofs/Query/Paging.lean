import TypedSql.Proofs.Database.Single
import TypedSql.Proofs.Dialect.Paging
import TypedSql.Proofs.Lexer.Cut
import TypedSql.Proofs.Query.Commute
import TypedSql.Proofs.Query.Placeholders

/-!
# Pages of statements

A select statement ends with a paging clause, a blank before it, if a limit or an offset was
asked for, and with nothing that could be read as one otherwise. Read by the grammar of its
database, the clause asks for the page of the query, whichever of the databases it is.
-/

namespace TypedSql

namespace Query

variable {query extended final other : Query} {dialect : Dialect} {calls : List QueryCall}
  {call : QueryCall}

/-! ## Calls on other queries -/

/-- A call makes the same change to every query of the same tables. -/
theorem extend_of_sameTables
    (reached : query.extend call = .ok extended)
    (sameTables : other.scope = query.scope) :
    ∃ change : QueryChange, change.part = call.part ∧ query.change change = extended ∧
      other.extend call = .ok (other.change change) := by
  obtain ⟨unread, change, compiles, changed⟩ := extend_eq_ok.mp reached
  refine ⟨change, compiles.part_eq, changed, extend_eq_ok.mpr ⟨?_, change, ?_, rfl⟩⟩
  · intro shape member
    rw [reads, sameTables]
    exact unread shape member
  · rwa [sameTables]

/-- The query in another dialect. -/
def inDialect (query : Query) (dialect : Dialect) : Query :=
  { query with dialect := dialect }

/-- Calls lead to the same query in every dialect. -/
theorem extendAll_inDialect
    (dialect : Dialect)
    (reached : query.extendAll calls = .ok final) :
    (query.inDialect dialect).extendAll calls = .ok (final.inDialect dialect) := by
  induction calls generalizing query with
  | nil =>
      cases reached
      rfl
  | cons call calls inductionHypothesis =>
      obtain ⟨extended, first, later⟩ := extendAll_cons.mp reached
      have sameTables : (query.inDialect dialect).scope = query.scope := rfl
      obtain ⟨change, _, rfl, sameStep⟩ := extend_of_sameTables first sameTables
      have commutes : (query.inDialect dialect).change change =
          (query.change change).inDialect dialect := by
        cases change <;> rfl
      rw [commutes] at sameStep
      exact extendAll_cons.mpr ⟨_, sameStep, inductionHypothesis later⟩

/-- The query without a projection of its own. -/
def unprojected (query : Query) : Query :=
  { query with projection := none }

/-- A call that does not change the projection compiles what it adds. -/
theorem extend_unprojected (reached : query.extend call = .ok extended) :
    extended.unprojected = query.unprojected ∨
      call.isCompiled = true ∧ query.unprojected.extend call = .ok extended.unprojected := by
  have sameTables : query.unprojected.scope = query.scope := rfl
  obtain ⟨change, samePart, rfl, sameStep⟩ := extend_of_sameTables reached sameTables
  cases change with
  | projection projection => exact .inl rfl
  | _ =>
      refine .inr ⟨?_, sameStep⟩
      cases call with
      | selectFragment projection => cases samePart
      | _ => rfl

/-- All that is no projection is built of compiled expressions. -/
theorem built_unprojected
    {holds : Scope → Fragment → Prop}
    {root : Shape}
    (stable : Fragment.Stable holds)
    (reached : (ofRoot dialect root).extendAll calls = .ok final) :
    Built holds final.unprojected := by
  apply extendAll_induction (motive := fun other => Built holds other.unprojected)
    (built_ofRoot dialect root) ?_ reached
  intro call _ before after built step
  rcases extend_unprojected step with same | ⟨compiled, sameStep⟩
  · rwa [same]
  · exact built.extend stable compiled sameStep

end Query

/-! ## Ends of fragments -/

namespace Chunk

/-- A blank is written between the chunk and raw text that brings none. -/
def SetsApart (chunk : Chunk) : Prop :=
  ∀ text, (raw text).startsBlank = false → chunk.needsBlank (.raw text) = true

/-- Keywords, operators, names, numbers, parameters and closed parentheses are followed by one. -/
theorem setsApart_of_separated
    {chunk : Chunk}
    (plain : chunk.endsBlank = false)
    (separates : ∀ text, separated chunk (.raw text) = true) :
    chunk.SetsApart := by
  intro text visible
  rw [needsBlank, plain, visible, separates text]
  rfl

end Chunk

namespace Fragment

variable {front back fragment : Fragment} {chunk : Chunk}

/-- A blank is written between the fragment and raw text that brings none, if it is not empty. -/
def SetsApart (fragment : Fragment) : Prop :=
  ∀ last ∈ fragment.getLast?, last.SetsApart

theorem setsApart_nil : SetsApart [] := by
  intro last member
  cases member

theorem setsApart_concat (front : Fragment) (last : chunk.SetsApart) :
    SetsApart (front ++ [chunk]) := by
  intro other member
  rw [List.getLast?_concat] at member
  cases member
  exact last

theorem SetsApart.append (frontApart : SetsApart front) (backApart : SetsApart back) :
    SetsApart (front ++ back) := by
  intro last member
  rw [List.getLast?_append] at member
  rcases Option.or_eq_some_iff.mp member with inBack | ⟨_, inFront⟩
  · exact backApart last inBack
  · exact frontApart last inFront

/-- What stands in front does not matter if there is something behind it. -/
theorem SetsApart.append_left
    (front : Fragment)
    (nonempty : back ≠ [])
    (backApart : SetsApart back) :
    SetsApart (front ++ back) := by
  intro last member
  rw [List.getLast?_append_of_ne_nil _ nonempty] at member
  exact backApart last member

theorem setsApart_identifier (name : String) : SetsApart [.identifier name] :=
  setsApart_concat [] (Chunk.setsApart_of_separated rfl fun _ => rfl)

theorem setsApart_keyword (word : Keyword) : SetsApart [.keyword word] :=
  setsApart_concat [] (Chunk.setsApart_of_separated rfl fun _ => rfl)

theorem setsApart_comma : SetsApart [.mark .comma] :=
  setsApart_concat [] (Chunk.setsApart_of_separated rfl fun _ => rfl)

theorem setsApart_parens (inner : Fragment) : SetsApart inner.parens :=
  setsApart_concat _ (Chunk.setsApart_of_separated rfl fun _ => rfl)

theorem setsApart_flatMap
    {α : Type}
    {items : List α}
    {part : α → Fragment}
    (each : ∀ item ∈ items, SetsApart (part item)) :
    SetsApart (items.flatMap part) := by
  induction items with
  | nil => exact setsApart_nil
  | cons first others inductionHypothesis =>
      obtain ⟨firstApart, othersApart⟩ := List.forall_mem_cons.mp each
      exact firstApart.append (inductionHypothesis othersApart)

theorem setsApart_listClause
    {word : Keyword}
    {items : List Fragment}
    (each : ∀ item ∈ items, SetsApart item) :
    SetsApart (Query.listClause word items) := by
  unfold Query.listClause
  split
  · exact setsApart_nil
  · next nonempty =>
    have listed : SetsApart (commas items) :=
      holds_join (fun _ _ => SetsApart.append) setsApart_comma
        (fun empty => nonempty (List.isEmpty_iff.mpr empty)) each
    exact (setsApart_concat [.keyword word] (setsApart_keyword .byKw _ rfl)).append listed

/-- Compiled expressions end with none of the chunks that have no blank behind them. -/
theorem setsApart_stable : Stable fun _ => SetsApart where
  pieces _ := {
    place _ place _ :=
      setsApart_concat [_, _] (Chunk.setsApart_of_separated rfl fun _ => rfl)
    parameter _ := setsApart_concat [] (Chunk.setsApart_of_separated rfl fun _ => rfl)
    number _ := setsApart_concat [] (Chunk.setsApart_of_separated rfl fun _ => rfl)
    operator _ := setsApart_concat [] (Chunk.setsApart_of_separated rfl fun _ => rfl)
    keyword word _ := setsApart_keyword word
    function rule _ inner _ := (setsApart_parens inner).append_left [.raw rule.name] (by simp)
    star := setsApart_concat [] (Chunk.setsApart_of_separated rfl fun _ => rfl)
    append _ _ := SetsApart.append
    parens inner _ := setsApart_parens inner
    list parts _ := setsApart_parens (commas parts) }
  grows _ _ _ held := held

/-- Raw text that brings no blank is rendered behind one. -/
theorem render_append_raw
    {text : String}
    (dialect : Dialect)
    (nonempty : front ≠ [])
    (frontApart : SetsApart front)
    (visible : (Chunk.raw text).startsBlank = false) :
    render dialect (front ++ [.raw text]) = front.render dialect ++ " " ++ text := by
  obtain ⟨last, isLast⟩ : ∃ last, front.getLast? = some last :=
    ⟨front.getLast nonempty, List.getLast?_eq_some_getLast nonempty⟩
  have blank : gap front [.raw text] = " " := by
    rw [gap, isLast]
    exact if_pos (frontApart last isLast text visible)
  have same (index : Nat) : renderFrom dialect index [.raw text] = text := by
    simp [renderFrom, blankBefore, chunkText]
  rw [render, renderFrom_append, blank, same]
  rfl

/-! ## Fragments without pages -/

/-- No raw chunk is a word that a paging clause starts with. -/
abbrev Pageless (fragment : Fragment) : Prop :=
  RawOnly (fun content => (Lexeme.word content).startsPage = false) fragment

theorem pageless_stable : Stable fun _ => Pageless :=
  rawOnly_stable (by decide)

theorem Pageless.startsPage
    (pageless : Pageless fragment)
    (vendor : Vendor)
    (index : Nat) :
    ∀ found ∈ fragment.lexemesFrom vendor index, found.startsPage = false := by
  induction fragment generalizing index with
  | nil => simp [lexemesFrom]
  | cons chunk rest inductionHypothesis =>
      intro found member
      rcases List.mem_cons.mp member with rfl | later
      · cases chunk with
        | raw content => exact pageless content List.mem_cons_self
        | token symbol =>
            cases symbol with
            | keyword word => cases word <;> rfl
            | mark symbol => rfl
            | operator symbol => rfl
        | _ => rfl
      · refine inductionHypothesis ?_ _ found later
        intro content inRest
        exact pageless content (List.mem_cons_of_mem chunk inRest)

/-- A name is written in quotes. -/
theorem quote_mem_renderFrom
    {name : String}
    (vendor : Vendor)
    (index : Nat)
    (member : .identifier name ∈ fragment) :
    vendor.quoteCharacter ∈ (fragment.renderFrom vendor.dialect index).toList := by
  induction fragment generalizing index with
  | nil => cases member
  | cons chunk rest inductionHypothesis =>
      rw [renderFrom, String.toList_append, String.toList_append, List.mem_append,
        List.mem_append]
      rcases List.mem_cons.mp member with rfl | later
      · refine .inl (.inl ?_)
        change vendor.quoteCharacter ∈
          (Dialect.quoteDoubling vendor.quoteCharacter name).toList
        rw [Dialect.toList_quoteDoubling]
        exact List.mem_cons_self
      · exact .inr (inductionHypothesis _ later)

/--
No page can be read at the end of a text that ends with a fragment without pages, if there is a
name in the fragment.
-/
theorem Pageless.readPage?_eq_none
    {name : String}
    {vendor : Vendor}
    {index : Nat}
    {ahead start : List Char}
    {text : String}
    (words : Lexer.WordsOnly fragment)
    (pageless : Pageless fragment)
    (named : .identifier name ∈ fragment)
    (split : ahead ++ (fragment.renderFrom vendor.dialect index).toList =
      start ++ ' ' :: text.toList) :
    vendor.readPage? text = none := by
  rw [Option.eq_none_iff_forall_ne_some]
  intro window read
  obtain ⟨found, textRead, isPage⟩ := Option.bind_eq_some_iff.mp read
  obtain ⟨⟨first, member, starts⟩, nameless⟩ := Vendor.exists_of_window? isPage
  have absent : vendor.quoteCharacter ∉ text.toList :=
    Lexer.quote_not_mem_of_lexemes textRead nameless
  have fragmentRead := Lexer.lexemes_renderFrom vendor fragment index words
  -- A page that reaches beyond the fragment has the quotes of the name in it.
  rcases List.append_eq_append_iff.mp split with ⟨middle, _, shape⟩ | ⟨middle, _, shape⟩
  · rw [shape] at fragmentRead
    obtain ⟨before, behind, _, behindRead, whole⟩ := Lexer.lexemes_cut absent fragmentRead
    obtain rfl := Option.some.inj (textRead.symm.trans behindRead)
    have inFragment : first ∈ fragment.lexemesFrom vendor index := by
      rw [whole]
      exact List.mem_append_right before member
    rw [pageless.startsPage vendor index first inFragment] at starts
    cases starts
  · have quotes := quote_mem_renderFrom vendor index named
    have inText : vendor.quoteCharacter ∈ ' ' :: text.toList := by
      rw [shape]
      exact List.mem_append_right middle quotes
    rcases List.mem_cons.mp inText with isBlank | inText
    · exact (Lexer.quoteCharacter_visible vendor).2 isBlank
    · exact absent inText

end Fragment

namespace Query

variable {query final : Query} {dialect : Dialect} {calls : List QueryCall}

/-! ## Clauses behind the projection -/

/-- A select statement from the projection up to the page. -/
def afterProjection (query : Query) : Fragment :=
  query.fromClause ++ query.whereClause ++ query.groupClause ++ query.orderClause

theorem bodyOf_eq (query : Query) (projection : Fragment) :
    query.bodyOf projection =
      .keyword .selectKw :: projection ++ query.afterProjection := by
  simp [bodyOf, afterProjection]

/-- Whatever the clauses behind a projection are, raw text is set apart from them. -/
theorem setsApart_afterProjection
    (built : Built (fun _ => Fragment.SetsApart) query.unprojected) :
    query.afterProjection.SetsApart := by
  have tables : query.fromClause.SetsApart := by
    refine (Fragment.setsApart_concat [.keyword .fromKw] ?_).append (Fragment.setsApart_flatMap ?_)
    · exact Fragment.setsApart_identifier _ _ rfl
    · intro join member
      have condition := built.condition Fragment.setsApart_stable join member
      exact (Fragment.setsApart_concat [_, _, _] (Fragment.setsApart_keyword .onKw _ rfl)).append
        condition
  have filtered : query.whereClause.SetsApart := by
    unfold whereClause
    split
    · exact Fragment.setsApart_nil
    · next filter present =>
      exact (Fragment.setsApart_keyword .whereKw).append (built.filter filter present)
  have ordered : query.orderClause.SetsApart := by
    refine Fragment.setsApart_listClause ?_
    intro item member
    obtain ⟨inner, direction, _, rfl⟩ := built.order item member
    exact Fragment.setsApart_concat inner (Fragment.setsApart_keyword _ _ rfl)
  exact ((tables.append filtered).append (Fragment.setsApart_listClause built.grouping)).append
    ordered

theorem rawOnly_afterProjection
    {accepts : String → Prop}
    (functions : ∀ rule ∈ FunctionRule.supported, accepts rule.name)
    (built : Built (fun _ => Fragment.RawOnly accepts) query.unprojected) :
    query.afterProjection.RawOnly accepts := by
  have chunks : Fragment.Concatenable (Fragment.RawOnly accepts) := Fragment.rawOnly_concatenable
  have tables : query.fromClause.RawOnly accepts :=
    holds_fromClause built (Fragment.rawOnly_stable functions) chunks
      fun symbol _ => Fragment.rawOnly_token symbol
  have filtered := chunks.append _ _ tables (holds_whereClause built chunks)
  have grouped := chunks.append _ _ filtered (holds_groupClause built chunks)
  exact chunks.append _ _ grouped (holds_orderClause built chunks)

/-- The name of the root's table stands behind every projection. -/
theorem root_mem_afterProjection (query : Query) :
    .identifier query.root.table ∈ query.afterProjection := by
  simp [afterProjection, fromClause]

/-- No page can be read at the end of a statement up to its page. -/
theorem readPage?_bodyOf
    {vendor : Vendor}
    {root : Shape}
    {front text : String}
    (reached : (ofRoot dialect root).extendAll calls = .ok query)
    (projection : Fragment)
    (split : (query.bodyOf projection).render vendor.dialect = front ++ " " ++ text) :
    vendor.readPage? text = none := by
  have words : query.afterProjection.RawOnly (Lexer.isWord · = true) :=
    rawOnly_afterProjection Lexer.words_supported (built_unprojected Lexer.words_stable reached)
  have pageless : query.afterProjection.Pageless :=
    rawOnly_afterProjection (by decide) (built_unprojected Fragment.pageless_stable reached)
  rw [bodyOf_eq, Fragment.render, Fragment.renderFrom_append] at split
  have characters := congrArg String.toList split
  simp only [String.toList_append] at characters
  rw [List.append_assoc _ " ".toList] at characters
  exact pageless.readPage?_eq_none words query.root_mem_afterProjection characters

/-! ## Pages -/

/-- The query without a limit and an offset. -/
def unpaged (query : Query) : Query :=
  { query with limit := none, offset := none }

theorem sql_of_paging_none
    (unasked : query.dialect.paging query.limit query.offset = none) :
    query.toSelect.sql = (query.bodyOf query.effectiveProjection).render query.dialect := by
  rw [toSelect, Fragment.sql_build, rowsFragment, selectFragmentOf_eq, pageClause, unasked,
    List.append_nil]

theorem sql_of_paging_some
    {root : Shape}
    {text : String}
    (reached : (ofRoot dialect root).extendAll calls = .ok query)
    (asked : query.dialect.paging query.limit query.offset = some text)
    (visible : (Chunk.raw text).startsBlank = false) :
    query.toSelect.sql =
      (query.bodyOf query.effectiveProjection).render query.dialect ++ " " ++ text := by
  have apart := setsApart_afterProjection (built_unprojected Fragment.setsApart_stable reached)
  have nonempty : query.afterProjection ≠ [] := List.ne_nil_of_mem query.root_mem_afterProjection
  have bodyApart : (query.bodyOf query.effectiveProjection).SetsApart := by
    rw [bodyOf_eq]
    exact apart.append_left _ nonempty
  rw [toSelect, Fragment.sql_build, rowsFragment, selectFragmentOf_eq, pageClause, asked]
  exact Fragment.render_append_raw _ (List.cons_ne_nil _ _) bodyApart visible

end Query

namespace Vendor

/-- A paging clause starts with a word. -/
theorem startsBlank_paging
    {vendor : Vendor}
    {limit offset : Option UInt64}
    {text : String}
    (asked : vendor.paging limit offset = some text) :
    (Chunk.raw text).startsBlank = false := by
  cases vendor <;> cases limit <;> cases offset <;> cases asked <;> simp [Chunk.startsBlank]

end Vendor

namespace Query

/-- A window that is asked for holds the page of the query. -/
theorem rows_windowFor
    {α : Type}
    {rows : List α}
    (query : Query)
    (vendor : Vendor)
    (fewer : rows.length < 0x10000000000000000) :
    (vendor.windowFor query.limit query.offset).rows rows = query.page rows := by
  rw [Vendor.rows_windowFor fewer, page]
  cases query.limit <;> rfl

/--
A select statement ends with text, behind a blank, that its database reads as a paging clause if
and only if a limit or an offset was asked for. The clause then follows the statement of the
query without either, and what is read in it is the window that was asked for. Calls lead to the
same query in every dialect, and of fewer than 2⁶⁴ rows each window keeps the page of the query:
those behind the offset, and no more of them than the limit allows.
-/
theorem pages_exactly
    (vendor : Vendor)
    (root : Shape)
    (calls : List QueryCall)
    (query : Query)
    (reached : (ofRoot vendor.dialect root).extendAll calls = .ok query) :
    ((∃ front text window, query.toSelect.sql = front ++ " " ++ text ∧
        vendor.readPage? text = some window) ↔
      query.limit ≠ none ∨ query.offset ≠ none) ∧
    (query.limit ≠ none ∨ query.offset ≠ none →
      ∃ text, vendor.paging query.limit query.offset = some text ∧
        query.toSelect.sql = query.unpaged.toSelect.sql ++ " " ++ text ∧
        vendor.readPage? text = some (vendor.windowFor query.limit query.offset)) ∧
    ∀ other : Vendor,
      (ofRoot other.dialect root).extendAll calls = .ok (query.inDialect other.dialect) ∧
      ∀ {α : Type} (rows : List α), rows.length < 0x10000000000000000 →
        (other.windowFor query.limit query.offset).rows rows = query.page rows := by
  have sameDialect : query.dialect = vendor.dialect := (extendAll_origin reached).1
  have unpagedSql : query.unpaged.toSelect.sql =
      (query.bodyOf query.effectiveProjection).render vendor.dialect := by
    have unasked : query.dialect.paging none none = none := by
      rw [sameDialect]
      exact vendor.paging_eq_none_iff.mpr ⟨rfl, rfl⟩
    rw [← sameDialect]
    exact sql_of_paging_none unasked
  have reads (isSet : query.limit ≠ none ∨ query.offset ≠ none) :
      ∃ text, vendor.paging query.limit query.offset = some text ∧
        query.toSelect.sql = query.unpaged.toSelect.sql ++ " " ++ text ∧
        vendor.readPage? text = some (vendor.windowFor query.limit query.offset) := by
    cases asked : vendor.paging query.limit query.offset with
    | none =>
        obtain ⟨noLimit, noOffset⟩ := vendor.paging_eq_none_iff.mp asked
        simp [noLimit, noOffset] at isSet
    | some text =>
        refine ⟨text, rfl, ?_, Vendor.readPage?_paging asked⟩
        rw [unpagedSql, ← sameDialect]
        refine sql_of_paging_some reached ?_ (Vendor.startsBlank_paging asked)
        rw [sameDialect]
        exact asked
  refine ⟨⟨?_, ?_⟩, reads, fun other => ?_⟩
  · rintro ⟨front, text, window, split, read⟩
    by_contra unset
    obtain ⟨noLimit, noOffset⟩ := not_or.mp unset
    have unasked : vendor.paging query.limit query.offset = none :=
      vendor.paging_eq_none_iff.mpr ⟨not_not.mp noLimit, not_not.mp noOffset⟩
    rw [← Vendor.paging_dialect, ← sameDialect] at unasked
    rw [sql_of_paging_none unasked, sameDialect] at split
    rw [readPage?_bodyOf reached _ split] at read
    cases read
  · intro isSet
    obtain ⟨text, _, sql, read⟩ := reads isSet
    exact ⟨_, text, _, sql, read⟩
  · refine ⟨extendAll_inDialect other.dialect reached, ?_⟩
    intro α rows fewer
    exact query.rows_windowFor other fewer

end Query

namespace Sample

/-- The shelves without the first seven. -/
def beyond : Query := (Query.ofRoot Vendor.mysql.dialect shelves).withOffset 7

end Sample

namespace Query

/-- An offset needs a limit in MySQL, and the greatest one keeps the rows that none keeps. -/
theorem pages_exactly_beyond :
    (∃ text, Vendor.mysql.paging none (some 7) = some text ∧
        Sample.beyond.toSelect.sql = Sample.beyond.unpaged.toSelect.sql ++ " " ++ text ∧
        Vendor.mysql.readPage? text = some ⟨7, some 0xFFFFFFFFFFFFFFFF⟩) ∧
      (∀ front text window,
        Sample.beyond.unpaged.toSelect.sql = front ++ " " ++ text →
          Vendor.mysql.readPage? text ≠ some window) ∧
      ∀ other : Vendor, (other.windowFor none (some 7)).rows (List.range 9) = [7, 8] := by
  have paged := pages_exactly .mysql Sample.shelves [.offset 7] Sample.beyond rfl
  have plain := pages_exactly .mysql Sample.shelves [] Sample.beyond.unpaged rfl
  refine ⟨paged.2.1 (.inr (by decide)), ?_, fun other => ?_⟩
  · intro front text window split read
    have isSet := plain.1.mp ⟨front, text, window, split, read⟩
    rcases isSet with limited | offset
    · exact limited rfl
    · exact offset rfl
  · exact (paged.2.2 other).2 (List.range 9) (by decide)

end Query
end TypedSql
