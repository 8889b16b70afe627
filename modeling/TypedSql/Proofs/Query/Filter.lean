import TypedSql.Proofs.Query.History
import TypedSql.Proofs.Query.Truth
import TypedSql.Dialect.Vendor
import TypedSql.Query.Emit

/-!
# What the filter of a query means

A filter stands for the conditions that were added to it, from left to right. What
carries this through any calls is that the condition of a filter is a row of
conditions under every connective that the filter stands beside without
parentheses.
-/

namespace TypedSql

open Grammar

/-! ## Rows of conditions -/

/-- A fragment is a row of conditions under a connective, of a given value as a group. -/
def Grammar.RowOf
    (connective : Connective)
    (fragment : Fragment)
    (value : (Term → Truth) → Truth) : Prop :=
  ∃ parts terms,
    parts ≠ [] ∧
      Fragment.join connective.token parts = fragment ∧
      List.Forall₂ (Reads .condition) parts terms ∧
      ∀ assignment, connective.fold (terms.map (Term.truth assignment)) = value assignment

namespace Grammar.RowOf

variable {connective : Connective} {value : (Term → Truth) → Truth}

theorem ofCondition
    {fragment : Fragment}
    {term : Term}
    (reads : Reads .condition fragment term)
    (means : ∀ assignment, term.truth assignment = value assignment) :
    RowOf connective fragment value := by
  refine ⟨[fragment], [term], List.cons_ne_nil _ _, ?_, .cons reads .nil, ?_⟩
  · exact Fragment.join_singleton _ _
  · intro assignment
    rw [List.map_singleton, Connective.fold_singleton, means]

/-- Two rows under a connective, one behind the other, are a row under it. -/
theorem append
    {left right : Fragment}
    {leftValue rightValue : (Term → Truth) → Truth}
    (leftRow : RowOf connective left leftValue)
    (rightRow : RowOf connective right rightValue) :
    RowOf connective (left ++ .token connective.token :: right)
      (fun assignment => connective.apply (leftValue assignment) (rightValue assignment)) := by
  obtain ⟨front, frontTerms, frontNonempty, rfl, frontReads, frontMeans⟩ := leftRow
  obtain ⟨back, backTerms, backNonempty, rfl, backReads, backMeans⟩ := rightRow
  refine ⟨front ++ back, frontTerms ++ backTerms, ?_, ?_, ?_, ?_⟩
  · exact List.append_ne_nil_of_left_ne_nil frontNonempty back
  · exact Fragment.join_append connective.token frontNonempty backNonempty
  · exact List.rel_append frontReads backReads
  · intro assignment
    rw [List.map_append, Connective.fold_append, frontMeans, backMeans]

/-- A row is read as one term, which has the value of the row. -/
theorem exists_term
    {fragment : Fragment}
    (row : RowOf connective fragment value) :
    ∃ term, Reads .disjunction fragment term ∧
      ∀ assignment, term.truth assignment = value assignment := by
  obtain ⟨parts, terms, nonempty, rfl, reads, means⟩ := row
  refine ⟨.grouped connective terms, ?_, ?_⟩
  · cases connective with
    | and => exact (Reads.group .and nonempty reads).disjunction_of_conjunction
    | or =>
        have conjunctions := reads.imp fun _ _ read => read.conjunction_of_condition
        exact Reads.group .or nonempty conjunctions
  · intro assignment
    rw [Term.truth_grouped, means]

end Grammar.RowOf

/-! ## Filters -/

namespace Filter

variable {filter added : Filter} {value addedValue : (Term → Truth) → Truth}

/-- A filter has a value when its condition has it under each connective beside it. -/
def Means (filter : Filter) (value : (Term → Truth) → Truth) : Prop :=
  ∀ connective, filter.clashes connective = false →
    RowOf connective filter.condition value

/-- The connective under which the condition of a filter is written. -/
theorem exists_not_clashes (filter : Filter) :
    ∃ connective, filter.clashes connective = false := by
  refine ⟨filter.connective.getD .and, ?_⟩
  unfold clashes
  cases filter.connective <;> simp

theorem Means.exists_term (means : filter.Means value) :
    ∃ term, Reads .disjunction filter.condition term ∧
      ∀ assignment, term.truth assignment = value assignment := by
  obtain ⟨connective, beside⟩ := filter.exists_not_clashes
  exact (means connective beside).exists_term

/-- The operand that stands for a filter beside a connective has the filter's value. -/
theorem Means.operand (means : filter.Means value) (connective : Connective) :
    RowOf connective (filter.operand connective) value := by
  unfold Filter.operand
  cases clash : filter.clashes connective with
  | false => exact means connective clash
  | true =>
      obtain ⟨term, reads, termMeans⟩ := means.exists_term
      exact .ofCondition reads.parens.condition_of_factor termMeans

/-- Two filters under a connective have the value of the two under it. -/
theorem Means.combine
    (means : filter.Means value)
    (addedMeans : added.Means addedValue)
    (connective : Connective) :
    (filter.combine added connective).Means
      (fun assignment => connective.apply (value assignment) (addedValue assignment)) := by
  intro beside noClash
  have same : connective = beside := by
    simpa [clashes, Filter.combine] using noClash
  subst same
  exact (means.operand connective).append (addedMeans.operand connective)

/-- The filter made of a predicate has the value of the predicate. -/
theorem means_predicate
    {scope : Scope}
    {predicate : Expr}
    {condition : Fragment}
    (compiled : predicate.compile scope = .ok condition) :
    Means ⟨condition, predicate.topConnective?⟩ (predicate.truth scope) := by
  have readsAs := readsAs_compile scope predicate condition compiled
  have sameTruth := fun assignment => Expr.truth_term assignment predicate condition compiled
  intro beside noClash
  cases predicate with
  | group connective items =>
      obtain ⟨nonempty, parts, itemsCompiled, joined⟩ := Expr.compileAt_group.mp compiled
      have itemsRead := reads_items itemsCompiled fun item _ fragment itemCompiled =>
        (readsAs_compile scope item fragment itemCompiled).item
      have partsNonempty := Expr.parts_ne_nil itemsCompiled nonempty
      by_cases several : 1 < items.length
      · -- The items are the row, and `beside` is the connective between them.
        have same : connective = beside := by
          simpa [clashes, Expr.topConnective?, several] using noClash
        subst same
        refine ⟨parts, _, partsNonempty, joined, itemsRead, ?_⟩
        intro assignment
        have same := sameTruth assignment
        rw [Expr.term, Expr.terms_eq_map, Term.truth_grouped] at same
        exact same
      · -- A single item writes no connective, so it may stand beside either.
        obtain ⟨item, rfl⟩ : ∃ item, items = [item] := by
          have positive := List.length_pos_of_ne_nil nonempty
          exact List.length_eq_one_iff.mp (by omega)
        obtain ⟨part, rfl⟩ : ∃ part, parts = [part] := by
          have sameLength := itemsRead.length_eq
          exact List.length_eq_one_iff.mp (by simpa using sameLength)
        rw [Fragment.join_singleton] at joined
        subst joined
        cases itemsRead with
        | cons itemReads _ =>
            refine .ofCondition itemReads ?_
            intro assignment
            have same := sameTruth assignment
            rw [Expr.term, Expr.terms_eq_map, List.map_singleton, Term.grouped_singleton] at same
            exact same
  | _ => exact .ofCondition readsAs.item sameTruth

end Filter

/-- A predicate that compiles has its value in every larger scope. -/
theorem Expr.truth_append
    {scope : Scope}
    {predicate : Expr}
    {condition : Fragment}
    (compiled : predicate.compile scope = .ok condition)
    (more : Scope)
    (assignment : Term → Truth) :
    predicate.truth (scope ++ more) assignment = predicate.truth scope assignment := by
  have compiledAgain := predicate.compileAt_append more false condition compiled
  have sameTerm : predicate.term (scope ++ more) = predicate.term scope := by
    have read := (readsAs_compile scope predicate condition compiled).whole.parse
    have readAgain := (readsAs_compile _ predicate condition compiledAgain).whole.parse
    rw [read] at readAgain
    exact (Option.some.inj readAgain).symm
  rw [← truth_term assignment predicate condition compiledAgain, sameTerm]
  exact truth_term assignment predicate condition compiled

/-! ## Queries -/

namespace Query

variable {query extended final : Query} {value : (Term → Truth) → Truth}

/-- The value of a condition under which others are added from left to right. -/
def accumulate
    (scope : Scope)
    (assignment : Term → Truth)
    (first : Truth)
    (others : List (Connective × Expr)) : Truth :=
  others.foldl
    (fun value (connective, predicate) =>
      connective.apply value (predicate.truth scope assignment))
    first

/-- A call that adds a condition to a filter puts it under the call's connective. -/
theorem filterBy_means
    {filter : Filter}
    {connective : Connective}
    {predicate : Expr}
    (present : query.filter = some filter)
    (means : filter.Means value)
    (reached : query.filterBy connective predicate = .ok extended) :
    ∃ next, extended.filter = some next ∧
      next.Means fun assignment =>
        connective.apply (value assignment) (predicate.truth query.scope assignment) := by
  obtain ⟨condition, compiled, rfl⟩ := filterBy_eq_ok.mp reached
  refine ⟨filter.combine ⟨condition, predicate.topConnective?⟩ connective, ?_, ?_⟩
  · rw [present, Option.elim_some]
  · exact means.combine (Filter.means_predicate compiled) connective

/-- The first condition of a query is its filter, whatever the call's connective. -/
theorem filterBy_means_first
    {connective : Connective}
    {predicate : Expr}
    (absent : query.filter = none)
    (reached : query.filterBy connective predicate = .ok extended) :
    ∃ next, extended.filter = some next ∧ next.Means (predicate.truth query.scope) := by
  obtain ⟨condition, compiled, rfl⟩ := filterBy_eq_ok.mp reached
  refine ⟨⟨condition, predicate.topConnective?⟩, ?_, Filter.means_predicate compiled⟩
  rw [absent, Option.elim_none]

/-- The tables of a later query give a predicate the value it had when it was added. -/
theorem truth_final
    {calls : List QueryCall}
    {connective : Connective}
    {predicate : Expr}
    (reached : query.filterBy connective predicate = .ok extended)
    (later : extended.extendAll calls = .ok final)
    (assignment : Term → Truth) :
    predicate.truth final.scope assignment = predicate.truth query.scope assignment := by
  obtain ⟨condition, compiled, rfl⟩ := filterBy_eq_ok.mp reached
  rw [extendAll_tables later]
  exact Expr.truth_append compiled _ assignment

/-- Calls after the first condition add their conditions to its value in order. -/
theorem extendAll_means
    {calls : List QueryCall}
    {filter : Filter}
    (present : query.filter = some filter)
    (means : filter.Means value)
    (reached : query.extendAll calls = .ok final) :
    ∃ last, final.filter = some last ∧
      last.Means fun assignment =>
        accumulate final.scope assignment (value assignment)
          (calls.filterMap QueryCall.filter?) := by
  -- The value of the filter so far is the start of the fold, so it varies with the query.
  induction calls generalizing query filter value with
  | nil =>
      cases reached
      exact ⟨filter, present, means⟩
  | cons call calls inductionHypothesis =>
      obtain ⟨extended, step, later⟩ := extendAll_cons.mp reached
      cases kind : call.filter? with
      | none =>
          rw [List.filterMap_cons_none kind]
          rw [← extend_filter kind step] at present
          exact inductionHypothesis present means later
      | some condition =>
          obtain ⟨connective, predicate⟩ := condition
          cases call with
          | filter =>
              cases kind
              obtain ⟨next, nextPresent, nextMeans⟩ := filterBy_means present means step
              simp only [← truth_final step later] at nextMeans
              exact inductionHypothesis nextPresent nextMeans later
          | _ => cases kind

/-- Calls on a query without a filter give it the value of their conditions in order. -/
theorem extendAll_means_first
    {calls : List QueryCall}
    {connective : Connective}
    {predicate : Expr}
    {others : List (Connective × Expr)}
    (absent : query.filter = none)
    (reached : query.extendAll calls = .ok final)
    (conditions : calls.filterMap QueryCall.filter? = (connective, predicate) :: others) :
    ∃ last, final.filter = some last ∧
      last.Means fun assignment =>
        accumulate final.scope assignment (predicate.truth final.scope assignment) others := by
  induction calls generalizing query with
  | nil => cases conditions
  | cons call calls inductionHypothesis =>
      obtain ⟨extended, step, later⟩ := extendAll_cons.mp reached
      cases kind : call.filter? with
      | none =>
          rw [List.filterMap_cons_none kind] at conditions
          rw [← extend_filter kind step] at absent
          exact inductionHypothesis absent later conditions
      | some condition =>
          rw [List.filterMap_cons_some kind] at conditions
          cases conditions
          cases call with
          | filter =>
              cases kind
              obtain ⟨next, nextPresent, nextMeans⟩ := filterBy_means_first absent step
              rw [← funext (truth_final step later)] at nextMeans
              exact extendAll_means nextPresent nextMeans later
          | _ => cases kind

/-! ## Statements -/

/-- A condition ends before each of the clauses that may follow it. -/
theorem listClause_ends
    {word : Keyword}
    (items : List Fragment)
    (foreign : Level.ofChunk (.keyword word) = none) :
    Level.disjunction.Ends (listClause word items) := by
  unfold listClause
  split
  · exact Level.ends_nil _
  · rw [Level.ends_cons, foreign]
    intro joint goesOn
    cases goesOn

theorem pageClause_ends (query : Query) : Level.disjunction.Ends query.pageClause := by
  unfold pageClause
  split
  · exact Level.ends_nil _
  · rw [Level.ends_cons]
    intro joint goesOn
    cases goesOn

theorem groupClause_ends (query : Query) : Level.disjunction.Ends query.groupClause :=
  listClause_ends query.grouping rfl

theorem laterClauses_ends (query : Query) :
    Level.disjunction.Ends (query.groupClause ++ query.orderClause ++ query.pageClause) := by
  have orderEnds : Level.disjunction.Ends query.orderClause := listClause_ends query.order rfl
  exact (query.groupClause_ends.append orderEnds).append query.pageClause_ends

/--
The statements of a query that started without a filter have a condition that is
read, up to the clauses after it, as the conditions of the calls from left to
right, each under the connective of its call but the first.
-/
theorem filter_meaning
    (query final : Query)
    (calls : List QueryCall)
    (connective : Connective)
    (predicate : Expr)
    (others : List (Connective × Expr))
    (absent : query.filter = none)
    (reached : query.extendAll calls = .ok final)
    (conditions : calls.filterMap QueryCall.filter? = (connective, predicate) :: others) :
    ∃ clause term,
      final.toSelect = Fragment.build final.dialect
        (.keyword .selectKw :: final.effectiveProjection ++ final.fromClause ++
          .keyword .whereKw ::
            (clause ++ (final.groupClause ++ final.orderClause ++ final.pageClause))) ∧
      final.toCount = Fragment.build final.dialect
        (.keyword .selectKw :: Fragment.countRows ++ final.fromClause ++
          .keyword .whereKw :: (clause ++ final.groupClause)) ∧
      Term.parse clause = some term ∧
      Term.read (clause ++ (final.groupClause ++ final.orderClause ++ final.pageClause)) =
        some (term, final.groupClause ++ final.orderClause ++ final.pageClause) ∧
      Term.read (clause ++ final.groupClause) = some (term, final.groupClause) ∧
      ∀ assignment,
        term.truth assignment =
          accumulate final.scope assignment (predicate.truth final.scope assignment)
            others := by
  obtain ⟨last, present, means⟩ := extendAll_means_first absent reached conditions
  obtain ⟨term, reads, sameTruth⟩ := means.exists_term
  have clause : final.whereClause = .keyword .whereKw :: last.condition := by
    rw [whereClause, present]
  refine ⟨last.condition, term, ?_, ?_, reads.parse, ?_, ?_, sameTruth⟩
  · simp [toSelect, rowsFragment, selectFragmentOf, clause]
  · simp [toCount, countFragment, clause]
  · exact reads.read final.laterClauses_ends
  · exact reads.read final.groupClause_ends

end Query

namespace Sample

/-- A query for all rows of the table. -/
def all : Query := .ofRoot Vendor.postgresql.dialect users

/-- A test of a column that is not in a group. -/
def test (operator : Operator) (value : Int64) : Expr :=
  .binary operator (.col "id") (.literal (.integer value))

/-- A group of one test, an alternative to it, and a condition built from two. -/
def calls : List QueryCall :=
  [.filter .or (.group .and [test .eq 1]),
   .limit 5,
   .filter .or (.nullTest (.col "age") false),
   .groupBy (.col "age"),
   .filter .and (.combine .and (test .gt 2) (.combine .or (test .lt 3) (test .eq 4)))]

/-- The condition of the calls. -/
def condition : Fragment :=
  [.mark .openParen, .identifier "users", .mark .dot, .identifier "id", .operator .eq,
   .parameter (.integer 1), .keyword .orKw, .identifier "users", .mark .dot,
   .identifier "Age", .keyword .isKw, .keyword .nullKw, .mark .closeParen, .keyword .andKw,
   .identifier "users", .mark .dot, .identifier "id", .operator .gt,
   .parameter (.integer 2), .keyword .andKw, .mark .openParen, .identifier "users",
   .mark .dot, .identifier "id", .operator .lt, .parameter (.integer 3), .keyword .orKw,
   .identifier "users", .mark .dot, .identifier "id", .operator .eq,
   .parameter (.integer 4), .mark .closeParen]

/-- The query after the calls. -/
def filtered : Query :=
  { all with
    filter := some ⟨condition, some .and⟩
    grouping := [.qualified "users" "Age"]
    limit := some 5 }

/-- The term of a test. -/
def testTerm (operator : Operator) (value : Int64) : Term :=
  .binary operator (.column ⟨"users", "id"⟩) (.parameter (.integer value))

end Sample

/-- Conditions with other calls between them, the first of them a group of one test. -/
theorem Query.filter_meaning_mixed :
    Sample.all.filter = none ∧
      Sample.all.extendAll Sample.calls = .ok Sample.filtered ∧
      ∃ clause term,
        Sample.filtered.toCount = Fragment.build Sample.filtered.dialect
          (.keyword .selectKw :: Fragment.countRows ++ Sample.filtered.fromClause ++
            .keyword .whereKw :: (clause ++ Sample.filtered.groupClause)) ∧
        Term.parse clause = some term ∧
        ∀ assignment,
          term.truth assignment =
            Truth.and
              (Truth.or (assignment (Sample.testTerm .eq 1))
                (assignment (.nullTest (.column ⟨"users", "Age"⟩) false)))
              (Truth.and (assignment (Sample.testTerm .gt 2))
                (Truth.or (assignment (Sample.testTerm .lt 3))
                  (assignment (Sample.testTerm .eq 4)))) := by
  have absent : Sample.all.filter = none := rfl
  have reached : Sample.all.extendAll Sample.calls = .ok Sample.filtered := rfl
  obtain ⟨clause, term, _, counted, parsed, _, _, sameTruth⟩ :=
    filter_meaning Sample.all Sample.filtered Sample.calls .or (.group .and [Sample.test .eq 1])
      [(.or, .nullTest (.col "age") false),
        (.and, .combine .and (Sample.test .gt 2)
          (.combine .or (Sample.test .lt 3) (Sample.test .eq 4)))]
      absent reached rfl
  refine ⟨absent, reached, clause, term, counted, parsed, ?_⟩
  intro assignment
  rw [sameTruth]
  simp only [accumulate, Expr.truth_combine, Sample.test, Expr.truth, Expr.truths,
    List.foldl_cons, List.foldl_nil, Connective.fold_singleton]
  rfl

end TypedSql
