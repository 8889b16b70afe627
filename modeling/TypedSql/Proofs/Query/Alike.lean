import TypedSql.Proofs.Expr.Alike
import TypedSql.Proofs.Query.Mask
import TypedSql.Proofs.Query.Parameters

/-!
# Literals never become text

Two runs of calls that differ in nothing but the contents of their literals have the
same outcomes, call by call, and lead to queries whose statements have the same texts.
The bound values of the statements are the literals of the calls of each run, so they
differ just where the literals do.
-/

namespace TypedSql

variable {relates : Value → Value → Prop}

namespace QueryCall

/-- Calls of one form whose expressions are alike. -/
inductive Alike (relates : Value → Value → Prop) : QueryCall → QueryCall → Prop
  | select {items others : List Expr} (each : List.Forall₂ (Expr.Alike relates) items others) :
      Alike relates (.select items) (.select others)
  | filter {predicate other : Expr}
      (connective : Connective)
      (alike : Expr.Alike relates predicate other) :
      Alike relates (.filter connective predicate) (.filter connective other)
  | join {condition other : Expr}
      (kind : JoinKind)
      (shape : Shape)
      (alike : Expr.Alike relates condition other) :
      Alike relates (.join kind shape condition) (.join kind shape other)
  | orderBy {expr other : Expr} (direction : Direction) (alike : Expr.Alike relates expr other) :
      Alike relates (.orderBy expr direction) (.orderBy other direction)
  | groupBy {expr other : Expr} (alike : Expr.Alike relates expr other) :
      Alike relates (.groupBy expr) (.groupBy other)
  | limit (count : UInt64) : Alike relates (.limit count) (.limit count)
  | offset (count : UInt64) : Alike relates (.offset count) (.offset count)
  | restrict (names : List String) : Alike relates (.restrict names) (.restrict names)

variable {left right : QueryCall}

/-- Masked, calls that are alike are the same. -/
theorem Alike.mask_eq (alike : Alike relates left right) : left.mask = right.mask := by
  cases alike with
  | select each =>
      have same := Expr.map_mask_eq each fun item _ => Expr.mask_eq_of_alike item
      rw [mask, mask, same]
  | filter connective alike => rw [mask, mask, Expr.mask_eq_of_alike _ _ alike]
  | join kind shape alike => rw [mask, mask, Expr.mask_eq_of_alike _ _ alike]
  | orderBy direction alike => rw [mask, mask, Expr.mask_eq_of_alike _ _ alike]
  | groupBy alike => rw [mask, mask, Expr.mask_eq_of_alike _ _ alike]
  | _ => rfl

theorem Alike.binds_related (alike : Alike relates left right) (clause : Clause) :
    List.Forall₂ relates (left.binds clause) (right.binds clause) := by
  cases alike with
  | filter connective alike =>
      cases clause with
      | filter => exact Expr.literals_related _ _ alike
      | _ => exact .nil
  | join kind shape alike =>
      cases clause with
      | joins => exact Expr.literals_related _ _ alike
      | _ => exact .nil
  | orderBy direction alike =>
      cases clause with
      | order => exact Expr.literals_related _ _ alike
      | _ => exact .nil
  | groupBy alike =>
      cases clause with
      | grouping => exact Expr.literals_related _ _ alike
      | _ => exact .nil
  | _ => cases clause <;> exact .nil

theorem Alike.projects?_related (alike : Alike relates left right) :
    Option.Rel (List.Forall₂ relates) left.projects? right.projects? := by
  cases alike with
  | select each =>
      exact .some (Expr.literalsOf_related each fun item _ => Expr.literals_related item)
  | _ => exact .none

end QueryCall

namespace Query

variable {first second : Query} {left right : List QueryCall}

/-! ## Runs -/

theorem map_mask_eq (alike : List.Forall₂ (QueryCall.Alike relates) left right) :
    left.map QueryCall.mask = right.map QueryCall.mask := by
  induction alike with
  | nil => rfl
  | cons call _ inductionHypothesis =>
      rw [List.map_cons, List.map_cons, call.mask_eq, inductionHypothesis]

/-- Calls that are alike fail on queries that are the same when masked, or lead to such. -/
theorem extend_alike
    {call other : QueryCall}
    (sameQuery : first.mask = second.mask)
    (sameCall : call.mask = other.mask) :
    (∃ cause, first.extend call = .error cause ∧ second.extend other = .error cause) ∨
      ∃ next later, first.extend call = .ok next ∧ second.extend other = .ok later ∧
        next.mask = later.mask := by
  have masked : mask <$> first.extend call = mask <$> second.extend other := by
    rw [← extend_mask, ← extend_mask, sameQuery, sameCall]
  cases firstStep : first.extend call with
  | error cause =>
      cases secondStep : second.extend other with
      | error otherCause =>
          rw [firstStep, secondStep] at masked
          cases masked
          exact .inl ⟨cause, rfl, rfl⟩
      | ok later =>
          rw [firstStep, secondStep] at masked
          cases masked
  | ok next =>
      cases secondStep : second.extend other with
      | error otherCause =>
          rw [firstStep, secondStep] at masked
          cases masked
      | ok later =>
          rw [firstStep, secondStep] at masked
          exact .inr ⟨next, later, rfl, rfl, Except.ok.inj masked⟩

/-- Of calls that are alike, those at the same places are possible. -/
theorem accepted_alike
    (sameQuery : first.mask = second.mask)
    (alike : List.Forall₂ (QueryCall.Alike relates) left right) :
    List.Forall₂ (QueryCall.Alike relates) (first.accepted left) (second.accepted right) := by
  induction alike generalizing first second with
  | nil => exact .nil
  | cons call _ inductionHypothesis =>
      rw [accepted, accepted]
      rcases extend_alike sameQuery call.mask_eq with
        ⟨cause, firstFails, secondFails⟩ | ⟨next, later, firstStep, secondStep, same⟩
      · rw [firstFails, secondFails]
        exact inductionHypothesis sameQuery
      · rw [firstStep, secondStep]
        exact .cons call (inductionHypothesis same)

/-! ## Bound values -/

theorem boundIn_related
    (alike : List.Forall₂ (QueryCall.Alike relates) left right)
    (clause : Clause) :
    List.Forall₂ relates (boundIn clause left) (boundIn clause right) := by
  induction alike with
  | nil => exact .nil
  | cons call _ inductionHypothesis =>
      exact List.rel_append (call.binds_related clause) inductionHypothesis

theorem boundInRows_related (alike : List.Forall₂ (QueryCall.Alike relates) left right) :
    List.Forall₂ relates (boundInRows left) (boundInRows right) :=
  List.rel_append
    (List.rel_append (boundIn_related alike .joins) (boundIn_related alike .filter))
    (boundIn_related alike .grouping)

theorem boundInProjection_related (alike : List.Forall₂ (QueryCall.Alike relates) left right) :
    List.Forall₂ relates (boundInProjection left) (boundInProjection right) := by
  have projected : List.Forall₂ (List.Forall₂ relates)
      (left.filterMap QueryCall.projects?) (right.filterMap QueryCall.projects?) :=
    List.rel_filterMap (fun _ _ call => call.projects?_related) alike
  have reversed := List.forall₂_reverse_iff.mpr projected
  rw [boundInProjection, boundInProjection, List.getLast?_eq_head?_reverse,
    List.getLast?_eq_head?_reverse]
  generalize (left.filterMap QueryCall.projects?).reverse = lefts at reversed ⊢
  generalize (right.filterMap QueryCall.projects?).reverse = rights at reversed ⊢
  cases reversed with
  | nil => exact .nil
  | cons last _ => exact last

/-! ## Statements -/

/-- Two queries whose statements have the same texts. -/
structure SameTexts (first second : Query) : Prop where
  select : first.toSelect.sql = second.toSelect.sql
  count : first.toCount.sql = second.toCount.sql
  rowCount : first.toRowCount.sql = second.toRowCount.sql
  keys : ∀ (dialect : Dialect) (key : String),
    (first.keySubquery key).map (Fragment.render dialect) =
      (second.keySubquery key).map (Fragment.render dialect)

/-- A query whose statements bind the literals of calls. -/
structure BindsLiterals (query : Query) (calls : List QueryCall) : Prop where
  select : query.toSelect.parameters =
    boundInProjection calls ++ boundInRows calls ++ boundIn .order calls
  count : query.toCount.parameters = boundInRows calls
  rowCount : query.toRowCount.parameters =
    boundInProjection calls ++ boundInRows calls ++ boundIn .order calls
  keys : ∀ key keys, query.keySubquery key = .ok keys →
    keys.parameters = boundInRows calls ++ boundIn .order calls

/-- Two queries whose statements bind values that are related, one by one. -/
structure RelatedValues (relates : Value → Value → Prop) (first second : Query) : Prop where
  select : List.Forall₂ relates first.toSelect.parameters second.toSelect.parameters
  count : List.Forall₂ relates first.toCount.parameters second.toCount.parameters
  rowCount : List.Forall₂ relates first.toRowCount.parameters second.toRowCount.parameters
  keys : ∀ key keys others, first.keySubquery key = .ok keys →
    second.keySubquery key = .ok others →
      List.Forall₂ relates keys.parameters others.parameters

theorem render_eq_of_mask
    (dialect : Dialect)
    {fragment other : Fragment}
    (same : fragment.mask = other.mask) :
    fragment.render dialect = other.render dialect := by
  rw [← Fragment.render_mask, same, Fragment.render_mask]

theorem sql_toRowCount (query : Query) :
    query.toRowCount.sql =
      "SELECT COUNT(*) FROM (" ++ query.toSelect.sql ++ ") AS " ++
        query.dialect.quote "count" := rfl

/-- Texts do not tell apart queries that are the same when masked. -/
theorem sameTexts_of_mask (same : first.mask = second.mask) : SameTexts first second := by
  have sameDialect : first.dialect = second.dialect := by
    change first.mask.dialect = second.mask.dialect
    rw [same]
  have select : first.toSelect.sql = second.toSelect.sql := by
    have rows : first.rowsFragment.mask = second.rowsFragment.mask := by
      rw [← rowsFragment_mask, same, rowsFragment_mask]
    rw [toSelect, toSelect, sameDialect]
    exact render_eq_of_mask second.dialect rows
  refine ⟨select, ?_, ?_, ?_⟩
  · have counted : first.countFragment.mask = second.countFragment.mask := by
      rw [← countFragment_mask, same, countFragment_mask]
    rw [toCount, toCount, sameDialect]
    exact render_eq_of_mask second.dialect counted
  · rw [sql_toRowCount, sql_toRowCount, select, sameDialect]
  · intro dialect key
    have unmasked (result : Except CompileError Fragment) :
        (Fragment.mask <$> result).map (Fragment.render dialect) =
          result.map (Fragment.render dialect) := by
      cases result with
      | error cause => rfl
      | ok keys => exact congrArg Except.ok (Fragment.render_mask dialect keys)
    rw [← unmasked, ← keySubquery_mask, same, keySubquery_mask, unmasked]

/-- Histories lead to queries that bind the literals of the calls that were possible. -/
theorem bindsLiterals_extendEach (dialect : Dialect) (root : Shape) (calls : List QueryCall) :
    BindsLiterals ((ofRoot dialect root).extendEach calls)
      ((ofRoot dialect root).accepted calls) := by
  have reached := extendAll_accepted (ofRoot dialect root) calls
  have select := parameters_rowsFragment reached
  exact ⟨select, parameters_countFragment reached, select,
    fun _ _ found => parameters_keySubquery reached found⟩

theorem relatedValues_of_alike
    (firstBinds : BindsLiterals first left)
    (secondBinds : BindsLiterals second right)
    (alike : List.Forall₂ (QueryCall.Alike relates) left right) :
    RelatedValues relates first second := by
  have rows := boundInRows_related alike
  have ordered := boundIn_related alike .order
  have all := List.rel_append (List.rel_append (boundInProjection_related alike) rows) ordered
  refine ⟨?_, ?_, ?_, ?_⟩
  · rwa [firstBinds.select, secondBinds.select]
  · rwa [firstBinds.count, secondBinds.count]
  · rwa [firstBinds.rowCount, secondBinds.rowCount]
  · intro key keys others found othersFound
    rw [firstBinds.keys key keys found, secondBinds.keys key others othersFound]
    exact List.rel_append rows ordered

/--
Calls that differ in the contents of literals only have the same outcomes, one by one,
and lead to queries with the same texts in every dialect. The values that these bind are
the literals of each run, and whatever relates the literals relates them, one by one.
-/
theorem texts_ignore_literals
    (relates : Value → Value → Prop)
    (dialect : Dialect)
    (root : Shape)
    (left right : List QueryCall)
    (alike : List.Forall₂ (QueryCall.Alike relates) left right) :
    (ofRoot dialect root).outcomes left = (ofRoot dialect root).outcomes right ∧
      SameTexts ((ofRoot dialect root).extendEach left)
        ((ofRoot dialect root).extendEach right) ∧
      BindsLiterals ((ofRoot dialect root).extendEach left)
        ((ofRoot dialect root).accepted left) ∧
      BindsLiterals ((ofRoot dialect root).extendEach right)
        ((ofRoot dialect root).accepted right) ∧
      RelatedValues relates ((ofRoot dialect root).extendEach left)
        ((ofRoot dialect root).extendEach right) := by
  have sameCalls := map_mask_eq alike
  have sameStart : (ofRoot dialect root).mask = ofRoot dialect root := rfl
  have firstBinds := bindsLiterals_extendEach dialect root left
  have secondBinds := bindsLiterals_extendEach dialect root right
  refine ⟨?_, ?_, firstBinds, secondBinds, ?_⟩
  · rw [← outcomes_mask, ← outcomes_mask _ right, sameCalls]
  · apply sameTexts_of_mask
    rw [← extendEach_mask, ← extendEach_mask, sameCalls]
  · exact relatedValues_of_alike firstBinds secondBinds (accepted_alike rfl alike)

end Query

namespace Sample

/-- A table of accounts. -/
def accounts : Shape :=
  ⟨"accounts", [⟨"id", "id", ⟨.integer .signed64, false⟩⟩, ⟨"name", "name", ⟨.text, true⟩⟩]⟩

/-- A search by name, with a condition that is not possible and literals that are not bound. -/
def search (name other : Value) : List QueryCall :=
  [.filter .and (.binary .eq (.col "name") (.literal name)),
   .filter .or (.binary .gt (.col "missing") (.literal name)),
   .filter .and (.group .or
     [.membership (.col "id") [.literal (.integer 1), .literal other] false,
      .membership (.literal name) [] true,
      .binary .ne (.literal .null) (.col "name")]),
   .orderBy (.call "coalesce" [.col "name", .literal other]) .ascending,
   .limit 3]

/-- The pairs of literals in which two searches differ, or do not. -/
def pairs : List (Value × Value) :=
  [(.text "ann", .text "'; DROP TABLE accounts; --"), (.integer 2, .text "$1"),
   (.integer 1, .integer 1), (.null, .null)]

/-- The literals of one search and the literals of the other. -/
def corresponds (left right : Value) : Prop :=
  (left, right) ∈ pairs

instance (left right : Value) : Decidable (corresponds left right) :=
  inferInstanceAs (Decidable ((left, right) ∈ pairs))

/-- A harmless search. -/
def plain : List QueryCall := search (.text "ann") (.integer 2)

/-- The search with literals that would be harmful as text. -/
def harmful : List QueryCall := search (.text "'; DROP TABLE accounts; --") (.text "$1")

/-- The query for all accounts. -/
def everyone : Query := .ofRoot Vendor.mysql.dialect accounts

theorem searches_alike : List.Forall₂ (QueryCall.Alike corresponds) plain harmful := by
  have name : Expr.Alike corresponds (.literal (.text "ann"))
      (.literal (.text "'; DROP TABLE accounts; --")) := .literal rfl (by decide)
  have other : Expr.Alike corresponds (.literal (.integer 2)) (.literal (.text "$1")) :=
    .literal rfl (by decide)
  have one : Expr.Alike corresponds (.literal (.integer 1)) (.literal (.integer 1)) :=
    .literal rfl (by decide)
  have null : Expr.Alike corresponds (.literal .null) (.literal .null) :=
    .literal rfl (by decide)
  have among : List.Forall₂ (Expr.Alike corresponds)
      [.membership (.col "id") [.literal (.integer 1), .literal (.integer 2)] false,
       .membership (.literal (.text "ann")) [] true,
       .binary .ne (.literal .null) (.col "name")]
      [.membership (.col "id") [.literal (.integer 1), .literal (.text "$1")] false,
       .membership (.literal (.text "'; DROP TABLE accounts; --")) [] true,
       .binary .ne (.literal .null) (.col "name")] :=
    .cons (.membership false (.column _) (.cons one (.cons other .nil))) <|
      .cons (.membership true name .nil) <|
        .cons (.binary .ne null (.column _)) .nil
  exact .cons (.filter .and (.binary .eq (.column _) name)) <|
    .cons (.filter .or (.binary .gt (.column _) name)) <|
      .cons (.filter .and (.group .or among)) <|
        .cons (.orderBy .ascending
          (.call "coalesce" (.cons (.column _) (.cons other .nil)))) <|
          .cons (.limit 3) .nil

end Sample

/-- Two searches, one with literals that would be harmful as text. -/
theorem Query.texts_ignore_literals_search :
    List.Forall₂ (QueryCall.Alike Sample.corresponds) Sample.plain Sample.harmful ∧
      Sample.everyone.outcomes Sample.plain =
        [none, some (.unknownColumn "missing"), none, none, none] ∧
      Sample.everyone.outcomes Sample.harmful =
        [none, some (.unknownColumn "missing"), none, none, none] ∧
      (Sample.everyone.extendEach Sample.plain).toSelect.sql =
        (Sample.everyone.extendEach Sample.harmful).toSelect.sql ∧
      (Sample.everyone.extendEach Sample.plain).toSelect.parameters =
        [.text "ann", .integer 1, .integer 2, .integer 2] ∧
      (Sample.everyone.extendEach Sample.harmful).toSelect.parameters =
        [.text "'; DROP TABLE accounts; --", .integer 1, .text "$1", .text "$1"] := by
  obtain ⟨sameOutcomes, sameTexts, plainBinds, harmfulBinds, _⟩ :=
    texts_ignore_literals Sample.corresponds Vendor.mysql.dialect Sample.accounts
      Sample.plain Sample.harmful Sample.searches_alike
  have outcomes : Sample.everyone.outcomes Sample.plain =
      [none, some (.unknownColumn "missing"), none, none, none] := rfl
  exact ⟨Sample.searches_alike, outcomes, sameOutcomes ▸ outcomes, sameTexts.select,
    plainBinds.select, harmfulBinds.select⟩

end TypedSql
