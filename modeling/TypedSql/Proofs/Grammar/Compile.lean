import TypedSql.Proofs.Expr.Compile
import TypedSql.Proofs.Grammar.Forms

/-!
# Compiled expressions are read as their terms

The fragment of an expression is read as the term of the expression: by itself,
as an operand of a larger expression, and as an item of a group. Parentheses are
thus written wherever the grammar needs them.
-/

namespace TypedSql

open Grammar

theorem Scope.locate_of_resolve
    {scope : Scope}
    {reference : ColumnRef}
    {place : Place}
    (resolved : scope.resolve reference = .ok place) :
    scope.locate reference = place := by
  rw [Scope.locate, Scope.resolve_eq_ok.mp resolved, Option.getD_some]

namespace Expr

@[simp] theorem terms_eq_map (scope : Scope) (items : List Expr) :
    terms scope items = items.map (term scope) := by
  induction items with
  | nil => rfl
  | cons item rest inductionHypothesis => rw [terms, inductionHypothesis, List.map_cons]

/-- An expression that is not compound is no group. -/
theorem isGroup_of_not_isCompound
    {expr : Expr}
    (simple : expr.isCompound = false) :
    expr.isGroup = false := by
  cases expr <;> simp_all [isCompound, isGroup]

/-- The tested operand of a comparison with a null literal. -/
theorem nullOperand?_eq (operator : Operator) (left right : Expr) :
    nullOperand? operator left right =
      if operator.testsEquality && right.isNullLiteral then
        some (.left, decide (operator = .ne))
      else if operator.testsEquality && left.isNullLiteral then
        some (.right, decide (operator = .ne))
      else none := by
  unfold nullOperand?
  cases right.isNullLiteral <;> cases left.isNullLiteral <;> cases operator <;> rfl

end Expr

namespace Grammar

/--
A fragment is read as a term wherever its expression may stand: as an operand, as
an item of a group, and by itself, with the parentheses that go with the place.
-/
structure ReadsAs (expr : Expr) (fragment : Fragment) (term : Term) : Prop where
  operand : Reads .factor (Fragment.parensIf expr.isCompound fragment) term
  item : Reads .condition (Fragment.parensIf expr.isGroup fragment) term
  whole : Reads .disjunction fragment term

namespace ReadsAs

variable {expr : Expr} {fragment : Fragment} {term : Term}

theorem ofFactor
    (simple : expr.isCompound = false)
    (reads : Reads .factor fragment term) :
    ReadsAs expr fragment term where
  operand := by
    rw [simple]
    exact reads
  item := by
    rw [Expr.isGroup_of_not_isCompound simple]
    exact reads.condition_of_factor
  whole := reads.condition_of_factor.disjunction_of_condition

theorem ofCondition
    (compound : expr.isCompound = true)
    (noGroup : expr.isGroup = false)
    (reads : Reads .condition fragment term) :
    ReadsAs expr fragment term where
  operand := by
    rw [compound]
    exact reads.disjunction_of_condition.parens
  item := by
    rw [noGroup]
    exact reads
  whole := reads.disjunction_of_condition

theorem ofDisjunction
    (compound : expr.isCompound = true)
    (group : expr.isGroup = true)
    (reads : Reads .disjunction fragment term) :
    ReadsAs expr fragment term where
  operand := by
    rw [compound]
    exact reads.parens
  item := by
    rw [group]
    exact reads.parens.condition_of_factor
  whole := reads

end ReadsAs

/-- Compiled items are read one by one, each as its term. -/
theorem reads_items
    {scope : Scope}
    {level : Level}
    {wrap : Expr → Bool}
    {items : List Expr}
    {parts : List Fragment}
    (compiled : Expr.compileItems scope wrap items = .ok parts)
    (reads : ∀ item ∈ items, ∀ fragment, item.compileAt scope false = .ok fragment →
      Reads level (Fragment.parensIf (wrap item) fragment) (item.term scope)) :
    List.Forall₂ (Reads level) parts (items.map (Expr.term scope)) := by
  have each := Expr.compileItems_eq_ok.mp compiled
  clear compiled
  induction each with
  | nil => exact .nil
  | cons first others inductionHypothesis =>
      obtain ⟨fragment, firstCompiled, rfl⟩ := first
      refine .cons (reads _ List.mem_cons_self fragment firstCompiled) ?_
      exact inductionHypothesis fun item member => reads item (List.mem_cons_of_mem _ member)

/-- Every function takes at least one argument. -/
theorem least_pos : ∀ rule ∈ FunctionRule.supported, 0 < rule.least := by
  decide

/-- A call that is allowed has arguments, and names its function up to case. -/
theorem named_of_check
    {name : String}
    {count : Nat}
    {rule : FunctionRule}
    (checked : FunctionRule.check name count = .ok rule) :
    rule.name = Ascii.upper name ∧ 0 < count := by
  obtain ⟨found, accepted⟩ := FunctionRule.check_eq_ok.mp checked
  have named := List.find?_some found
  have least := least_pos rule (List.mem_of_find?_eq_some found)
  rw [FunctionRule.accepts, Bool.and_eq_true, decide_eq_true_eq] at accepted
  exact ⟨by simpa using named, Nat.lt_of_lt_of_le least accepted.1⟩

/-- A compiled expression is read as its term wherever it may stand. -/
theorem readsAs_compile
    (scope : Scope)
    (expr : Expr) :
    ∀ fragment, expr.compileAt scope false = .ok fragment →
      ReadsAs expr fragment (expr.term scope) := by
  -- Each form is read at its own level, from operands that are read as factors and items
  -- that are read as conditions; the other places follow with their parentheses.
  induction expr using Expr.inductionOn with
  | column reference =>
      intro fragment compiled
      obtain ⟨place, resolved, rfl⟩ := Expr.compileAt_column.mp compiled
      rw [Expr.term, Scope.locate_of_resolve resolved]
      exact .ofFactor rfl (reads_place place)
  | literal value =>
      intro fragment compiled
      obtain rfl := Expr.compileAt_literal.mp compiled
      exact .ofFactor rfl (reads_parameter value)
  | binary operator left right leftHypothesis rightHypothesis =>
      intro fragment compiled
      have shape := Expr.compileAt_binary.mp compiled
      rw [Expr.nullOperand?_eq] at shape
      rw [Expr.term]
      by_cases rightNull : (operator.testsEquality && right.isNullLiteral) = true
      · simp only [rightNull, if_true] at shape ⊢
        obtain ⟨operand, operandCompiled, rfl⟩ := shape
        have operandReads := (leftHypothesis operand operandCompiled).operand
        exact .ofCondition rfl rfl (reads_nullTest _ operandReads).condition_of_comparison
      · by_cases leftNull : (operator.testsEquality && left.isNullLiteral) = true
        · simp only [rightNull, leftNull, if_true] at shape ⊢
          obtain ⟨operand, operandCompiled, rfl⟩ := shape
          have operandReads := (rightHypothesis operand operandCompiled).operand
          exact .ofCondition rfl rfl (reads_nullTest _ operandReads).condition_of_comparison
        · simp only [rightNull, leftNull] at shape ⊢
          obtain ⟨first, leftCompiled, second, rightCompiled, rfl⟩ := shape
          have reads := reads_binary operator (leftHypothesis first leftCompiled).operand
            (rightHypothesis second rightCompiled).operand
          exact .ofCondition rfl rfl reads.condition_of_comparison
  | group connective items itemHypothesis =>
      intro fragment compiled
      obtain ⟨nonempty, parts, itemsCompiled, rfl⟩ := Expr.compileAt_group.mp compiled
      rw [Expr.term, Expr.terms_eq_map]
      have itemsRead := reads_items itemsCompiled fun item member fragment itemCompiled =>
        (itemHypothesis item member fragment itemCompiled).item
      have partsNonempty := Expr.parts_ne_nil itemsCompiled nonempty
      cases connective with
      | and =>
          have reads := Reads.group .and partsNonempty itemsRead
          exact .ofDisjunction rfl rfl reads.disjunction_of_conjunction
      | or =>
          have conjunctions := itemsRead.imp fun _ _ reads => reads.conjunction_of_condition
          exact .ofDisjunction rfl rfl (Reads.group .or partsNonempty conjunctions)
  | negation inner innerHypothesis =>
      intro fragment compiled
      obtain ⟨operand, operandCompiled, rfl⟩ := Expr.compileAt_negation.mp compiled
      have operandReads := (innerHypothesis operand operandCompiled).operand
      exact .ofCondition rfl rfl (reads_negation operandReads.condition_of_factor)
  | nullTest inner negated innerHypothesis =>
      intro fragment compiled
      obtain ⟨operand, operandCompiled, rfl⟩ := Expr.compileAt_nullTest.mp compiled
      have operandReads := (innerHypothesis operand operandCompiled).operand
      exact .ofCondition rfl rfl (reads_nullTest negated operandReads).condition_of_comparison
  | membership operand items negated operandHypothesis itemHypothesis =>
      intro fragment compiled
      have shape := Expr.compileAt_membership.mp compiled
      split at shape
      · next empty =>
        obtain rfl := shape
        subst empty
        exact .ofCondition rfl rfl
          (reads_binary .eq (reads_number 1) (reads_number _)).condition_of_comparison
      · next nonempty =>
        obtain ⟨first, operandCompiled, parts, itemsCompiled, rfl⟩ := shape
        have operandReads := (operandHypothesis first operandCompiled).operand
        have itemsRead := reads_items itemsCompiled fun item member fragment itemCompiled =>
          (itemHypothesis item member fragment itemCompiled).whole
        have reads := reads_membership negated (Expr.parts_ne_nil itemsCompiled nonempty)
          operandReads itemsRead
        have term : (Expr.membership operand items negated).term scope =
            .membership (operand.term scope) (items.map (Expr.term scope)) negated := by
          simp [Expr.term, nonempty]
        rw [term]
        exact .ofCondition rfl rfl reads.condition_of_comparison
  | like operand pattern negated operandHypothesis patternHypothesis =>
      intro fragment compiled
      obtain ⟨first, operandCompiled, second, patternCompiled, rfl⟩ :=
        Expr.compileAt_like.mp compiled
      have reads := reads_like negated (operandHypothesis first operandCompiled).operand
        (patternHypothesis second patternCompiled).operand
      exact .ofCondition rfl rfl reads.condition_of_comparison
  | call function arguments argumentHypothesis =>
      intro fragment compiled
      obtain ⟨rule, checked, parts, partsCompiled, rfl⟩ := Expr.compileAt_call.mp compiled
      obtain ⟨named, positive⟩ := named_of_check checked
      have argumentsRead := reads_items partsCompiled fun item member fragment itemCompiled =>
        (argumentHypothesis item member fragment itemCompiled).whole
      have nonempty := Expr.parts_ne_nil partsCompiled (List.ne_nil_of_length_pos positive)
      rw [Expr.term, Expr.terms_eq_map, ← named]
      exact .ofFactor rfl (reads_call rule.name nonempty argumentsRead)
  | countRows =>
      intro fragment compiled
      obtain rfl := Expr.compileAt_countRows.mp compiled
      exact .ofFactor rfl reads_countRows
  | named inner name innerHypothesis =>
      intro fragment compiled
      obtain ⟨nameable, _⟩ := Expr.compileAt_named.mp compiled
      cases nameable

/-! ## Whole fragments -/

/-- A term is read up to a fragment that does not go on with it. -/
theorem Reads.read
    {fragment rest : Fragment}
    {term : Term}
    (reads : Reads .disjunction fragment term)
    (ends : Level.disjunction.Ends rest) :
    Term.read (fragment ++ rest) = some (term, rest) := by
  have shorter : fragment.length < (fragment ++ rest).length + 1 := by
    rw [List.length_append]
    omega
  exact reads.nested shorter ends

theorem Reads.parse
    {fragment : Fragment}
    {term : Term}
    (reads : Reads .disjunction fragment term) :
    Term.parse fragment = some term := by
  have read := reads.read (Level.ends_nil _)
  rw [List.append_nil] at read
  rw [Term.parse, read]

theorem Reads.parseItem
    {fragment : Fragment}
    {term : Term}
    (reads : Reads .disjunction fragment term) :
    Item.parse fragment = some ⟨term, none⟩ := by
  have read := reads.read (Level.ends_nil _)
  rw [List.append_nil] at read
  rw [Item.parse, read]

theorem Reads.parseNamed
    {fragment : Fragment}
    {term : Term}
    (reads : Reads .disjunction fragment term)
    (name : String) :
    Item.parse (.named fragment name) = some ⟨term, some name⟩ := by
  have ends : Level.disjunction.Ends [.keyword .asKw, .identifier name] := by
    simp [Level.ofChunk]
  have read := reads.read ends
  rw [Item.parse, Fragment.named, read]

end Grammar

/--
A compiled expression is parsed, to its last chunk, as the term that the expression
stands for, and a compiled item of a projection as that term under its name.
-/
theorem Expr.parse_compile (scope : Scope) (expr : Expr) (fragment : Fragment) :
    (expr.compile scope = .ok fragment →
      Term.parse fragment = some (expr.term scope)) ∧
    (expr.compileProjection scope = .ok fragment →
      Item.parse fragment = some (expr.item scope)) := by
  constructor
  · intro compiled
    exact (readsAs_compile scope expr fragment compiled).whole.parse
  · intro compiled
    by_cases named : ∃ inner name, expr = .named inner name
    · obtain ⟨inner, name, rfl⟩ := named
      obtain ⟨_, item, itemCompiled, rfl⟩ := Expr.compileAt_named.mp compiled
      exact (readsAs_compile scope inner item itemCompiled).whole.parseNamed name
    · have noName : ∀ inner name, expr ≠ .named inner name := by
        intro inner name shape
        exact named ⟨inner, name, shape⟩
      rw [Expr.compileProjection, Expr.compileAt_nameable scope expr noName] at compiled
      have item : expr.item scope = ⟨expr.term scope, none⟩ := by
        cases expr with
        | named inner name => exact absurd rfl (noName inner name)
        | _ => rfl
      rw [item]
      exact (readsAs_compile scope expr fragment compiled).whole.parseItem

namespace Sample

/-- A table with a column that has another name than its field. -/
def users : Shape :=
  ⟨"users", [⟨"id", "id", ⟨.integer .signed64, false⟩⟩,
    ⟨"age", "Age", ⟨.integer .signed64, true⟩⟩]⟩

/-- A group of a group and a comparison, with a null test, a negated membership and a call. -/
def nested : Expr :=
  .group .or
    [.group .and
      [.binary .eq (.col "age") (.literal .null),
       .negation (.membership (.colOf "users" "id") [.literal (.integer 1)] true)],
     .binary .lt (.call "coalesce" [.col "AGE"]) (.group .and [.col "id"])]

/-- The fragment of the group. -/
def nestedFragment : Fragment :=
  [.mark .openParen, .identifier "users", .mark .dot, .identifier "Age",
   .keyword .isKw, .keyword .nullKw, .keyword .andKw, .keyword .notKw, .mark .openParen,
   .identifier "users", .mark .dot, .identifier "id", .keyword .notKw, .keyword .inKw,
   .mark .openParen, .parameter (.integer 1), .mark .closeParen, .mark .closeParen,
   .mark .closeParen, .keyword .orKw, .raw "COALESCE", .mark .openParen,
   .identifier "users", .mark .dot, .identifier "Age", .mark .closeParen, .operator .lt,
   .mark .openParen, .identifier "users", .mark .dot, .identifier "id", .mark .closeParen]

/-- The term of the group. -/
def nestedTerm : Term :=
  .group .or
    [.group .and
      [.nullTest (.column ⟨"users", "Age"⟩) false,
       .negation (.membership (.column ⟨"users", "id"⟩) [.parameter (.integer 1)] true)],
     .binary .lt (.call "COALESCE" [.column ⟨"users", "Age"⟩]) (.column ⟨"users", "id"⟩)]

end Sample

theorem Expr.parse_compile_nested :
    Sample.nested.compile [Sample.users] = .ok Sample.nestedFragment ∧
      Term.parse Sample.nestedFragment = some Sample.nestedTerm ∧
      (named Sample.nested "x").compileProjection [Sample.users] =
        .ok (Sample.nestedFragment.named "x") ∧
      Item.parse (Sample.nestedFragment.named "x") = some ⟨Sample.nestedTerm, some "x"⟩ := by
  have compiled : Sample.nested.compile [Sample.users] = .ok Sample.nestedFragment := rfl
  have parsed := (parse_compile [Sample.users] Sample.nested Sample.nestedFragment).1 compiled
  have projected : (named Sample.nested "x").compileProjection [Sample.users] =
      .ok (Sample.nestedFragment.named "x") := rfl
  have item := (parse_compile [Sample.users] (.named Sample.nested "x")
    (Sample.nestedFragment.named "x")).2 projected
  exact ⟨compiled, parsed, projected, item⟩

end TypedSql
