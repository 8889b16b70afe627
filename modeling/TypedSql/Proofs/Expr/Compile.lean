import TypedSql.Expr.Compile
import TypedSql.Proofs.Outcome

/-!
# Compiled expressions, constructor by constructor

Induction over expressions with a hypothesis for each item of a list, and what
the fragment of each kind of expression consists of. Tables that are added to a
scope change nothing for expressions that compile without them.
-/

namespace TypedSql

/-- A call that is allowed is one of the function that its name finds. -/
theorem FunctionRule.check_eq_ok {name : String} {count : Nat} {rule : FunctionRule} :
    check name count = .ok rule ↔ find? name = some rule ∧ rule.accepts count = true := by
  rw [check]
  cases find? name with
  | none => simp
  | some other =>
      dsimp only
      by_cases accepted : other.accepts count = true
      · rw [if_pos accepted, Except.ok.injEq, Option.some.injEq]
        exact ⟨fun same => ⟨same, same ▸ accepted⟩, And.left⟩
      · rw [if_neg accepted, Option.some.injEq]
        exact iff_of_false (by simp) fun both => accepted (both.1 ▸ both.2)

namespace Expr

/-- Induction over expressions; the hypotheses about lists are about each item. -/
@[elab_as_elim]
theorem inductionOn
    {motive : Expr → Prop}
    (expr : Expr)
    (column : ∀ reference, motive (.column reference))
    (literal : ∀ value, motive (.literal value))
    (binary : ∀ operator left right, motive left → motive right →
      motive (.binary operator left right))
    (group : ∀ connective items, (∀ item ∈ items, motive item) →
      motive (.group connective items))
    (negation : ∀ inner, motive inner → motive (.negation inner))
    (nullTest : ∀ inner negated, motive inner → motive (.nullTest inner negated))
    (membership : ∀ operand items negated, motive operand → (∀ item ∈ items, motive item) →
      motive (.membership operand items negated))
    (like : ∀ operand pattern negated, motive operand → motive pattern →
      motive (.like operand pattern negated))
    (call : ∀ function arguments, (∀ item ∈ arguments, motive item) →
      motive (.call function arguments))
    (countRows : motive .countRows)
    (named : ∀ inner name, motive inner → motive (.named inner name)) :
    motive expr := by
  refine @Expr.rec motive (fun items => ∀ item ∈ items, motive item)
    column literal binary group negation nullTest membership like call countRows named
    ?_ ?_ expr
  · intro item member
    cases member
  · intro first others firstHolds othersHold item member
    rcases List.mem_cons.mp member with rfl | inOthers
    · exact firstHolds
    · exact othersHold item inOthers

/-! ## The fragments of expressions -/

section Fragments

variable {scope : Scope} {nameable : Bool} {fragment : Fragment}

theorem compileAt_column {reference : ColumnRef} :
    compileAt scope nameable (.column reference) = .ok fragment ↔
      ∃ place, scope.resolve reference = .ok place ∧ .place place = fragment := by
  simp only [compileAt, bind_eq_ok, pure_eq_ok]

theorem compileAt_literal {value : Value} :
    compileAt scope nameable (.literal value) = .ok fragment ↔
      [.parameter value] = fragment := by
  simp only [compileAt, pure_eq_ok]

theorem compileAt_binary {operator : Operator} {left right : Expr} :
    compileAt scope nameable (.binary operator left right) = .ok fragment ↔
      match nullOperand? operator left right with
      | some (.left, negated) =>
          ∃ operand, compileAt scope false left = .ok operand ∧
            .nullTest negated (Fragment.parensIf left.isCompound operand) = fragment
      | some (.right, negated) =>
          ∃ operand, compileAt scope false right = .ok operand ∧
            .nullTest negated (Fragment.parensIf right.isCompound operand) = fragment
      | none =>
          ∃ first, compileAt scope false left = .ok first ∧
            ∃ second, compileAt scope false right = .ok second ∧
              Fragment.parensIf left.isCompound first ++
                .operator operator :: Fragment.parensIf right.isCompound second =
                  fragment := by
  rw [compileAt]
  rcases nullOperand? operator left right with _ | ⟨_ | _, negated⟩ <;>
    simp only [bind_eq_ok, pure_eq_ok]

theorem compileAt_group {connective : Connective} {items : List Expr} :
    compileAt scope nameable (.group connective items) = .ok fragment ↔
      items ≠ [] ∧ ∃ parts, compileItems scope isGroup items = .ok parts ∧
        .join connective.token parts = fragment := by
  cases items with
  | nil => simp [compileAt, throw, throwThe, MonadExceptOf.throw]
  | cons first others =>
      simp only [compileAt, List.isEmpty_cons, Bool.false_eq_true, if_false, bind_eq_ok,
        pure_eq_ok, ne_eq, reduceCtorEq, not_false_eq_true, true_and]

theorem compileAt_negation {inner : Expr} :
    compileAt scope nameable (.negation inner) = .ok fragment ↔
      ∃ operand, compileAt scope false inner = .ok operand ∧
        .keyword .notKw :: Fragment.parensIf inner.isCompound operand = fragment := by
  simp only [compileAt, bind_eq_ok, pure_eq_ok]

theorem compileAt_nullTest {inner : Expr} {negated : Bool} :
    compileAt scope nameable (.nullTest inner negated) = .ok fragment ↔
      ∃ operand, compileAt scope false inner = .ok operand ∧
        .nullTest negated (Fragment.parensIf inner.isCompound operand) = fragment := by
  simp only [compileAt, bind_eq_ok, pure_eq_ok]

theorem compileAt_membership {operand : Expr} {items : List Expr} {negated : Bool} :
    compileAt scope nameable (.membership operand items negated) = .ok fragment ↔
      if items = [] then .emptyMembership negated = fragment
      else
        ∃ first, compileAt scope false operand = .ok first ∧
          ∃ parts, compileItems scope (fun _ => false) items = .ok parts ∧
            .membership negated (Fragment.parensIf operand.isCompound first) parts =
              fragment := by
  cases items with
  | nil => simp [compileAt, pure_eq_ok]
  | cons first others =>
      simp only [compileAt, List.isEmpty_cons, Bool.false_eq_true, if_false, bind_eq_ok,
        pure_eq_ok, reduceCtorEq]

theorem compileAt_like {operand pattern : Expr} {negated : Bool} :
    compileAt scope nameable (.like operand pattern negated) = .ok fragment ↔
      ∃ first, compileAt scope false operand = .ok first ∧
        ∃ second, compileAt scope false pattern = .ok second ∧
          .like negated (Fragment.parensIf operand.isCompound first)
            (Fragment.parensIf pattern.isCompound second) = fragment := by
  simp only [compileAt, bind_eq_ok, pure_eq_ok]

theorem compileAt_call {function : String} {arguments : List Expr} :
    compileAt scope nameable (.call function arguments) = .ok fragment ↔
      ∃ rule, FunctionRule.check function arguments.length = .ok rule ∧
        ∃ parts, compileItems scope (fun _ => false) arguments = .ok parts ∧
          .call rule.name (.commas parts) = fragment := by
  simp only [compileAt, bind_eq_ok, pure_eq_ok]

theorem compileAt_countRows :
    compileAt scope nameable .countRows = .ok fragment ↔ .countRows = fragment := by
  simp only [compileAt, pure_eq_ok]

theorem compileAt_named {inner : Expr} {name : String} :
    compileAt scope nameable (.named inner name) = .ok fragment ↔
      nameable = true ∧ ∃ item, compileAt scope false inner = .ok item ∧
        .named item name = fragment := by
  cases nameable with
  | false => simp [compileAt, throw, throwThe, MonadExceptOf.throw]
  | true => simp only [compileAt, if_true, bind_eq_ok, pure_eq_ok, true_and]

/-- Whether a name is allowed matters to expressions with a name only. -/
theorem compileAt_nameable
    (scope : Scope)
    (expr : Expr)
    (noName : ∀ inner name, expr ≠ .named inner name) :
    compileAt scope true expr = compileAt scope false expr := by
  cases expr with
  | named inner name => exact absurd rfl (noName inner name)
  | _ => simp only [compileAt]

/-- The fragments of items, one for each. -/
theorem compileItems_eq_ok {wrap : Expr → Bool} {items : List Expr} {parts : List Fragment} :
    compileItems scope wrap items = .ok parts ↔
      List.Forall₂
        (fun item part => ∃ first, compileAt scope false item = .ok first ∧
          Fragment.parensIf (wrap item) first = part)
        items parts := by
  induction items generalizing parts with
  | nil =>
      simp only [compileItems, pure_eq_ok, List.forall₂_nil_left_iff]
      exact eq_comm
  | cons item rest inductionHypothesis =>
      simp only [compileItems, bind_eq_ok, pure_eq_ok, inductionHypothesis,
        List.forall₂_cons_left_iff]
      constructor
      · rintro ⟨first, compiled, others, othersCompiled, rfl⟩
        exact ⟨_, others, ⟨first, compiled, rfl⟩, othersCompiled, rfl⟩
      · rintro ⟨_, others, ⟨first, compiled, rfl⟩, othersCompiled, rfl⟩
        exact ⟨first, compiled, others, othersCompiled, rfl⟩

/-- Items that compile together compile one by one. -/
theorem compileAt_of_mem
    {wrap : Expr → Bool}
    {items : List Expr}
    {parts : List Fragment}
    {item : Expr}
    (compiled : compileItems scope wrap items = .ok parts)
    (member : item ∈ items) :
    ∃ part, compileAt scope false item = .ok part := by
  have each := compileItems_eq_ok.mp compiled
  clear compiled
  induction each with
  | nil => cases member
  | cons first _ inductionHypothesis =>
      rcases List.mem_cons.mp member with rfl | inOthers
      · obtain ⟨part, firstCompiled, _⟩ := first
        exact ⟨part, firstCompiled⟩
      · exact inductionHypothesis inOthers

/-- There are fragments where there are items. -/
theorem parts_ne_nil
    {wrap : Expr → Bool}
    {items : List Expr}
    {parts : List Fragment}
    (compiled : compileItems scope wrap items = .ok parts)
    (nonempty : items ≠ []) :
    parts ≠ [] := by
  have sameLength := (compileItems_eq_ok.mp compiled).length_eq
  rintro rfl
  exact nonempty (List.eq_nil_of_length_eq_zero sameLength)

end Fragments

end Expr

/-! ## Larger scopes -/

theorem Scope.resolve_eq_ok
    {scope : Scope}
    {reference : ColumnRef}
    {place : Place} :
    scope.resolve reference = .ok place ↔ scope.place? reference = some place := by
  unfold Scope.resolve
  cases found : scope.place? reference with
  | some other => simp
  | none =>
      simp only [reduceCtorEq, iff_false]
      split
      · simp
      · split <;> simp

/-- A column that has a place keeps it when tables are added. -/
theorem Scope.resolve_append
    {scope : Scope}
    {reference : ColumnRef}
    {place : Place}
    (resolved : scope.resolve reference = .ok place)
    (more : Scope) :
    Scope.resolve (scope ++ more) reference = .ok place := by
  have found := Scope.resolve_eq_ok.mp resolved
  rw [Scope.place?] at found
  rw [Scope.resolve_eq_ok, Scope.place?, List.filter_append, List.findSome?_append, found]
  rfl

namespace Expr

/-- An expression that compiles compiles alike when tables are added. -/
theorem compileAt_append
    {scope : Scope}
    (more : Scope)
    (expr : Expr) :
    ∀ nameable fragment, compileAt scope nameable expr = .ok fragment →
      compileAt (scope ++ more) nameable expr = .ok fragment := by
  have itemsAppend
      {wrap : Expr → Bool}
      {items : List Expr}
      {parts : List Fragment}
      (itemHypothesis : ∀ item ∈ items, ∀ nameable fragment,
        compileAt scope nameable item = .ok fragment →
          compileAt (scope ++ more) nameable item = .ok fragment)
      (compiled : compileItems scope wrap items = .ok parts) :
      compileItems (scope ++ more) wrap items = .ok parts := by
    rw [compileItems_eq_ok] at compiled ⊢
    have both := (List.forall₂_and_left _ _).mpr ⟨itemHypothesis, compiled⟩
    refine both.imp ?_
    rintro item part ⟨hypothesis, first, firstCompiled, shape⟩
    exact ⟨first, hypothesis false first firstCompiled, shape⟩
  induction expr using Expr.inductionOn with
  | column reference =>
      intro nameable fragment compiled
      obtain ⟨place, resolved, rfl⟩ := compileAt_column.mp compiled
      exact compileAt_column.mpr ⟨place, Scope.resolve_append resolved more, rfl⟩
  | literal value =>
      intro nameable fragment compiled
      exact compileAt_literal.mpr (compileAt_literal.mp compiled)
  | binary operator left right leftHypothesis rightHypothesis =>
      intro nameable fragment compiled
      rw [compileAt_binary] at compiled ⊢
      generalize nullOperand? operator left right = tested at compiled ⊢
      rcases tested with _ | ⟨_ | _, negated⟩
      · obtain ⟨first, leftCompiled, second, rightCompiled, rfl⟩ := compiled
        exact ⟨first, leftHypothesis _ _ leftCompiled, second,
          rightHypothesis _ _ rightCompiled, rfl⟩
      · obtain ⟨operand, operandCompiled, rfl⟩ := compiled
        exact ⟨operand, leftHypothesis _ _ operandCompiled, rfl⟩
      · obtain ⟨operand, operandCompiled, rfl⟩ := compiled
        exact ⟨operand, rightHypothesis _ _ operandCompiled, rfl⟩
  | group connective items itemHypothesis =>
      intro nameable fragment compiled
      obtain ⟨nonempty, parts, itemsCompiled, rfl⟩ := compileAt_group.mp compiled
      exact compileAt_group.mpr
        ⟨nonempty, parts, itemsAppend itemHypothesis itemsCompiled, rfl⟩
  | negation inner innerHypothesis =>
      intro nameable fragment compiled
      obtain ⟨operand, operandCompiled, rfl⟩ := compileAt_negation.mp compiled
      exact compileAt_negation.mpr ⟨operand, innerHypothesis _ _ operandCompiled, rfl⟩
  | nullTest inner negated innerHypothesis =>
      intro nameable fragment compiled
      obtain ⟨operand, operandCompiled, rfl⟩ := compileAt_nullTest.mp compiled
      exact compileAt_nullTest.mpr ⟨operand, innerHypothesis _ _ operandCompiled, rfl⟩
  | membership operand items negated operandHypothesis itemHypothesis =>
      intro nameable fragment compiled
      have shape := compileAt_membership.mp compiled
      rw [compileAt_membership]
      split at shape
      · next empty =>
        rw [if_pos empty]
        exact shape
      · next nonempty =>
        obtain ⟨first, operandCompiled, parts, itemsCompiled, rfl⟩ := shape
        rw [if_neg nonempty]
        exact ⟨first, operandHypothesis _ _ operandCompiled, parts,
          itemsAppend itemHypothesis itemsCompiled, rfl⟩
  | like operand pattern negated operandHypothesis patternHypothesis =>
      intro nameable fragment compiled
      obtain ⟨first, operandCompiled, second, patternCompiled, rfl⟩ :=
        compileAt_like.mp compiled
      exact compileAt_like.mpr ⟨first, operandHypothesis _ _ operandCompiled, second,
        patternHypothesis _ _ patternCompiled, rfl⟩
  | call function arguments argumentHypothesis =>
      intro nameable fragment compiled
      obtain ⟨rule, checked, parts, partsCompiled, rfl⟩ := compileAt_call.mp compiled
      exact compileAt_call.mpr
        ⟨rule, checked, parts, itemsAppend argumentHypothesis partsCompiled, rfl⟩
  | countRows =>
      intro nameable fragment compiled
      exact compileAt_countRows.mpr (compileAt_countRows.mp compiled)
  | named inner name innerHypothesis =>
      intro nameable fragment compiled
      obtain ⟨allowed, item, itemCompiled, rfl⟩ := compileAt_named.mp compiled
      exact compileAt_named.mpr ⟨allowed, item, innerHypothesis _ _ itemCompiled, rfl⟩

end Expr
end TypedSql
