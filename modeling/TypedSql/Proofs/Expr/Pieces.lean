import TypedSql.Proofs.Expr.Compile

/-!
# Pieces of compiled expressions

A compiled expression is put together from a few kinds of pieces in a few ways. A
property of fragments that all pieces have, and that putting them together keeps, is
one of all compiled expressions. Many such properties are kept by all fragments in a
row, whether an expression puts them there or a clause of a statement.
-/

namespace TypedSql

/-- Whether a keyword is written by expressions, and not by the clauses around them. -/
def Keyword.isOfExpressions : Keyword → Bool
  | .andKw => true
  | .orKw => true
  | .notKw => true
  | .isKw => true
  | .nullKw => true
  | .inKw => true
  | .likeKw => true
  | _ => false

/-- Fragments with a token between neighbours have what putting them in a row keeps. -/
theorem Fragment.holds_join
    {holds : Fragment → Prop}
    {separator : Token}
    {parts : List Fragment}
    (append : ∀ front back, holds front → holds back → holds (front ++ back))
    (separates : holds [.token separator])
    (nonempty : parts ≠ [])
    (each : ∀ part ∈ parts, holds part) :
    holds (join separator parts) := by
  induction parts with
  | nil => exact absurd rfl nonempty
  | cons first others inductionHypothesis =>
      have firstHolds := each first List.mem_cons_self
      cases others with
      | nil =>
          rw [join_singleton]
          exact firstHolds
      | cons second rest =>
          rw [join_cons_cons]
          refine append _ _ firstHolds (append [_] _ separates ?_)
          apply inductionHypothesis (List.cons_ne_nil second rest)
          intro part member
          exact each part (List.mem_cons_of_mem first member)

/--
A property of fragments that the pieces of expressions over a scope have and that the
ways in which they are put together keep.
-/
structure Fragment.Compositional (scope : Scope) (holds : Fragment → Prop) : Prop where
  place : ∀ reference place, scope.resolve reference = .ok place → holds (.place place)
  parameter : ∀ value, holds [.parameter value]
  number : ∀ count, holds [.number count]
  operator : ∀ symbol, holds [.operator symbol]
  keyword : ∀ word, word.isOfExpressions = true → holds [.keyword word]
  /-- The name of a function stands before parentheses only. -/
  function : ∀ rule ∈ FunctionRule.supported, ∀ inner : Fragment, holds inner.parens →
    holds (Fragment.call rule.name inner)
  star : holds [.mark .star]
  append : ∀ left right, holds left → holds right → holds (left ++ right)
  parens : ∀ inner, holds inner → holds inner.parens
  /-- Commas stand in parentheses only. -/
  list : ∀ parts, (∀ part ∈ parts, holds part) → holds (Fragment.commas parts).parens

namespace Fragment.Compositional

variable {scope : Scope} {holds : Fragment → Prop}

theorem parensIf
    (pieces : Compositional scope holds)
    {fragment : Fragment}
    (condition : Bool)
    (held : holds fragment) :
    holds (Fragment.parensIf condition fragment) := by
  cases condition with
  | false => exact held
  | true => exact pieces.parens fragment held

/-- A keyword may follow, or not, and something else after it. -/
theorem keywordIf
    (pieces : Compositional scope holds)
    {front back : Fragment}
    (word : Keyword)
    (condition : Bool)
    (ofExpressions : word.isOfExpressions = true)
    (frontHolds : holds front)
    (backHolds : holds back) :
    holds (front ++ Fragment.keywordIf condition word ++ back) := by
  apply pieces.append _ _ ?_ backHolds
  cases condition with
  | false =>
      rw [Fragment.keywordIf, if_neg Bool.false_ne_true, List.append_nil]
      exact frontHolds
  | true => exact pieces.append _ _ frontHolds (pieces.keyword word ofExpressions)

theorem join
    (pieces : Compositional scope holds)
    (connective : Connective)
    {parts : List Fragment}
    (nonempty : parts ≠ [])
    (each : ∀ part ∈ parts, holds part) :
    holds (Fragment.join connective.token parts) := by
  have separates : holds [.token connective.token] := by
    cases connective <;> exact pieces.keyword _ rfl
  exact Fragment.holds_join pieces.append separates nonempty each

theorem nullTest
    (pieces : Compositional scope holds)
    {operand : Fragment}
    (negated : Bool)
    (held : holds operand) :
    holds (Fragment.nullTest negated operand) := by
  have tested := pieces.append _ _ held (pieces.keyword .isKw rfl)
  have whole := pieces.keywordIf .notKw negated rfl tested (pieces.keyword .nullKw rfl)
  rwa [List.append_assoc, List.append_assoc, List.singleton_append, ← List.cons_append,
    ← List.append_assoc] at whole

theorem membership
    (pieces : Compositional scope holds)
    {operand : Fragment}
    {parts : List Fragment}
    (negated : Bool)
    (held : holds operand)
    (each : ∀ part ∈ parts, holds part) :
    holds (Fragment.membership negated operand parts) :=
  pieces.keywordIf .notKw negated rfl held
    (pieces.append [_] _ (pieces.keyword .inKw rfl) (pieces.list parts each))

theorem like
    (pieces : Compositional scope holds)
    {operand pattern : Fragment}
    (negated : Bool)
    (held : holds operand)
    (patternHeld : holds pattern) :
    holds (Fragment.like negated operand pattern) :=
  pieces.keywordIf .notKw negated rfl held
    (pieces.append [_] _ (pieces.keyword .likeKw rfl) patternHeld)

theorem emptyMembership (pieces : Compositional scope holds) (negated : Bool) :
    holds (Fragment.emptyMembership negated) :=
  pieces.append [_] _ (pieces.number _)
    (pieces.append [_] _ (pieces.operator .eq) (pieces.number _))

theorem call
    (pieces : Compositional scope holds)
    {rule : FunctionRule}
    {parts : List Fragment}
    (supported : rule ∈ FunctionRule.supported)
    (each : ∀ part ∈ parts, holds part) :
    holds (Fragment.call rule.name (.commas parts)) :=
  pieces.function rule supported _ (pieces.list parts each)

theorem countRows (pieces : Compositional scope holds) : holds Fragment.countRows :=
  pieces.function ⟨"COUNT", 1, some 1⟩ List.mem_cons_self _ (pieces.parens _ pieces.star)

end Fragment.Compositional

/-- Whether the name of a table follows a token. -/
def Token.introduces : Token → Bool
  | .keyword .fromKw => true
  | .keyword .joinKw => true
  | _ => false

/--
A property of fragments that most tokens and all names have and that putting fragments
in a row keeps. The tokens are all but the dot and those that names of tables follow.
-/
structure Fragment.Concatenable (holds : Fragment → Prop) : Prop where
  empty : holds []
  token : ∀ symbol, symbol ≠ .mark .dot → symbol.introduces = false → holds [.token symbol]
  identifier : ∀ name, holds [.identifier name]
  append : ∀ front back, holds front → holds back → holds (front ++ back)

namespace Fragment.Concatenable

variable {holds : Fragment → Prop} {fragment : Fragment}

theorem keyword_cons
    (chunks : Concatenable holds)
    (word : Keyword)
    (introducesNone : (Token.keyword word).introduces = false)
    (held : holds fragment) :
    holds (.keyword word :: fragment) :=
  chunks.append [_] _ (chunks.token (.keyword word) (by simp) introducesNone) held

theorem identifier_cons
    (chunks : Concatenable holds)
    (name : String)
    (held : holds fragment) :
    holds (.identifier name :: fragment) :=
  chunks.append [_] _ (chunks.identifier name) held

theorem parens (chunks : Concatenable holds) (held : holds fragment) : holds fragment.parens :=
  chunks.append _ _ (chunks.append [_] _ (chunks.token (.mark .openParen) (by simp) rfl) held)
    (chunks.token (.mark .closeParen) (by simp) rfl)

theorem named (chunks : Concatenable holds) (name : String) (held : holds fragment) :
    holds (fragment.named name) :=
  chunks.append _ _ held (chunks.keyword_cons .asKw rfl (chunks.identifier name))

theorem flatMap
    {α : Type}
    (chunks : Concatenable holds)
    {items : List α}
    {part : α → Fragment}
    (each : ∀ item ∈ items, holds (part item)) :
    holds (items.flatMap part) := by
  induction items with
  | nil => exact chunks.empty
  | cons first others inductionHypothesis =>
      rw [List.flatMap_cons]
      apply chunks.append _ _ (each first List.mem_cons_self)
      apply inductionHypothesis
      intro item member
      exact each item (List.mem_cons_of_mem first member)

theorem commas
    (chunks : Concatenable holds)
    {parts : List Fragment}
    (each : ∀ part ∈ parts, holds part) :
    holds (Fragment.commas parts) := by
  by_cases nonempty : parts = []
  · rw [nonempty]
    exact chunks.empty
  · exact holds_join chunks.append (chunks.token (.mark .comma) (by simp) rfl) nonempty each

/-- With the chunks that are no tokens, it is a property of all compiled expressions. -/
theorem compositional
    {scope : Scope}
    (chunks : Concatenable holds)
    (place : ∀ reference place, scope.resolve reference = .ok place → holds (.place place))
    (parameter : ∀ value, holds [.parameter value])
    (number : ∀ count, holds [.number count])
    (function : ∀ rule ∈ FunctionRule.supported, holds [.raw rule.name]) :
    Compositional scope holds where
  place := place
  parameter := parameter
  number := number
  operator symbol := chunks.token (.operator symbol) (by simp) rfl
  keyword word ofExpressions := by
    apply chunks.token (.keyword word) (by simp)
    cases word <;>
      first
      | rfl
      | cases ofExpressions
  function rule supported _ held := chunks.append [_] _ (function rule supported) held
  star := chunks.token (.mark .star) (by simp) rfl
  append := chunks.append
  parens _ held := chunks.parens held
  list _ each := chunks.parens (chunks.commas each)

end Fragment.Concatenable

theorem FunctionRule.mem_supported_of_check
    {name : String}
    {count : Nat}
    {rule : FunctionRule}
    (checked : FunctionRule.check name count = .ok rule) :
    rule ∈ supported :=
  List.mem_of_find?_eq_some (check_eq_ok.mp checked).1

namespace Expr

variable {scope : Scope} {holds : Fragment → Prop}

/-- What each compiled item has holds of the fragments of all items. -/
theorem holds_of_compileItems
    {wrap : Expr → Bool}
    {items : List Expr}
    {parts : List Fragment}
    (compiled : compileItems scope wrap items = .ok parts)
    (each : ∀ item ∈ items, ∀ fragment, item.compileAt scope false = .ok fragment →
      holds (Fragment.parensIf (wrap item) fragment)) :
    ∀ part ∈ parts, holds part := by
  refine forall_mem_of_forall₂ (compileItems_eq_ok.mp compiled) ?_
  rintro item member _ ⟨fragment, itemCompiled, rfl⟩
  exact each item member fragment itemCompiled

/-- A property that pieces have and that putting together keeps is one of expressions. -/
theorem holds_compile
    (pieces : Fragment.Compositional scope holds)
    (expr : Expr) :
    ∀ fragment, expr.compile scope = .ok fragment → holds fragment := by
  induction expr using Expr.inductionOn with
  | column reference =>
      intro fragment compiled
      obtain ⟨place, resolved, rfl⟩ := compileAt_column.mp compiled
      exact pieces.place reference place resolved
  | literal value =>
      intro fragment compiled
      obtain rfl := compileAt_literal.mp compiled
      exact pieces.parameter value
  | binary operator left right leftHypothesis rightHypothesis =>
      intro fragment compiled
      have shape := compileAt_binary.mp compiled
      generalize nullOperand? operator left right = tested at shape
      rcases tested with _ | ⟨_ | _, negated⟩
      · obtain ⟨first, leftCompiled, second, rightCompiled, rfl⟩ := shape
        have leftHolds := pieces.parensIf left.isCompound (leftHypothesis _ leftCompiled)
        have rightHolds := pieces.parensIf right.isCompound (rightHypothesis _ rightCompiled)
        exact pieces.append _ _ leftHolds
          (pieces.append [_] _ (pieces.operator operator) rightHolds)
      · obtain ⟨operand, operandCompiled, rfl⟩ := shape
        exact pieces.nullTest negated (pieces.parensIf _ (leftHypothesis _ operandCompiled))
      · obtain ⟨operand, operandCompiled, rfl⟩ := shape
        exact pieces.nullTest negated (pieces.parensIf _ (rightHypothesis _ operandCompiled))
  | group connective items itemHypothesis =>
      intro fragment compiled
      obtain ⟨nonempty, parts, itemsCompiled, rfl⟩ := compileAt_group.mp compiled
      apply pieces.join connective (parts_ne_nil itemsCompiled nonempty)
      refine holds_of_compileItems itemsCompiled fun item member part itemCompiled => ?_
      exact pieces.parensIf _ (itemHypothesis item member part itemCompiled)
  | negation inner innerHypothesis =>
      intro fragment compiled
      obtain ⟨operand, operandCompiled, rfl⟩ := compileAt_negation.mp compiled
      exact pieces.append [_] _ (pieces.keyword .notKw rfl)
        (pieces.parensIf _ (innerHypothesis _ operandCompiled))
  | nullTest inner negated innerHypothesis =>
      intro fragment compiled
      obtain ⟨operand, operandCompiled, rfl⟩ := compileAt_nullTest.mp compiled
      exact pieces.nullTest negated (pieces.parensIf _ (innerHypothesis _ operandCompiled))
  | membership operand items negated operandHypothesis itemHypothesis =>
      intro fragment compiled
      have shape := compileAt_membership.mp compiled
      split at shape
      · obtain rfl := shape
        exact pieces.emptyMembership negated
      · obtain ⟨first, operandCompiled, parts, itemsCompiled, rfl⟩ := shape
        exact pieces.membership negated
          (pieces.parensIf _ (operandHypothesis _ operandCompiled))
          (holds_of_compileItems itemsCompiled itemHypothesis)
  | like operand pattern negated operandHypothesis patternHypothesis =>
      intro fragment compiled
      obtain ⟨first, operandCompiled, second, patternCompiled, rfl⟩ :=
        compileAt_like.mp compiled
      exact pieces.like negated (pieces.parensIf _ (operandHypothesis _ operandCompiled))
        (pieces.parensIf _ (patternHypothesis _ patternCompiled))
  | call function arguments argumentHypothesis =>
      intro fragment compiled
      obtain ⟨rule, checked, parts, partsCompiled, rfl⟩ := compileAt_call.mp compiled
      exact pieces.call (FunctionRule.mem_supported_of_check checked)
        (holds_of_compileItems partsCompiled argumentHypothesis)
  | countRows =>
      intro fragment compiled
      obtain rfl := compileAt_countRows.mp compiled
      exact pieces.countRows
  | named inner name _ =>
      intro fragment compiled
      cases (compileAt_named.mp compiled).1

end Expr

end TypedSql
