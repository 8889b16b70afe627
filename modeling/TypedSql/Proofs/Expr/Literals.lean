import TypedSql.Proofs.Expr.Compile

/-!
# The literals of expressions

The literals that become bound values when an expression is compiled, from left to
right. A null literal that a comparison tests for is not bound, and neither is
anything in a membership test without items.
-/

namespace TypedSql

/-- Whether an operator compares for being the same or not. -/
def Operator.isEquality : Operator → Bool
  | .eq => true
  | .ne => true
  | _ => false

namespace Expr

mutual

/-- The literals of an expression that are bound. -/
def literals : Expr → List Value
  | .column _ => []
  | .literal value => [value]
  | .binary operator left right =>
      if operator.isEquality && right.isNullLiteral then left.literals
      else if operator.isEquality && left.isNullLiteral then right.literals
      else left.literals ++ right.literals
  | .group _ items => literalsOf items
  | .negation inner => inner.literals
  | .nullTest inner _ => inner.literals
  | .membership operand items _ =>
      if items.isEmpty then [] else operand.literals ++ literalsOf items
  | .like operand pattern _ => operand.literals ++ pattern.literals
  | .call _ arguments => literalsOf arguments
  | .countRows => []
  | .named inner _ => inner.literals

/-- The literals of expressions one after the other. -/
def literalsOf : List Expr → List Value
  | [] => []
  | item :: rest => item.literals ++ literalsOf rest

end

attribute [simp] literals literalsOf

/-- The operands that a binary expression is compiled from are the ones it binds. -/
theorem literals_binary (operator : Operator) (left right : Expr) :
    (Expr.binary operator left right).literals =
      match nullOperand? operator left right with
      | some (.left, _) => left.literals
      | some (.right, _) => right.literals
      | none => left.literals ++ right.literals := by
  cases rightNull : right.isNullLiteral <;>
    cases leftNull : left.isNullLiteral <;>
    cases operator <;>
    simp [nullOperand?, Operator.isEquality, rightNull, leftNull]

end Expr

/-! ## Bound values of fragments -/

namespace Fragment

@[simp] theorem parameters_parameter (value : Value) (rest : Fragment) :
    parameters (.parameter value :: rest) = value :: parameters rest := rfl

@[simp] theorem parameters_token (symbol : Token) (rest : Fragment) :
    parameters (.token symbol :: rest) = parameters rest := rfl

@[simp] theorem parameters_identifier (name : String) (rest : Fragment) :
    parameters (.identifier name :: rest) = parameters rest := rfl

@[simp] theorem parameters_raw (content : String) (rest : Fragment) :
    parameters (.raw content :: rest) = parameters rest := rfl

@[simp] theorem parameters_number (count : UInt64) (rest : Fragment) :
    parameters (.number count :: rest) = parameters rest := rfl

@[simp] theorem parameters_qualified (table column : String) :
    (qualified table column).parameters = [] := rfl

@[simp] theorem parameters_place (place : Place) : (Fragment.place place).parameters = [] := rfl

@[simp] theorem parameters_parens (fragment : Fragment) :
    fragment.parens.parameters = fragment.parameters := by
  simp [parens]

@[simp] theorem parameters_parensIf (condition : Bool) (fragment : Fragment) :
    (parensIf condition fragment).parameters = fragment.parameters := by
  cases condition <;> simp [parensIf]

@[simp] theorem parameters_keywordIf (condition : Bool) (word : Keyword) :
    (keywordIf condition word).parameters = [] := by
  cases condition <;> rfl

@[simp] theorem parameters_named (fragment : Fragment) (name : String) :
    (fragment.named name).parameters = fragment.parameters := by
  simp [named]

@[simp] theorem parameters_join (separator : Token) (parts : List Fragment) :
    (join separator parts).parameters = parts.flatMap parameters := by
  induction parts with
  | nil => rfl
  | cons first others inductionHypothesis =>
      cases others with
      | nil => simp
      | cons second rest =>
          rw [join_cons_cons, parameters_append, parameters_token, inductionHypothesis]
          simp

@[simp] theorem parameters_commas (parts : List Fragment) :
    (commas parts).parameters = parts.flatMap parameters :=
  parameters_join _ parts

@[simp] theorem parameters_nullTest (negated : Bool) (operand : Fragment) :
    (nullTest negated operand).parameters = operand.parameters := by
  simp [nullTest]

@[simp] theorem parameters_membership
    (negated : Bool)
    (operand : Fragment)
    (items : List Fragment) :
    (membership negated operand items).parameters =
      operand.parameters ++ items.flatMap parameters := by
  simp [membership]

@[simp] theorem parameters_like (negated : Bool) (operand pattern : Fragment) :
    (like negated operand pattern).parameters = operand.parameters ++ pattern.parameters := by
  simp [like]

@[simp] theorem parameters_call (name : String) (arguments : Fragment) :
    (call name arguments).parameters = arguments.parameters := by
  simp [call]

@[simp] theorem parameters_emptyMembership (negated : Bool) :
    (emptyMembership negated).parameters = [] := rfl

@[simp] theorem parameters_countRows : countRows.parameters = [] := rfl

end Fragment

/-! ## Bound values of compiled expressions -/

namespace Expr

/-- Items bind their literals one after the other if each binds its own. -/
theorem parameters_compileItems
    {scope : Scope}
    {wrap : Expr → Bool}
    {items : List Expr}
    {parts : List Fragment}
    (compiled : compileItems scope wrap items = .ok parts)
    (each : ∀ item ∈ items, ∀ nameable fragment,
      compileAt scope nameable item = .ok fragment → fragment.parameters = item.literals) :
    parts.flatMap Fragment.parameters = literalsOf items := by
  have pairs := compileItems_eq_ok.mp compiled
  clear compiled
  induction pairs with
  | nil => rfl
  | cons first _ inductionHypothesis =>
      obtain ⟨fragment, firstCompiled, rfl⟩ := first
      have firstBinds := each _ List.mem_cons_self false fragment firstCompiled
      have othersBind := inductionHypothesis fun item member =>
        each item (List.mem_cons_of_mem _ member)
      rw [List.flatMap_cons, Fragment.parameters_parensIf, firstBinds, othersBind, literalsOf]

/-- A compiled expression binds its literals. -/
theorem parameters_compileAt
    {scope : Scope}
    (expr : Expr) :
    ∀ nameable fragment, compileAt scope nameable expr = .ok fragment →
      fragment.parameters = expr.literals := by
  induction expr using Expr.inductionOn with
  | column reference =>
      intro nameable fragment compiled
      obtain ⟨place, _, rfl⟩ := compileAt_column.mp compiled
      simp
  | literal value =>
      intro nameable fragment compiled
      obtain rfl := compileAt_literal.mp compiled
      simp
  | binary operator left right leftHypothesis rightHypothesis =>
      intro nameable fragment compiled
      have shape := compileAt_binary.mp compiled
      rw [literals_binary]
      generalize nullOperand? operator left right = tested at shape
      rcases tested with _ | ⟨_ | _, negated⟩
      · obtain ⟨first, leftCompiled, second, rightCompiled, rfl⟩ := shape
        simp [leftHypothesis _ _ leftCompiled, rightHypothesis _ _ rightCompiled]
      · obtain ⟨operand, operandCompiled, rfl⟩ := shape
        simp [leftHypothesis _ _ operandCompiled]
      · obtain ⟨operand, operandCompiled, rfl⟩ := shape
        simp [rightHypothesis _ _ operandCompiled]
  | group connective items itemHypothesis =>
      intro nameable fragment compiled
      obtain ⟨_, parts, itemsCompiled, rfl⟩ := compileAt_group.mp compiled
      simp [parameters_compileItems itemsCompiled itemHypothesis]
  | negation inner innerHypothesis =>
      intro nameable fragment compiled
      obtain ⟨operand, operandCompiled, rfl⟩ := compileAt_negation.mp compiled
      simp [innerHypothesis _ _ operandCompiled]
  | nullTest inner negated innerHypothesis =>
      intro nameable fragment compiled
      obtain ⟨operand, operandCompiled, rfl⟩ := compileAt_nullTest.mp compiled
      simp [innerHypothesis _ _ operandCompiled]
  | membership operand items negated operandHypothesis itemHypothesis =>
      intro nameable fragment compiled
      have shape := compileAt_membership.mp compiled
      split at shape
      · next empty =>
        obtain rfl := shape
        simp [empty]
      · next nonempty =>
        obtain ⟨first, operandCompiled, parts, itemsCompiled, rfl⟩ := shape
        simp [nonempty, operandHypothesis _ _ operandCompiled,
          parameters_compileItems itemsCompiled itemHypothesis]
  | like operand pattern negated operandHypothesis patternHypothesis =>
      intro nameable fragment compiled
      obtain ⟨first, operandCompiled, second, patternCompiled, rfl⟩ :=
        compileAt_like.mp compiled
      simp [operandHypothesis _ _ operandCompiled, patternHypothesis _ _ patternCompiled]
  | call function arguments argumentHypothesis =>
      intro nameable fragment compiled
      obtain ⟨rule, _, parts, partsCompiled, rfl⟩ := compileAt_call.mp compiled
      simp [parameters_compileItems partsCompiled argumentHypothesis]
  | countRows =>
      intro nameable fragment compiled
      obtain rfl := compileAt_countRows.mp compiled
      simp
  | named inner name innerHypothesis =>
      intro nameable fragment compiled
      obtain ⟨_, item, itemCompiled, rfl⟩ := compileAt_named.mp compiled
      simp [innerHypothesis _ _ itemCompiled]

end Expr
end TypedSql
