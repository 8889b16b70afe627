import TypedSql.Proofs.Grammar.Levels

/-!
# Forms of fragments

How the fragments that expressions are made of are read: columns, parameters and
calls as factors, tests and operations of factors as comparisons.
-/

namespace TypedSql
namespace Grammar

/-! ## Factors -/

theorem reads_place (place : Place) : Reads .factor (.place place) (.column place) := by
  intro depth rest _ _
  rfl

theorem reads_parameter (value : Value) :
    Reads .factor [.parameter value] (.parameter value) := by
  intro depth rest _ _
  rfl

theorem reads_number (count : UInt64) : Reads .factor [.number count] (.number count) := by
  intro depth rest _ _
  rfl

theorem reads_countRows : Reads .factor .countRows .countRows := by
  intro depth rest _ _
  simp [Level.reader, Fragment.countRows, Fragment.call, Fragment.parens, factor]

/-- Nothing is read where the first item is not. -/
theorem connected_of_none
    {connective : Connective}
    {item : Reader Term}
    {input : Fragment}
    (unread : item input = none) :
    connected connective item input = none := by
  simp only [connected]
  rw [separated, unread]
  rfl

/-- No term begins with a star. -/
theorem expression_star (depth : Nat) (rest : Fragment) :
    expression depth (.mark .star :: rest) = none := by
  cases depth with
  | zero => rfl
  | succ inner =>
      have unread : condition (expression inner) (.mark .star :: rest) = none := by
        simp [condition, comparison, sum, product, chained, factor]
      exact connected_of_none (connected_of_none unread)

/-- A parenthesis before anything but a star opens the arguments of a call. -/
theorem factor_call
    {nested : Reader Term}
    {name : String}
    {input : Fragment}
    (noStar : ∀ tail, input ≠ .mark .star :: tail) :
    factor nested (.raw name :: .mark .openParen :: input) =
      (arguments nested input).map fun (items, left) => (.call name items, left) := by
  rw [factor.eq_def]
  split
  case h_4 shape =>
    obtain ⟨_, _, rfl⟩ := by simpa only [List.cons.injEq] using shape
    exact absurd rfl (noStar _)
  all_goals simp_all

/-- A call is read with its arguments, of which there is at least one. -/
theorem reads_call
    (name : String)
    {parts : List Fragment}
    {terms : List Term}
    (nonempty : parts ≠ [])
    (reads : List.Forall₂ (Reads .disjunction) parts terms) :
    Reads .factor (.call name (.commas parts)) (.call name terms) := by
  intro depth rest bound _
  have shorter : (Fragment.commas parts).length < depth := by
    simp only [Fragment.call, List.length_cons, Fragment.length_parens] at bound
    omega
  have argumentsRead := arguments_commas nonempty reads shorter rest
  have noStar : ∀ tail, Fragment.commas parts ++ .mark .closeParen :: rest ≠
      .mark .star :: tail := by
    intro tail shape
    rw [shape, arguments, enclosed, separated, expression_star] at argumentsRead
    cases argumentsRead
  have shape : Fragment.call name (.commas parts) ++ rest =
      .raw name :: .mark .openParen :: (Fragment.commas parts ++ .mark .closeParen :: rest) := by
    simp [Fragment.call, Fragment.parens]
  change factor (expression depth) (Fragment.call name (.commas parts) ++ rest) = _
  rw [shape, factor_call noStar, argumentsRead, Option.map_some]

/-! ## Operations and tests -/

theorem Reads.sum_of_factor
    {fragment : Fragment}
    {term : Term}
    (reads : Reads .factor fragment term) :
    Reads .sum fragment term :=
  reads.product_of_factor.sum_of_product

/-- What follows an operation follows its right operand. -/
theorem length_operation_le
    {left right : Fragment}
    {operator : Operator}
    {depth : Nat}
    (bound : (left ++ .operator operator :: right).length ≤ depth) :
    left.length ≤ depth ∧ right.length ≤ depth := by
  simp only [List.length_append, List.length_cons] at bound
  omega

/-- Two factors with an operator between them are read at the level of the operator. -/
theorem reads_operation
    (operator : Operator)
    {left right : Fragment}
    {leftTerm rightTerm : Term}
    (leftReads : Reads .factor left leftTerm)
    (rightReads : Reads .factor right rightTerm) :
    Reads (.ofOperator operator) (left ++ .operator operator :: right)
      (.binary operator leftTerm rightTerm) := by
  intro depth rest bound ends
  obtain ⟨leftBound, rightBound⟩ := length_operation_le bound
  have shorter : rest.length ≤ (right ++ rest).length := by
    simp
  rw [List.append_assoc, List.cons_append]
  by_cases multiplicative : operator.isMultiplicative = true
  · have level : Level.ofOperator operator = .product := by
      simp [Level.ofOperator, multiplicative]
    rw [level] at ends ⊢
    exact chained_of_accepts multiplicative
      (leftReads depth _ leftBound (by simp [Level.ofChunk, level, Level.rank]))
      (rightReads depth rest rightBound (ends.tighter (by decide)))
      shorter ends.not_multiplicative
  · by_cases additive : operator.isAdditive = true
    · have level : Level.ofOperator operator = .sum := by
        simp [Level.ofOperator, multiplicative, additive]
      rw [level] at ends ⊢
      exact chained_of_accepts additive
        (leftReads.product_of_factor depth _ leftBound
          (by simp [Level.ofChunk, level, Level.rank]))
        (rightReads.product_of_factor depth rest rightBound (ends.tighter (by decide)))
        shorter ends.not_additive
    · have level : Level.ofOperator operator = .comparison := by
        simp [Level.ofOperator, multiplicative, additive]
      rw [level] at ends ⊢
      have leftRead := leftReads.sum_of_factor depth
        (.operator operator :: (right ++ rest)) leftBound
        (by simp [Level.ofChunk, level, Level.rank])
      have rightRead := rightReads.sum_of_factor depth rest rightBound
        (ends.tighter (by decide))
      change sum (expression depth) _ = _ at leftRead rightRead
      change comparison (expression depth) _ = _
      rw [comparison, leftRead, Option.bind_some]
      simp only [comparisonAfter, rightRead, Option.map_some]

/-- An operation of factors is read as a comparison, whatever its operator. -/
theorem reads_binary
    (operator : Operator)
    {left right : Fragment}
    {leftTerm rightTerm : Term}
    (leftReads : Reads .factor left leftTerm)
    (rightReads : Reads .factor right rightTerm) :
    Reads .comparison (left ++ .operator operator :: right)
      (.binary operator leftTerm rightTerm) := by
  have reads := reads_operation operator leftReads rightReads
  unfold Level.ofOperator at reads
  split at reads
  · exact reads.sum_of_product.comparison_of_sum
  · split at reads
    · exact reads.comparison_of_sum
    · exact reads

/-- A test of a factor is read as a comparison if what follows the factor is. -/
theorem reads_test
    {operand test : Fragment}
    {operandTerm term : Term}
    (operandReads : Reads .factor operand operandTerm)
    (testEnds : ∀ rest, Level.sum.Ends (test ++ rest))
    (testReads : ∀ depth rest, (operand ++ test).length ≤ depth →
      Level.comparison.Ends rest →
        comparisonAfter (expression depth) operandTerm (test ++ rest) = some (term, rest)) :
    Reads .comparison (operand ++ test) term := by
  intro depth rest bound ends
  have operandBound : operand.length ≤ depth := by
    rw [List.length_append] at bound
    omega
  have operandRead := operandReads.sum_of_factor depth (test ++ rest) operandBound
    (testEnds rest)
  change sum (expression depth) _ = _ at operandRead
  change comparison (expression depth) _ = _
  rw [List.append_assoc, comparison, operandRead, Option.bind_some]
  exact testReads depth rest bound ends

theorem reads_nullTest
    (negated : Bool)
    {operand : Fragment}
    {operandTerm : Term}
    (reads : Reads .factor operand operandTerm) :
    Reads .comparison (.nullTest negated operand) (.nullTest operandTerm negated) := by
  rw [Fragment.nullTest, List.append_assoc]
  refine reads_test reads ?_ ?_
  · intro rest
    simp [Level.ofChunk, Level.rank]
  · intro depth rest _ _
    cases negated <;> rfl

theorem reads_membership
    (negated : Bool)
    {operand : Fragment}
    {operandTerm : Term}
    {parts : List Fragment}
    {terms : List Term}
    (nonempty : parts ≠ [])
    (operandReads : Reads .factor operand operandTerm)
    (reads : List.Forall₂ (Reads .disjunction) parts terms) :
    Reads .comparison (.membership negated operand parts)
      (.membership operandTerm terms negated) := by
  rw [Fragment.membership, List.append_assoc]
  refine reads_test operandReads ?_ ?_
  · intro rest
    cases negated <;> simp [Fragment.keywordIf, Level.ofChunk, Level.rank]
  · intro depth rest bound _
    have shorter : (Fragment.commas parts).length < depth := by
      simp only [List.length_append, List.length_cons, Fragment.length_parens] at bound
      omega
    have argumentsRead := arguments_commas nonempty reads shorter rest
    cases negated <;>
      simp [Fragment.keywordIf, Fragment.parens, comparisonAfter, negatable, argumentsRead]

theorem reads_like
    (negated : Bool)
    {operand pattern : Fragment}
    {operandTerm patternTerm : Term}
    (operandReads : Reads .factor operand operandTerm)
    (patternReads : Reads .factor pattern patternTerm) :
    Reads .comparison (.like negated operand pattern)
      (.like operandTerm patternTerm negated) := by
  rw [Fragment.like, List.append_assoc]
  refine reads_test operandReads ?_ ?_
  · intro rest
    cases negated <;> simp [Fragment.keywordIf, Level.ofChunk, Level.rank]
  · intro depth rest bound ends
    have patternBound : pattern.length ≤ depth := by
      simp only [List.length_append, List.length_cons] at bound
      omega
    have patternRead := patternReads.sum_of_factor depth rest patternBound
      (ends.tighter (by decide))
    change sum (expression depth) _ = _ at patternRead
    cases negated <;>
      simp [Fragment.keywordIf, comparisonAfter, negatable, patternRead]

/-! ## Negations -/

theorem Reads.condition_of_factor
    {fragment : Fragment}
    {term : Term}
    (reads : Reads .factor fragment term) :
    Reads .condition fragment term :=
  reads.sum_of_factor.comparison_of_sum.condition_of_comparison

theorem Reads.disjunction_of_condition
    {fragment : Fragment}
    {term : Term}
    (reads : Reads .condition fragment term) :
    Reads .disjunction fragment term :=
  reads.conjunction_of_condition.disjunction_of_conjunction

theorem reads_negation
    {operand : Fragment}
    {term : Term}
    (reads : Reads .condition operand term) :
    Reads .condition (.keyword .notKw :: operand) (.negation term) := by
  intro depth rest bound ends
  have operandBound : operand.length ≤ depth := by
    rw [List.length_cons] at bound
    omega
  have operandRead := reads depth rest operandBound ends
  change condition (expression depth) _ = _ at operandRead
  change condition (expression depth) _ = _
  rw [List.cons_append, condition, operandRead, Option.map_some]

end Grammar
end TypedSql
