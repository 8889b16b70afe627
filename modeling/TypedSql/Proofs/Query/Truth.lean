import TypedSql.Proofs.Grammar.Compile

/-!
# Truth values of conditions

The three truth values of conditions on rows, and the value of a group of
conditions when the values of its members are given. Everything that is not a
group is given its value as a whole.
-/

namespace TypedSql

/-- The truth values of a condition on a row. -/
inductive Truth
  | holds
  | fails
  | unknown
  deriving DecidableEq

namespace Truth

/-- Both conditions hold; one that fails decides. -/
def and : Truth → Truth → Truth
  | .fails, _ => .fails
  | _, .fails => .fails
  | .holds, .holds => .holds
  | _, _ => .unknown

/-- One of the conditions holds; one that holds decides. -/
def or : Truth → Truth → Truth
  | .holds, _ => .holds
  | _, .holds => .holds
  | .fails, .fails => .fails
  | _, _ => .unknown

end Truth

namespace Connective

/-- The value of two conditions under a connective. -/
def apply : Connective → Truth → Truth → Truth
  | .and => Truth.and
  | .or => Truth.or

/-- The value of no conditions under a connective. -/
def neutral : Connective → Truth
  | .and => .holds
  | .or => .fails

/-- The value of conditions under a connective. -/
def fold (connective : Connective) (values : List Truth) : Truth :=
  values.foldr connective.apply connective.neutral

theorem apply_assoc (connective : Connective) (first second third : Truth) :
    connective.apply (connective.apply first second) third =
      connective.apply first (connective.apply second third) := by
  cases connective <;> cases first <;> cases second <;> cases third <;> rfl

@[simp] theorem apply_neutral (connective : Connective) (value : Truth) :
    connective.apply value connective.neutral = value := by
  cases connective <;> cases value <;> rfl

@[simp] theorem neutral_apply (connective : Connective) (value : Truth) :
    connective.apply connective.neutral value = value := by
  cases connective <;> cases value <;> rfl

@[simp] theorem fold_singleton (connective : Connective) (value : Truth) :
    connective.fold [value] = value :=
  connective.apply_neutral value

@[simp] theorem fold_pair (connective : Connective) (first second : Truth) :
    connective.fold [first, second] = connective.apply first second := by
  rw [fold, List.foldr_cons, List.foldr_cons, List.foldr_nil, apply_neutral]

theorem fold_append (connective : Connective) (front back : List Truth) :
    connective.fold (front ++ back) =
      connective.apply (connective.fold front) (connective.fold back) := by
  induction front with
  | nil => exact (connective.neutral_apply _).symm
  | cons first others inductionHypothesis =>
      change connective.apply first (connective.fold (others ++ back)) = _
      rw [inductionHypothesis, ← apply_assoc]
      rfl

end Connective

namespace Term

mutual

/-- The value of a term when the terms that are no groups have the assigned values. -/
def truth (assignment : Term → Truth) : Term → Truth
  | .group connective items => connective.fold (truths assignment items)
  | other => assignment other

/-- The values of terms. -/
def truths (assignment : Term → Truth) : List Term → List Truth
  | [] => []
  | item :: rest => item.truth assignment :: truths assignment rest

end

@[simp] theorem truths_eq_map (assignment : Term → Truth) (items : List Term) :
    truths assignment items = items.map (truth assignment) := by
  induction items with
  | nil => rfl
  | cons item rest inductionHypothesis => rw [truths, inductionHypothesis, List.map_cons]

theorem truth_grouped
    (assignment : Term → Truth)
    (connective : Connective)
    (items : List Term) :
    (grouped connective items).truth assignment =
      connective.fold (items.map (truth assignment)) := by
  unfold grouped
  split
  · simp
  · rw [truth, truths_eq_map]

end Term

namespace Expr

mutual

/--
The value of a predicate when the terms of its members that are no groups have the
assigned values.
-/
def truth (scope : Scope) (assignment : Term → Truth) : Expr → Truth
  | .group connective items => connective.fold (truths scope assignment items)
  | other => assignment (other.term scope)

/-- The values of predicates. -/
def truths (scope : Scope) (assignment : Term → Truth) : List Expr → List Truth
  | [] => []
  | item :: rest => item.truth scope assignment :: truths scope assignment rest

end

@[simp] theorem truths_eq_map
    (scope : Scope)
    (assignment : Term → Truth)
    (items : List Expr) :
    truths scope assignment items = items.map (truth scope assignment) := by
  induction items with
  | nil => rfl
  | cons item rest inductionHypothesis => rw [truths, inductionHypothesis, List.map_cons]

/-- Combined conditions have the value of the two under the connective. -/
theorem truth_combine
    (scope : Scope)
    (assignment : Term → Truth)
    (connective : Connective)
    (left right : Expr) :
    (combine connective left right).truth scope assignment =
      connective.apply (left.truth scope assignment) (right.truth scope assignment) := by
  unfold combine
  split
  · next inner items =>
    split
    · next same =>
      subst same
      simp only [truth, truths_eq_map, List.map_append, List.map_singleton]
      rw [Connective.fold_append, Connective.fold_singleton]
    · simp only [truth, truths, Connective.fold_pair]
  · simp only [truth, truths, Connective.fold_pair]

/-- A predicate that compiles has the value of its term. -/
theorem truth_term
    {scope : Scope}
    (assignment : Term → Truth)
    (expr : Expr) :
    ∀ fragment, expr.compile scope = .ok fragment →
      (expr.term scope).truth assignment = expr.truth scope assignment := by
  induction expr using Expr.inductionOn with
  | group connective items itemHypothesis =>
      intro fragment compiled
      obtain ⟨_, parts, itemsCompiled, _⟩ := compileAt_group.mp compiled
      rw [term, terms_eq_map, Term.truth_grouped, truth, truths_eq_map, List.map_map]
      congr 1
      apply List.map_congr_left
      intro item member
      obtain ⟨part, itemCompiled⟩ := compileAt_of_mem itemsCompiled member
      exact itemHypothesis item member part itemCompiled
  | binary operator left right _ _ =>
      intro _ _
      rw [truth, term]
      split
      · rfl
      · split <;> rfl
      all_goals simp
  | membership operand items negated _ _ =>
      intro _ _
      rw [truth, term]
      split <;> rfl
      all_goals simp
  | named inner name _ =>
      intro fragment compiled
      cases (compileAt_named.mp compiled).1
  | _ => intros; rfl

end Expr
end TypedSql
