import TypedSql.Proofs.Outcome
import TypedSql.Proofs.Record.Feed
import TypedSql.Relation.Load

/-!
# The errors that rows cause

What a row of a result can cause is that a cell does not convert, that the row is too short,
or that a count grows too large. None of this is an error of compilation or a cancellation,
provided that a tuple is read from as many groups of columns as it has elements.
-/

namespace TypedSql

/-- Whether a row of a result can cause the error. -/
def Error.isOfRow : Error → Bool
  | .execution _ => true
  | .conversion _ => true
  | _ => false

variable {dialect : Dialect} {row : Row} {error : Error}

namespace Mapper

theorem isOfRow_of_applyFrom
    {column : Nat}
    {slots : List (Option Nat)}
    {record : Record}
    (failed : (applyFrom dialect column slots record row).1 = .error error) :
    error.isOfRow = true := by
  induction slots generalizing column record row with
  | nil => cases failed
  | cons slot slots inductionHypothesis =>
      rcases applyFrom_cons dialect record row column slots slot with
        ⟨_, result⟩ | ⟨feed, _, _, result⟩
      · rw [result] at failed
        exact inductionHypothesis failed
      · rw [result] at failed
        split at failed
        · exact inductionHypothesis failed
        · cases failed
          rfl

theorem isOfRow_of_materialize
    {mapper : Mapper}
    (failed : (mapper.materialize dialect row).1 = .error error) :
    error.isOfRow = true := by
  unfold materialize at failed
  split at failed
  · cases failed
  · next cause record rest applied =>
    cases failed
    exact isOfRow_of_applyFrom (congrArg Prod.fst applied)

end Mapper

/-- A tuple is refused because of a row, or because it has more elements than groups. -/
theorem isOfRow_or_of_readTupleFrom
    {total count position : Nat}
    {mappers : List Mapper}
    (failed : (readTupleFrom dialect total count position mappers row).1 = .error error) :
    error.isOfRow = true ∨
      (mappers.length < count ∧ ∃ cause, error = .compilation cause) := by
  induction count generalizing position mappers row with
  | zero => cases failed
  | succ count inductionHypothesis =>
      cases mappers with
      | nil =>
          cases failed
          exact .inr ⟨Nat.zero_lt_succ count, _, rfl⟩
      | cons mapper mappers =>
          rw [readTupleFrom] at failed
          split at failed
          · next cause rest materialized =>
            cases failed
            exact .inl (Mapper.isOfRow_of_materialize (congrArg Prod.fst materialized))
          · split at failed
            · cases failed
            · next cause left others =>
              cases failed
              rcases inductionHypothesis (congrArg Prod.fst others) with ofRow | ⟨few, compiled⟩
              · exact .inl ofRow
              · exact .inr ⟨Nat.succ_lt_succ few, compiled⟩

theorem isOfRow_of_readScalar
    {type : FieldType}
    (failed : (readScalar dialect type row).1 = .error error) :
    error.isOfRow = true := by
  unfold readScalar at failed
  split at failed
  · cases failed
  · split at failed
    · cases failed
    · cases failed
      rfl

namespace Database

variable {database : Database}

/-- Only a row makes the step fail. -/
def FailsByRows {σ : Type} (step : σ → Row → Except Error σ) : Prop :=
  ∀ state row error, step state row = .error error → error.isOfRow = true

theorem recordStep_failsByRows
    (database : Database)
    (shape : Shape)
    (only : Restriction) :
    FailsByRows (database.recordStep shape only) := by
  intro records row error failed
  rcases bind_eq_error.mp failed with read | ⟨record, _, returned⟩
  · exact Mapper.isOfRow_of_materialize read
  · cases returned

theorem scalarStep_failsByRows (database : Database) (type : FieldType) :
    FailsByRows (database.scalarStep type) := by
  intro value row error failed
  rcases bind_eq_error.mp failed with read | ⟨cell, _, returned⟩
  · exact isOfRow_of_readScalar read
  · cases returned

theorem countStep_failsByRows (database : Database) : FailsByRows database.countStep := by
  intro total row error failed
  rcases bind_eq_error.mp failed with read | ⟨cell, _, added⟩
  · exact isOfRow_of_readScalar read
  · split at added
    · cases added
    · cases added
      rfl

theorem rowStep_failsByRows : FailsByRows rowStep := by
  intro rows row error failed
  rw [rowStep] at failed
  cases failed

/-- A tuple is refused because of a row, or because the layout has too few groups. -/
theorem isOfRow_or_of_tupleStep
    {layout : Layout}
    {arity : Nat}
    {tuples : List (List Record)}
    (failed : database.tupleStep layout arity tuples row = .error error) :
    error.isOfRow = true ∨
      (layout.groups.length < arity ∧ ∃ cause, error = .compilation cause) := by
  unfold tupleStep at failed
  split at failed
  · cases failed
    exact .inl rfl
  · rcases bind_eq_error.mp failed with read | ⟨tuple, _, returned⟩
    · have groups := isOfRow_or_of_readTupleFrom read
      rwa [Mapper.ofLayout, List.length_map] at groups
    · cases returned

end Database

theorem Layout.length_groupsFrom
    (only : Restriction)
    (shapes : List Shape)
    (position offset : Nat) :
    (groupsFrom only shapes position offset).length = shapes.length := by
  induction shapes generalizing position offset with
  | nil => rfl
  | cons shape shapes inductionHypothesis =>
      rw [groupsFrom, List.length_cons, List.length_cons, inductionHypothesis]

/-- A layout has one group for each shape. -/
theorem Layout.length_groups_of_ofShapes
    {shapes : List Shape}
    {only : Restriction}
    {layout : Layout}
    (composed : ofShapes shapes only = .ok layout) :
    layout.groups.length = shapes.length := by
  unfold ofShapes at composed
  split at composed
  · cases composed
  · split at composed
    · cases composed
    · cases composed
      exact length_groupsFrom only shapes 0 0

namespace Database

variable {database : Database}

/-- Tuples of as many elements as the layout was made for fail by rows only. -/
theorem tupleStep_failsByRows
    {query : Query}
    {shapes : List Shape}
    {statement : Statement}
    {layout : Layout}
    (compiled : query.toMultiSelect shapes = .ok (statement, layout)) :
    FailsByRows (database.tupleStep layout shapes.length) := by
  intro tuples row error failed
  rcases isOfRow_or_of_tupleStep failed with ofRow | ⟨few, _⟩
  · exact ofRow
  · unfold Query.toMultiSelect at compiled
    split at compiled
    · cases compiled
    · obtain ⟨composedLayout, composed, returned⟩ := bind_eq_ok.mp compiled
      cases returned
      rw [Layout.length_groups_of_ofShapes composed] at few
      exact absurd few (Nat.lt_irrefl _)

end Database
end TypedSql
