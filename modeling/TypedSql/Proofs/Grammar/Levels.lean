import Mathlib.Data.List.Forall2
import TypedSql.Proofs.Grammar.Reader

/-!
# Levels of the grammar

Which fragments are read at which level. A fragment read at one level is read
alike at every looser level, provided that what follows does not go on with the
term there. Parentheses lead from the loosest level to the tightest.
-/

namespace TypedSql
namespace Grammar

/-- The levels of the grammar, the tightest first. -/
inductive Level
  | factor
  | product
  | sum
  | comparison
  | condition
  | conjunction
  | disjunction
  deriving DecidableEq

namespace Level

/-- The reader of a level. -/
def reader (nested : Reader Term) : Level → Reader Term
  | .factor => Grammar.factor nested
  | .product => Grammar.product nested
  | .sum => Grammar.sum nested
  | .comparison => Grammar.comparison nested
  | .condition => Grammar.condition nested
  | .conjunction => Grammar.conjunction nested
  | .disjunction => Grammar.disjunction nested

/-- How loosely a level binds. -/
def rank : Level → Nat
  | .factor => 0
  | .product => 1
  | .sum => 2
  | .comparison => 3
  | .condition => 4
  | .conjunction => 5
  | .disjunction => 6

/-- The level of the terms that an operator makes. -/
def ofOperator (operator : Operator) : Level :=
  if operator.isMultiplicative then .product
  else if operator.isAdditive then .sum
  else .comparison

/-- The level at which a chunk goes on with the term before it, if there is one. -/
def ofChunk : Chunk → Option Level
  | .token (.operator operator) => some (ofOperator operator)
  | .token (.keyword .isKw) => some .comparison
  | .token (.keyword .notKw) => some .comparison
  | .token (.keyword .inKw) => some .comparison
  | .token (.keyword .likeKw) => some .comparison
  | .token (.keyword .andKw) => some .conjunction
  | .token (.keyword .orKw) => some .disjunction
  | _ => none

/-- Whether a term of the level ends before a fragment. -/
def Ends (level : Level) (rest : Fragment) : Prop :=
  ∀ chunk tail, rest = chunk :: tail →
    ∀ joint, ofChunk chunk = some joint → level.rank < joint.rank

@[simp] theorem ends_nil (level : Level) : level.Ends [] := by
  simp [Ends]

@[simp] theorem ends_cons (level : Level) (chunk : Chunk) (tail : Fragment) :
    level.Ends (chunk :: tail) ↔
      ∀ joint, ofChunk chunk = some joint → level.rank < joint.rank := by
  simp [Ends]

/-- A term of a level ends wherever one of a looser level does. -/
theorem Ends.tighter
    {tight loose : Level}
    {rest : Fragment}
    (ends : loose.Ends rest)
    (le : tight.rank ≤ loose.rank) :
    tight.Ends rest := by
  intro chunk tail shape joint goesOn
  exact Nat.lt_of_le_of_lt le (ends chunk tail shape joint goesOn)

theorem Ends.append
    {level : Level}
    {first second : Fragment}
    (firstEnds : level.Ends first)
    (secondEnds : level.Ends second) :
    level.Ends (first ++ second) := by
  cases first with
  | nil => exact secondEnds
  | cons chunk tail =>
      rw [ends_cons] at firstEnds
      rwa [List.cons_append, ends_cons]

/-- No operator makes terms that bind more loosely than a comparison. -/
theorem rank_ofOperator_le (operator : Operator) :
    (ofOperator operator).rank ≤ comparison.rank := by
  cases operator <;> decide

end Level

/-- A fragment is read as a term at a level, whatever follows that does not go on with it. -/
def Reads (level : Level) (fragment : Fragment) (term : Term) : Prop :=
  ∀ depth rest, fragment.length ≤ depth → level.Ends rest →
    level.reader (expression depth) (fragment ++ rest) = some (term, rest)

/-! ## Repetition -/

/-- Reading goes on as long as there are separators and items. -/
theorem separated_join
    {item : Reader α}
    {separator : Token}
    {rest : Fragment}
    {parts : List Fragment}
    {contents : List α}
    (nonempty : parts ≠ [])
    (read : List.Forall₂
      (fun part content => ∀ after,
        (after = rest ∨ ∃ tail, after = .token separator :: tail) →
          item (part ++ after) = some (content, after))
      parts contents)
    (ends : ∀ tail, rest ≠ .token separator :: tail) :
    separated (.token separator) item (Fragment.join separator parts ++ rest) =
      some (contents, rest) := by
  induction read with
  | nil => exact absurd rfl nonempty
  | @cons part content parts contents readFirst readOthers inductionHypothesis =>
      cases readOthers with
      | nil =>
          have firstRead := readFirst rest (.inl rfl)
          rw [Fragment.join_singleton, separated, firstRead]
          cases rest with
          | nil => rfl
          | cons next tail =>
              have different : next ≠ .token separator := by
                rintro rfl
                exact ends tail rfl
              simp [different]
      | @cons second secondContent others otherContents readSecond readOthers =>
          have othersRead := inductionHypothesis (List.cons_ne_nil second others)
          have firstRead := readFirst
            (.token separator :: (Fragment.join separator (second :: others) ++ rest))
            (.inr ⟨_, rfl⟩)
          rw [Fragment.join_cons_cons, List.append_assoc, List.cons_append, separated,
            firstRead]
          have shorter :
              (Fragment.join separator (second :: others) ++ rest).length <
                (part ++ .token separator ::
                  (Fragment.join separator (second :: others) ++ rest)).length := by
            simp only [List.length_append, List.length_cons]
            omega
          simp only [true_and, shorter, dite_true, othersRead, Option.map_some]

/-- An operand alone is read where no operator of the level follows. -/
theorem chained_of_ends
    {accepts : Operator → Bool}
    {operand : Reader Term}
    {only : Term}
    {input rest : Fragment}
    (read : operand input = some (only, rest))
    (ends : ∀ operator tail, rest = .token (.operator operator) :: tail →
      accepts operator = false) :
    chained accepts operand input = some (only, rest) := by
  simp only [chained, read, Option.bind_some]
  rw [operations.eq_def]
  split
  · next operator tail => simp [ends operator tail rfl]
  · rfl

/-- Two operands are read where no operator of the level follows. -/
theorem chained_of_accepts
    {accepts : Operator → Bool}
    {operand : Reader Term}
    {operator : Operator}
    {left right : Term}
    {input middle rest : Fragment}
    (accepted : accepts operator = true)
    (leftRead : operand input = some (left, .token (.operator operator) :: middle))
    (rightRead : operand middle = some (right, rest))
    (shorter : rest.length ≤ middle.length)
    (ends : ∀ operator tail, rest = .token (.operator operator) :: tail →
      accepts operator = false) :
    chained accepts operand input = some (.binary operator left right, rest) := by
  simp only [chained, leftRead, Option.bind_some]
  rw [operations.eq_def]
  simp only [accepted, rightRead, shorter, if_true, dite_true]
  rw [operations.eq_def]
  split
  · next operator tail => simp [ends operator tail rfl]
  · rfl

/-! ## Where a level ends -/

theorem Level.Ends.not_multiplicative
    {rest : Fragment}
    (ends : Level.product.Ends rest) :
    ∀ operator tail, rest = .token (.operator operator) :: tail →
      operator.isMultiplicative = false := by
  rintro operator tail rfl
  have looser := ends _ tail rfl _ rfl
  cases operator with
  | times => exact absurd looser (Nat.lt_irrefl _)
  | divide => exact absurd looser (Nat.lt_irrefl _)
  | _ => rfl

theorem Level.Ends.not_additive
    {rest : Fragment}
    (ends : Level.sum.Ends rest) :
    ∀ operator tail, rest = .token (.operator operator) :: tail →
      operator.isAdditive = false := by
  rintro operator tail rfl
  have looser := ends _ tail rfl _ rfl
  cases operator with
  | plus => exact absurd looser (Nat.lt_irrefl _)
  | minus => exact absurd looser (Nat.lt_irrefl _)
  | _ => rfl

/-! ## From a level to the next -/

theorem Reads.product_of_factor
    {fragment : Fragment}
    {term : Term}
    (reads : Reads .factor fragment term) :
    Reads .product fragment term := by
  intro depth rest bound ends
  exact chained_of_ends (reads depth rest bound (ends.tighter (by decide)))
    ends.not_multiplicative

theorem Reads.sum_of_product
    {fragment : Fragment}
    {term : Term}
    (reads : Reads .product fragment term) :
    Reads .sum fragment term := by
  intro depth rest bound ends
  exact chained_of_ends (reads depth rest bound (ends.tighter (by decide)))
    ends.not_additive

/-- Nothing is added to a sum where no comparison follows. -/
theorem comparisonAfter_of_ends
    {nested : Reader Term}
    {operand : Term}
    {rest : Fragment}
    (ends : Level.comparison.Ends rest) :
    comparisonAfter nested operand rest = some (operand, rest) := by
  unfold comparisonAfter
  split
  · next operator _ =>
    have looser := ends _ _ rfl _ rfl
    exact absurd looser (Nat.not_lt.mpr (Level.rank_ofOperator_le operator))
  case h_7 => rfl
  all_goals exact absurd (ends _ _ rfl _ rfl) (Nat.lt_irrefl _)

theorem Reads.comparison_of_sum
    {fragment : Fragment}
    {term : Term}
    (reads : Reads .sum fragment term) :
    Reads .comparison fragment term := by
  intro depth rest bound ends
  have sumRead := reads depth rest bound (ends.tighter (by decide))
  change comparison (expression depth) (fragment ++ rest) = _
  change sum (expression depth) (fragment ++ rest) = _ at sumRead
  rw [comparison, sumRead, Option.bind_some]
  exact comparisonAfter_of_ends ends

/-- A comparison does not begin with a negation. -/
theorem comparison_not (nested : Reader Term) (rest : Fragment) :
    comparison nested (.keyword .notKw :: rest) = none := by
  simp [comparison, sum, product, chained, factor]

theorem Reads.condition_of_comparison
    {fragment : Fragment}
    {term : Term}
    (reads : Reads .comparison fragment term) :
    Reads .condition fragment term := by
  intro depth rest bound ends
  have comparisonRead := reads depth rest bound (ends.tighter (by decide))
  change condition (expression depth) (fragment ++ rest) = _
  change comparison (expression depth) (fragment ++ rest) = _ at comparisonRead
  rw [condition.eq_def]
  split
  · next tail shape =>
    rw [shape, comparison_not] at comparisonRead
    cases comparisonRead
  · exact comparisonRead

/-! ## Groups -/

/-- The level of the groups of a connective. -/
def Level.ofConnective : Connective → Level
  | .and => .conjunction
  | .or => .disjunction

/-- The level of the items of groups of a connective. -/
def Level.ofItems : Connective → Level
  | .and => .condition
  | .or => .conjunction

/-- No item is longer than the items in a row. -/
theorem length_le_join
    (separator : Token)
    {parts : List Fragment}
    {part : Fragment}
    (member : part ∈ parts) :
    part.length ≤ (Fragment.join separator parts).length := by
  induction parts with
  | nil => cases member
  | cons first others inductionHypothesis =>
      cases others with
      | nil =>
          obtain rfl := List.mem_singleton.mp member
          simp
      | cons second rest =>
          rw [Fragment.join_cons_cons, List.length_append, List.length_cons]
          rcases List.mem_cons.mp member with rfl | inOthers
          · omega
          · have := inductionHypothesis inOthers
            omega

/-- Where a group of a connective ends or goes on, its items end. -/
theorem Level.ofItems_ends
    {connective : Connective}
    {rest after : Fragment}
    (ends : (Level.ofConnective connective).Ends rest)
    (next : after = rest ∨ ∃ tail, after = .token connective.token :: tail) :
    (Level.ofItems connective).Ends after := by
  rcases next with rfl | ⟨tail, rfl⟩
  · exact ends.tighter (by cases connective <;> decide)
  · rw [Level.ends_cons]
    rintro joint goesOn
    cases connective <;> cases goesOn <;> decide

/-- Items that are read one by one are read as a group. -/
theorem Reads.group
    (connective : Connective)
    {parts : List Fragment}
    {terms : List Term}
    (nonempty : parts ≠ [])
    (reads : List.Forall₂ (Reads (Level.ofItems connective)) parts terms) :
    Reads (Level.ofConnective connective) (Fragment.join connective.token parts)
      (.grouped connective terms) := by
  intro depth rest bound ends
  have itemsRead : List.Forall₂
      (fun part term => ∀ after,
        (after = rest ∨ ∃ tail, after = .token connective.token :: tail) →
          (Level.ofItems connective).reader (expression depth) (part ++ after) =
            some (term, after))
      parts terms := by
    have bounded := (List.forall₂_and_left _ _).mpr
      ⟨fun part member => Nat.le_trans (length_le_join connective.token member) bound, reads⟩
    refine bounded.imp ?_
    rintro part term ⟨partBound, partReads⟩ after next
    exact partReads depth after partBound (Level.ofItems_ends ends next)
  have separates : ∀ tail, rest ≠ .token connective.token :: tail := by
    rintro tail rfl
    cases connective <;> exact absurd (ends _ _ rfl _ rfl) (Nat.lt_irrefl _)
  have read := separated_join nonempty itemsRead separates
  cases connective <;>
    simp only [Level.ofConnective, Level.reader, Level.ofItems, conjunction, disjunction,
      connected] at read ⊢ <;>
    rw [read, Option.map_some]

theorem Reads.conjunction_of_condition
    {fragment : Fragment}
    {term : Term}
    (reads : Reads .condition fragment term) :
    Reads .conjunction fragment term := by
  have single := Reads.group .and (List.cons_ne_nil fragment []) (.cons reads .nil)
  rwa [Fragment.join_singleton, Term.grouped_singleton] at single

theorem Reads.disjunction_of_conjunction
    {fragment : Fragment}
    {term : Term}
    (reads : Reads .conjunction fragment term) :
    Reads .disjunction fragment term := by
  have single := Reads.group .or (List.cons_ne_nil fragment []) (.cons reads .nil)
  rwa [Fragment.join_singleton, Term.grouped_singleton] at single

/-! ## From the loosest level to the tightest -/

/-- A nested expression is read where no term goes on. -/
theorem Reads.nested
    {fragment rest : Fragment}
    {term : Term}
    {depth : Nat}
    (reads : Reads .disjunction fragment term)
    (bound : fragment.length < depth)
    (ends : Level.disjunction.Ends rest) :
    expression depth (fragment ++ rest) = some (term, rest) := by
  obtain ⟨inner, rfl⟩ := Nat.exists_eq_add_one_of_ne_zero (Nat.ne_zero_of_lt bound)
  exact reads inner rest (Nat.lt_succ_iff.mp bound) ends

theorem Reads.parens
    {fragment : Fragment}
    {term : Term}
    (reads : Reads .disjunction fragment term) :
    Reads .factor fragment.parens term := by
  intro depth rest bound _
  rw [Fragment.length_parens] at bound
  have innerRead : expression depth (fragment ++ .mark .closeParen :: rest) =
      some (term, .mark .closeParen :: rest) :=
    reads.nested (by omega) (by simp [Level.ofChunk])
  simp [Level.reader, Fragment.parens, factor, enclosed, innerRead]

/-- Arguments that are read one by one are read in parentheses. -/
theorem arguments_commas
    {parts : List Fragment}
    {terms : List Term}
    {depth : Nat}
    (nonempty : parts ≠ [])
    (reads : List.Forall₂ (Reads .disjunction) parts terms)
    (bound : (Fragment.commas parts).length < depth)
    (rest : Fragment) :
    arguments (expression depth) (Fragment.commas parts ++ .mark .closeParen :: rest) =
      some (terms, rest) := by
  have itemsRead : List.Forall₂
      (fun part term => ∀ after,
        (after = .mark .closeParen :: rest ∨ ∃ tail, after = .mark .comma :: tail) →
          expression depth (part ++ after) = some (term, after))
      parts terms := by
    have bounded := (List.forall₂_and_left _ _).mpr
      ⟨fun part member =>
        Nat.lt_of_le_of_lt (length_le_join (.mark .comma) member) bound, reads⟩
    refine bounded.imp ?_
    rintro part term ⟨partBound, partReads⟩ after next
    refine partReads.nested partBound ?_
    rcases next with rfl | ⟨tail, rfl⟩ <;> simp [Level.ofChunk]
  have read := separated_join nonempty itemsRead (by simp)
  simp only [arguments, enclosed, Fragment.commas, read]

end Grammar
end TypedSql
