import TypedSql.Proofs.Grammar.Term

/-!
# Reading terms from fragments

The grammar of expressions by precedence. A disjunction joins conjunctions, a
conjunction joins conditions, a condition is a comparison under any number of
negations, a comparison relates at most two sums, a sum joins products, and a
product joins factors. A factor is a column, a parameter, a number, a call, or a
term in parentheses.

Each level is a reader over the level below it. Parentheses lead back to the top
level, whose reader is passed down as `nested`.
-/

namespace TypedSql

namespace Operator

/-- The operators that join factors. -/
def isMultiplicative : Operator → Bool
  | .times => true
  | .divide => true
  | _ => false

/-- The operators that join products. -/
def isAdditive : Operator → Bool
  | .plus => true
  | .minus => true
  | _ => false

end Operator

namespace Grammar

/-- Reads something from the start of a fragment and leaves the rest. -/
abbrev Reader (α : Type) := Fragment → Option (α × Fragment)

/-! ## Repetition -/

/-- Items with a separator between neighbours, as many as there are. -/
def separated
    (separator : Chunk)
    (item : Reader α)
    (input : Fragment) :
    Option (List α × Fragment) :=
  match item input with
  | none => none
  | some (first, []) => some ([first], [])
  | some (first, next :: rest) =>
      if _more : next = separator ∧ rest.length < input.length then
        (separated separator item rest).map fun (others, left) => (first :: others, left)
      else some ([first], next :: rest)
termination_by input.length
decreasing_by exact _more.2

/-- The operators of one level and their right operands, the first operand being read. -/
def operations
    (accepts : Operator → Bool)
    (operand : Reader Term)
    (left : Term)
    (input : Fragment) :
    Option (Term × Fragment) :=
  match input with
  | .token (.operator operator) :: rest =>
      if accepts operator then
        match operand rest with
        | none => none
        | some (right, after) =>
            if _shorter : after.length ≤ rest.length then
              operations accepts operand (.binary operator left right) after
            else none
      else some (left, .token (.operator operator) :: rest)
  | other => some (left, other)
termination_by input.length
decreasing_by simp only [List.length_cons]; omega

/-- Operands with the operators of one level between them, from left to right. -/
def chained (accepts : Operator → Bool) (operand : Reader Term) : Reader Term := fun input =>
  (operand input).bind fun (first, rest) => operations accepts operand first rest

/-- What a reader reads, up to a closing parenthesis. -/
def enclosed (reader : Reader α) : Reader α := fun input =>
  match reader input with
  | some (content, .token (.mark .closeParen) :: rest) => some (content, rest)
  | _ => none

/-! ## Levels -/

section Levels

variable (nested : Reader Term)

/-- Terms with commas between them, up to a closing parenthesis. -/
def arguments : Reader (List Term) :=
  enclosed (separated (.mark .comma) nested)

/-- A column, a parameter, a number, a call, or a term in parentheses. -/
def factor : Reader Term
  | .identifier table :: .token (.mark .dot) :: .identifier column :: rest =>
      some (.column ⟨table, column⟩, rest)
  | .parameter value :: rest => some (.parameter value, rest)
  | .number count :: rest => some (.number count, rest)
  | .raw name :: .token (.mark .openParen) :: .token (.mark .star) ::
      .token (.mark .closeParen) :: rest =>
      if name = "COUNT" then some (.countRows, rest) else none
  | .raw name :: .token (.mark .openParen) :: rest =>
      (arguments nested rest).map fun (items, left) => (.call name items, left)
  | .token (.mark .openParen) :: rest => enclosed nested rest
  | _ => none

/-- Factors that are multiplied and divided. -/
def product : Reader Term := chained Operator.isMultiplicative (factor nested)

/-- Products that are added and subtracted. -/
def sum : Reader Term := chained Operator.isAdditive (product nested)

/-- The rest of a test that may be negated, after its operand and the negation. -/
def negatable (negated : Bool) (operand : Term) : Reader Term
  | .token (.keyword .inKw) :: .token (.mark .openParen) :: rest =>
      (arguments nested rest).map fun (items, left) =>
        (.membership operand items negated, left)
  | .token (.keyword .likeKw) :: rest =>
      (sum nested rest).map fun (pattern, left) => (.like operand pattern negated, left)
  | _ => none

/-- The rest of a comparison, after its left operand. -/
def comparisonAfter (operand : Term) : Reader Term
  | .token (.operator operator) :: rest =>
      (sum nested rest).map fun (right, left) => (.binary operator operand right, left)
  | .token (.keyword .isKw) :: .token (.keyword .nullKw) :: rest =>
      some (.nullTest operand false, rest)
  | .token (.keyword .isKw) :: .token (.keyword .notKw) :: .token (.keyword .nullKw) :: rest =>
      some (.nullTest operand true, rest)
  | .token (.keyword .notKw) :: rest => negatable nested true operand rest
  | .token (.keyword .inKw) :: rest =>
      negatable nested false operand (.token (.keyword .inKw) :: rest)
  | .token (.keyword .likeKw) :: rest =>
      negatable nested false operand (.token (.keyword .likeKw) :: rest)
  | rest => some (operand, rest)

/-- A sum, or a test of one or two sums. Tests are not tested in turn. -/
def comparison : Reader Term := fun input =>
  (sum nested input).bind fun (operand, rest) => comparisonAfter nested operand rest

/-- A comparison under any number of negations. -/
def condition : Reader Term
  | .token (.keyword .notKw) :: rest =>
      (condition rest).map fun (inner, left) => (.negation inner, left)
  | input => comparison nested input

/-- Terms under one connective, or a single term. -/
def connected (connective : Connective) (item : Reader Term) : Reader Term := fun input =>
  (separated (.token connective.token) item input).map fun (items, rest) =>
    (.grouped connective items, rest)

/-- Conditions all of which are to hold. -/
def conjunction : Reader Term := connected .and (condition nested)

/-- Conjunctions one of which is to hold. -/
def disjunction : Reader Term := connected .or (conjunction nested)

end Levels

/-- A term in which parentheses are nested less than `depth` deep. -/
def expression : Nat → Reader Term
  | 0 => fun _ => none
  | depth + 1 => disjunction (expression depth)

end Grammar

namespace Term

/-- The term at the start of a fragment, and what follows it. -/
def read (fragment : Fragment) : Option (Term × Fragment) :=
  Grammar.expression (fragment.length + 1) fragment

/-- The term of a whole fragment. -/
def parse (fragment : Fragment) : Option Term :=
  match read fragment with
  | some (term, []) => some term
  | _ => none

/-- A conjunction binds tighter than a disjunction, and a sum tighter than a comparison. -/
example :
    parse [.number 1, .keyword .orKw, .number 2, .keyword .andKw, .keyword .notKw, .number 3,
        .operator .lt, .number 4, .operator .minus, .number 5, .operator .minus, .number 6] =
      some (.group .or [.number 1, .group .and [.number 2, .negation (.binary .lt (.number 3)
        (.binary .minus (.binary .minus (.number 4) (.number 5)) (.number 6)))]]) := by
  cbv

/-- Comparisons are not compared. -/
example :
    parse [.number 1, .operator .eq, .number 2, .operator .eq, .number 3] = none := by
  cbv

end Term

/-- The item of a whole fragment: a term, and the name at its end, if there is one. -/
def Item.parse (fragment : Fragment) : Option Item :=
  match Term.read fragment with
  | some (term, []) => some ⟨term, none⟩
  | some (term, [.token (.keyword .asKw), .identifier name]) => some ⟨term, some name⟩
  | _ => none

end TypedSql
