import TypedSql.Proofs.Expr.Literals
import TypedSql.Proofs.Expr.Mask

/-!
# Expressions that differ in their literals

Two expressions are alike if they have the same form and literals that are null in the
same places. Masking makes them equal, and the literals that they bind correspond one to
one, so that a relation between the literals is one between the bound values.
-/

namespace TypedSql

/-- Values that are null both or neither are masked alike. -/
theorem Value.mask_eq
    {left right : Value}
    (sameNull : left.isNull = right.isNull) :
    left.mask = right.mask := by
  cases left <;> cases right <;>
    first
    | rfl
    | cases sameNull

namespace Expr

/-- Expressions of one form, with literals that are related and null in the same places. -/
inductive Alike (relates : Value → Value → Prop) : Expr → Expr → Prop
  | column (reference : ColumnRef) : Alike relates (.column reference) (.column reference)
  | literal {left right : Value}
      (sameNull : left.isNull = right.isNull)
      (related : relates left right) :
      Alike relates (.literal left) (.literal right)
  | binary {left right otherLeft otherRight : Expr}
      (operator : Operator)
      (first : Alike relates left otherLeft)
      (second : Alike relates right otherRight) :
      Alike relates (.binary operator left right) (.binary operator otherLeft otherRight)
  | group {items others : List Expr}
      (connective : Connective)
      (each : List.Forall₂ (Alike relates) items others) :
      Alike relates (.group connective items) (.group connective others)
  | negation {inner other : Expr} (operand : Alike relates inner other) :
      Alike relates (.negation inner) (.negation other)
  | nullTest {inner other : Expr} (negated : Bool) (operand : Alike relates inner other) :
      Alike relates (.nullTest inner negated) (.nullTest other negated)
  | membership {operand other : Expr} {items others : List Expr}
      (negated : Bool)
      (first : Alike relates operand other)
      (each : List.Forall₂ (Alike relates) items others) :
      Alike relates (.membership operand items negated) (.membership other others negated)
  | like {operand other pattern otherPattern : Expr}
      (negated : Bool)
      (first : Alike relates operand other)
      (second : Alike relates pattern otherPattern) :
      Alike relates (.like operand pattern negated) (.like other otherPattern negated)
  | call {arguments others : List Expr}
      (function : String)
      (each : List.Forall₂ (Alike relates) arguments others) :
      Alike relates (.call function arguments) (.call function others)
  | countRows : Alike relates .countRows .countRows
  | named {inner other : Expr} (name : String) (item : Alike relates inner other) :
      Alike relates (.named inner name) (.named other name)

variable {relates : Value → Value → Prop}

/-! ## Masks -/

theorem map_mask_eq
    {items others : List Expr}
    (each : List.Forall₂ (Alike relates) items others)
    (itemHypothesis : ∀ item ∈ items, ∀ other, Alike relates item other →
      item.mask = other.mask) :
    items.map mask = others.map mask := by
  induction each with
  | nil => rfl
  | cons first _ inductionHypothesis =>
      rw [List.map_cons, List.map_cons, itemHypothesis _ List.mem_cons_self _ first,
        inductionHypothesis fun item member => itemHypothesis item (List.mem_cons_of_mem _ member)]

/-- Masked, expressions that are alike are the same. -/
theorem mask_eq_of_alike (left : Expr) :
    ∀ right, Alike relates left right → left.mask = right.mask := by
  induction left using Expr.inductionOn with
  | column reference =>
      intro right alike
      cases alike with
      | column _ => rfl
  | literal value =>
      intro right alike
      cases alike with
      | literal sameNull _ => rw [mask, mask, Value.mask_eq sameNull]
  | binary operator left right leftHypothesis rightHypothesis =>
      intro right alike
      cases alike with
      | binary _ first second =>
          rw [mask, mask, leftHypothesis _ first, rightHypothesis _ second]
  | group connective items itemHypothesis =>
      intro right alike
      cases alike with
      | group _ each => simp [map_mask_eq each itemHypothesis]
  | negation inner innerHypothesis =>
      intro right alike
      cases alike with
      | negation operand => rw [mask, mask, innerHypothesis _ operand]
  | nullTest inner negated innerHypothesis =>
      intro right alike
      cases alike with
      | nullTest _ operand => rw [mask, mask, innerHypothesis _ operand]
  | membership operand items negated operandHypothesis itemHypothesis =>
      intro right alike
      cases alike with
      | membership _ first each =>
          simp [operandHypothesis _ first, map_mask_eq each itemHypothesis]
  | like operand pattern negated operandHypothesis patternHypothesis =>
      intro right alike
      cases alike with
      | like _ first second =>
          rw [mask, mask, operandHypothesis _ first, patternHypothesis _ second]
  | call function arguments argumentHypothesis =>
      intro right alike
      cases alike with
      | call _ each => simp [map_mask_eq each argumentHypothesis]
  | countRows =>
      intro right alike
      cases alike with
      | countRows => rfl
  | named inner name innerHypothesis =>
      intro right alike
      cases alike with
      | named _ item => rw [mask, mask, innerHypothesis _ item]

/-- Expressions that are alike are the null literal both or neither. -/
theorem isNullLiteral_of_alike {left right : Expr} (alike : Alike relates left right) :
    left.isNullLiteral = right.isNullLiteral := by
  rw [← isNullLiteral_mask left, mask_eq_of_alike left right alike, isNullLiteral_mask]

/-! ## Literals -/

theorem literalsOf_related
    {items others : List Expr}
    (each : List.Forall₂ (Alike relates) items others)
    (itemHypothesis : ∀ item ∈ items, ∀ other, Alike relates item other →
      List.Forall₂ relates item.literals other.literals) :
    List.Forall₂ relates (literalsOf items) (literalsOf others) := by
  induction each with
  | nil => exact .nil
  | cons first _ inductionHypothesis =>
      apply List.rel_append (itemHypothesis _ List.mem_cons_self _ first)
      apply inductionHypothesis
      intro item member
      exact itemHypothesis item (List.mem_cons_of_mem _ member)

/-- The literals that expressions bind are related, one by one, where these are alike. -/
theorem literals_related (left : Expr) :
    ∀ right, Alike relates left right →
      List.Forall₂ relates left.literals right.literals := by
  induction left using Expr.inductionOn with
  | column reference =>
      intro right alike
      cases alike with
      | column _ => exact .nil
  | literal value =>
      intro right alike
      cases alike with
      | literal _ related => exact .cons related .nil
  | binary operator left right leftHypothesis rightHypothesis =>
      intro right alike
      cases alike with
      | binary _ first second =>
          have firstRelated := leftHypothesis _ first
          have secondRelated := rightHypothesis _ second
          rw [literals, literals, ← isNullLiteral_of_alike first, ← isNullLiteral_of_alike second]
          split
          · exact firstRelated
          · split
            · exact secondRelated
            · exact List.rel_append firstRelated secondRelated
  | group connective items itemHypothesis =>
      intro right alike
      cases alike with
      | group _ each => exact literalsOf_related each itemHypothesis
  | negation inner innerHypothesis =>
      intro right alike
      cases alike with
      | negation operand =>
          rw [literals, literals]
          exact innerHypothesis _ operand
  | nullTest inner negated innerHypothesis =>
      intro right alike
      cases alike with
      | nullTest _ operand =>
          rw [literals, literals]
          exact innerHypothesis _ operand
  | membership operand items negated operandHypothesis itemHypothesis =>
      intro right alike
      cases alike with
      | membership _ first each =>
          cases each with
          | nil => exact .nil
          | cons itemAlike rest =>
              have itemsRelated := literalsOf_related (.cons itemAlike rest) itemHypothesis
              exact List.rel_append (operandHypothesis _ first) itemsRelated
  | like operand pattern negated operandHypothesis patternHypothesis =>
      intro right alike
      cases alike with
      | like _ first second =>
          exact List.rel_append (operandHypothesis _ first) (patternHypothesis _ second)
  | call function arguments argumentHypothesis =>
      intro right alike
      cases alike with
      | call _ each => exact literalsOf_related each argumentHypothesis
  | countRows =>
      intro right alike
      cases alike with
      | countRows => exact .nil
  | named inner name innerHypothesis =>
      intro right alike
      cases alike with
      | named _ item =>
          rw [literals, literals]
          exact innerHypothesis _ item

end Expr
end TypedSql
