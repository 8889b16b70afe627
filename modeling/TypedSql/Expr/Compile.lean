import TypedSql.Expr.Scope
import TypedSql.Sql.Fragment

/-!
# Compilation of expressions

An expression is compiled to a fragment against a scope. Compound operands are
put in parentheses, comparisons with the null literal become null tests, and
membership in an empty list becomes a comparison of numbers that needs no
operand.
-/

namespace TypedSql

/-- A function that expressions may call, with the number of its arguments. -/
structure FunctionRule where
  name : String
  least : Nat
  /-- The greatest number of arguments, if there is one. -/
  greatest : Option Nat
  deriving DecidableEq

namespace FunctionRule

/-- The functions that expressions may call. -/
def supported : List FunctionRule :=
  [⟨"COUNT", 1, some 1⟩, ⟨"SUM", 1, some 1⟩, ⟨"AVG", 1, some 1⟩, ⟨"MIN", 1, some 1⟩,
   ⟨"MAX", 1, some 1⟩, ⟨"LOWER", 1, some 1⟩, ⟨"UPPER", 1, some 1⟩, ⟨"LENGTH", 1, some 1⟩,
   ⟨"ABS", 1, some 1⟩, ⟨"COALESCE", 1, none⟩]

/-- The function with a name, up to case. -/
def find? (name : String) : Option FunctionRule :=
  supported.find? fun rule => rule.name == Ascii.upper name

/-- Whether the function takes a number of arguments. -/
def accepts (rule : FunctionRule) (count : Nat) : Bool :=
  rule.least ≤ count && rule.greatest.all (count ≤ ·)

/-- The function that a call names, or why the call is not allowed. -/
def check (name : String) (count : Nat) : Except CompileError FunctionRule :=
  match find? name with
  | none => .error (.unsupportedFunction name)
  | some rule =>
      if rule.accepts count then .ok rule else .error (.argumentCount rule.name count)

end FunctionRule

namespace Fragment

/-- A fragment, in parentheses if asked for. -/
def parensIf (condition : Bool) (fragment : Fragment) : Fragment :=
  if condition then fragment.parens else fragment

/-- A keyword if asked for. -/
def keywordIf (condition : Bool) (word : Keyword) : Fragment :=
  if condition then [.keyword word] else []

/-- The test that an operand is null, or that it is not. -/
def nullTest (negated : Bool) (operand : Fragment) : Fragment :=
  operand ++ .keyword .isKw :: keywordIf negated .notKw ++ [.keyword .nullKw]

/-- The comparison that stands for membership in an empty list. -/
def emptyMembership (negated : Bool) : Fragment :=
  [.number 1, .operator .eq, .number (if negated then 1 else 0)]

/-- The test that an operand is among items, or that it is not. -/
def membership (negated : Bool) (operand : Fragment) (items : List Fragment) : Fragment :=
  operand ++ keywordIf negated .notKw ++ .keyword .inKw :: (commas items).parens

/-- The test that an operand matches a pattern, or that it does not. -/
def like (negated : Bool) (operand pattern : Fragment) : Fragment :=
  operand ++ keywordIf negated .notKw ++ .keyword .likeKw :: pattern

/-- The number of all rows. -/
def countRows : Fragment :=
  call "COUNT" [.mark .star]

/-- A column by the names that statements use. -/
def place (place : Place) : Fragment :=
  qualified place.table place.column

end Fragment

namespace Expr

/-- Which operand of a comparison is tested for null instead of being compared. -/
inductive NullOperand
  | left
  | right
  deriving DecidableEq

/-- The operand that a comparison with the null literal tests, and how. -/
def nullOperand? (operator : Operator) (left right : Expr) : Option (NullOperand × Bool) :=
  let side? : Option NullOperand :=
    if right.isNullLiteral then some .left
    else if left.isNullLiteral then some .right
    else none
  match operator with
  | .eq => side?.map (·, false)
  | .ne => side?.map (·, true)
  | _ => none

mutual

/-- The fragment of an expression; a name is allowed at its root if `nameable`. -/
def compileAt (scope : Scope) (nameable : Bool) : Expr → Except CompileError Fragment
  | .column reference => do
      let place ← scope.resolve reference
      return .place place
  | .literal value => return [.parameter value]
  | .binary operator left right =>
      match nullOperand? operator left right with
      | some (.left, negated) => do
          let operand ← compileAt scope false left
          return .nullTest negated (Fragment.parensIf left.isCompound operand)
      | some (.right, negated) => do
          let operand ← compileAt scope false right
          return .nullTest negated (Fragment.parensIf right.isCompound operand)
      | none => do
          let first ← compileAt scope false left
          let second ← compileAt scope false right
          return Fragment.parensIf left.isCompound first ++
            .operator operator :: Fragment.parensIf right.isCompound second
  | .group connective items =>
      if items.isEmpty then throw (.emptyGroup connective)
      else do
        let parts ← compileItems scope isGroup items
        return .join connective.token parts
  | .negation inner => do
      let operand ← compileAt scope false inner
      return .keyword .notKw :: Fragment.parensIf inner.isCompound operand
  | .nullTest inner negated => do
      let operand ← compileAt scope false inner
      return .nullTest negated (Fragment.parensIf inner.isCompound operand)
  | .membership operand items negated =>
      if items.isEmpty then return .emptyMembership negated
      else do
        let first ← compileAt scope false operand
        let parts ← compileItems scope (fun _ => false) items
        return .membership negated (Fragment.parensIf operand.isCompound first) parts
  | .like operand pattern negated => do
      let first ← compileAt scope false operand
      let second ← compileAt scope false pattern
      return .like negated (Fragment.parensIf operand.isCompound first)
        (Fragment.parensIf pattern.isCompound second)
  | .call function arguments => do
      let rule ← FunctionRule.check function arguments.length
      let parts ← compileItems scope (fun _ => false) arguments
      return .call rule.name (.commas parts)
  | .countRows => return .countRows
  | .named inner name =>
      if nameable then do
        let item ← compileAt scope false inner
        return .named item name
      else throw (.misplacedName name)

/-- The fragments of expressions, in parentheses where `wrap` says so. -/
def compileItems
    (scope : Scope)
    (wrap : Expr → Bool) :
    List Expr → Except CompileError (List Fragment)
  | [] => return []
  | item :: rest => do
      let first ← compileAt scope false item
      let others ← compileItems scope wrap rest
      return Fragment.parensIf (wrap item) first :: others

end

attribute [simp] compileAt compileItems

/-- The fragment of a condition or another expression without a name. -/
def compile (scope : Scope) (expr : Expr) : Except CompileError Fragment :=
  compileAt scope false expr

/-- The fragment of an item of a projection, which may have a name. -/
def compileProjection (scope : Scope) (expr : Expr) : Except CompileError Fragment :=
  compileAt scope true expr

end Expr
end TypedSql
