import TypedSql.Proofs.Expr.Compile

/-!
# Expressions with their literals masked

Masking puts one and the same value in the place of every literal that is not null.
It changes nothing that the compiler looks at, so a masked expression compiles to the
masked fragment, and masked fragments have the texts of the fragments.
-/

namespace TypedSql

/-- What is left of a value when its contents are hidden: whether it is null. -/
def Value.mask : Value → Value
  | .null => .null
  | _ => .boolean true

/-- A chunk whose value is masked if it is a parameter. -/
def Chunk.mask : Chunk → Chunk
  | .parameter value => .parameter value.mask
  | chunk => chunk

/-! ## Fragments -/

namespace Fragment

/-- A fragment whose bound values are masked. -/
def mask (fragment : Fragment) : Fragment :=
  fragment.map Chunk.mask

@[simp] theorem mask_nil : mask [] = [] := rfl

@[simp] theorem mask_parameter (value : Value) (rest : Fragment) :
    mask (.parameter value :: rest) = .parameter value.mask :: mask rest := rfl

@[simp] theorem mask_token (symbol : Token) (rest : Fragment) :
    mask (.token symbol :: rest) = .token symbol :: mask rest := rfl

@[simp] theorem mask_identifier (name : String) (rest : Fragment) :
    mask (.identifier name :: rest) = .identifier name :: mask rest := rfl

@[simp] theorem mask_raw (content : String) (rest : Fragment) :
    mask (.raw content :: rest) = .raw content :: mask rest := rfl

@[simp] theorem mask_append (front back : Fragment) :
    mask (front ++ back) = front.mask ++ back.mask :=
  List.map_append

@[simp] theorem mask_qualified (table column : String) :
    (qualified table column).mask = qualified table column := rfl

@[simp] theorem mask_place (place : Place) : (Fragment.place place).mask = .place place := rfl

@[simp] theorem mask_parens (fragment : Fragment) :
    fragment.parens.mask = fragment.mask.parens := by
  simp [parens]

@[simp] theorem mask_parensIf (condition : Bool) (fragment : Fragment) :
    (parensIf condition fragment).mask = parensIf condition fragment.mask := by
  cases condition <;> simp [parensIf]

@[simp] theorem mask_keywordIf (condition : Bool) (word : Keyword) :
    (keywordIf condition word).mask = keywordIf condition word := by
  cases condition <;> rfl

@[simp] theorem mask_named (fragment : Fragment) (name : String) :
    (fragment.named name).mask = fragment.mask.named name := by
  simp [named]

@[simp] theorem mask_join (separator : Token) (parts : List Fragment) :
    (join separator parts).mask = join separator (parts.map mask) := by
  induction parts with
  | nil => rfl
  | cons first others inductionHypothesis =>
      cases others with
      | nil => simp
      | cons second rest =>
          rw [join_cons_cons, mask_append, mask_token, inductionHypothesis]
          simp

@[simp] theorem mask_commas (parts : List Fragment) :
    (commas parts).mask = commas (parts.map mask) :=
  mask_join _ parts

@[simp] theorem mask_nullTest (negated : Bool) (operand : Fragment) :
    (nullTest negated operand).mask = nullTest negated operand.mask := by
  simp [nullTest]

@[simp] theorem mask_membership (negated : Bool) (operand : Fragment) (items : List Fragment) :
    (membership negated operand items).mask =
      membership negated operand.mask (items.map mask) := by
  simp [membership]

@[simp] theorem mask_like (negated : Bool) (operand pattern : Fragment) :
    (like negated operand pattern).mask = like negated operand.mask pattern.mask := by
  simp [like]

@[simp] theorem mask_call (name : String) (arguments : Fragment) :
    (call name arguments).mask = call name arguments.mask := by
  simp [call]

@[simp] theorem mask_emptyMembership (negated : Bool) :
    (emptyMembership negated).mask = emptyMembership negated := rfl

@[simp] theorem mask_countRows : countRows.mask = countRows := rfl

/-! ## Texts -/

/-- Whether a blank is written between two chunks does not depend on their values. -/
theorem needsBlank_mask (current next : Chunk) :
    current.mask.needsBlank next.mask = current.needsBlank next := by
  -- The rule of the blank looks into tokens, so they are taken apart on either side.
  rcases current with (_ | (_ | _ | _ | _ | _) | _) | _ | _ | _ | _ <;>
    rcases next with (_ | (_ | _ | _ | _ | _) | _) | _ | _ | _ | _ <;>
    rfl

theorem blankBefore_mask (current : Chunk) (rest : Fragment) :
    blankBefore current.mask rest.mask = blankBefore current rest := by
  cases rest with
  | nil => rfl
  | cons next others => simp only [mask, List.map_cons, blankBefore, needsBlank_mask]

theorem renderFrom_mask (dialect : Dialect) (index : Nat) (fragment : Fragment) :
    fragment.mask.renderFrom dialect index = fragment.renderFrom dialect index := by
  induction fragment generalizing index with
  | nil => rfl
  | cons chunk rest inductionHypothesis =>
      have sameText : chunkText dialect index chunk.mask = chunkText dialect index chunk := by
        cases chunk <;> rfl
      have sameIndex : nextIndex index chunk.mask = nextIndex index chunk := by
        cases chunk <;> rfl
      have unfolded : mask (chunk :: rest) = chunk.mask :: mask rest := rfl
      rw [unfolded, renderFrom, renderFrom, sameText, sameIndex, blankBefore_mask,
        inductionHypothesis]

/-- The text of a fragment does not depend on its values. -/
@[simp] theorem render_mask (dialect : Dialect) (fragment : Fragment) :
    fragment.mask.render dialect = fragment.render dialect :=
  renderFrom_mask dialect 1 fragment

@[simp] theorem parameters_mask (fragment : Fragment) :
    fragment.mask.parameters = fragment.parameters.map Value.mask := by
  rw [parameters, parameters, mask, List.filterMap_map, List.map_filterMap]
  congr
  funext chunk
  cases chunk <;> rfl

end Fragment

/-! ## Expressions -/

namespace Expr

mutual

/-- An expression whose literals are masked. -/
def mask : Expr → Expr
  | .column reference => .column reference
  | .literal value => .literal value.mask
  | .binary operator left right => .binary operator left.mask right.mask
  | .group connective items => .group connective (maskAll items)
  | .negation inner => .negation inner.mask
  | .nullTest inner negated => .nullTest inner.mask negated
  | .membership operand items negated => .membership operand.mask (maskAll items) negated
  | .like operand pattern negated => .like operand.mask pattern.mask negated
  | .call function arguments => .call function (maskAll arguments)
  | .countRows => .countRows
  | .named inner name => .named inner.mask name

/-- Expressions whose literals are masked. -/
def maskAll : List Expr → List Expr
  | [] => []
  | item :: rest => item.mask :: maskAll rest

end

attribute [simp] mask

@[simp] theorem maskAll_eq_map (items : List Expr) : maskAll items = items.map mask := by
  induction items with
  | nil => rfl
  | cons item rest inductionHypothesis => rw [maskAll, inductionHypothesis, List.map_cons]

@[simp] theorem isNullLiteral_mask (expr : Expr) :
    expr.mask.isNullLiteral = expr.isNullLiteral := by
  cases expr with
  | literal value => cases value <;> rfl
  | _ => rfl

@[simp] theorem isCompound_mask (expr : Expr) : expr.mask.isCompound = expr.isCompound := by
  cases expr <;> rfl

@[simp] theorem isGroup_mask (expr : Expr) : expr.mask.isGroup = expr.isGroup := by
  cases expr <;> rfl

@[simp] theorem nullOperand?_mask (operator : Operator) (left right : Expr) :
    nullOperand? operator left.mask right.mask = nullOperand? operator left right := by
  simp only [nullOperand?, isNullLiteral_mask]

/-- Masked items compile to the masked fragments if each of them does. -/
theorem compileItems_mask
    {scope : Scope}
    {items : List Expr}
    (wrap : Expr → Bool)
    (wrapsAlike : ∀ item : Expr, wrap item.mask = wrap item)
    (each : ∀ item ∈ items, ∀ nameable,
      compileAt scope nameable item.mask = Fragment.mask <$> compileAt scope nameable item) :
    compileItems scope wrap (items.map mask) =
      List.map Fragment.mask <$> compileItems scope wrap items := by
  induction items with
  | nil => rfl
  | cons item rest inductionHypothesis =>
      have others := inductionHypothesis fun other member =>
        each other (List.mem_cons_of_mem item member)
      simp [each item List.mem_cons_self, others, wrapsAlike]

/-- A masked expression compiles to the masked fragment, or fails for the same cause. -/
theorem compileAt_mask (scope : Scope) (expr : Expr) :
    ∀ nameable,
      compileAt scope nameable expr.mask = Fragment.mask <$> compileAt scope nameable expr := by
  induction expr using Expr.inductionOn with
  | column reference => simp
  | literal value => simp
  | binary operator left right leftHypothesis rightHypothesis =>
      intro nameable
      rw [mask, compileAt, compileAt, nullOperand?_mask]
      rcases nullOperand? operator left right with _ | ⟨_ | _, negated⟩ <;>
        simp [leftHypothesis, rightHypothesis]
  | group connective items itemHypothesis =>
      intro nameable
      have itemsMask := compileItems_mask isGroup isGroup_mask itemHypothesis
      simp only [mask, maskAll_eq_map, compileAt, List.isEmpty_map]
      split
      · rfl
      · simp [itemsMask]
  | negation inner innerHypothesis => simp [innerHypothesis]
  | nullTest inner negated innerHypothesis => simp [innerHypothesis]
  | membership operand items negated operandHypothesis itemHypothesis =>
      intro nameable
      have itemsMask := compileItems_mask (fun _ => false) (fun _ => rfl) itemHypothesis
      simp only [mask, maskAll_eq_map, compileAt, List.isEmpty_map]
      split
      · simp
      · simp [operandHypothesis, itemsMask]
  | like operand pattern negated operandHypothesis patternHypothesis =>
      simp [operandHypothesis, patternHypothesis]
  | call function arguments argumentHypothesis =>
      simp [compileItems_mask (fun _ => false) (fun _ => rfl) argumentHypothesis]
  | countRows => simp
  | named inner name innerHypothesis =>
      intro nameable
      cases nameable with
      | false => rfl
      | true => simp [innerHypothesis]

end Expr
end TypedSql
