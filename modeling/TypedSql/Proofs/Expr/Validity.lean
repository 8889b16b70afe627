import TypedSql.Proofs.Expr.Functions

/-!
# Which expressions compile

Whatever the compiler checks is about one node of an expression: a column has a place, a
group has items, a call names a function and has as many arguments as it takes, and nothing
but the root of a projected item has a name of its own. An expression compiles exactly if all
this holds at every node that is compiled. The only nodes that are not compiled are those
below the operand of a membership test without items.
-/

namespace TypedSql

namespace Expr

/-! ## The nodes of an expression -/

/-- The expressions that an expression is put together from. -/
def parts : Expr → List Expr
  | .column _ => []
  | .literal _ => []
  | .binary _ left right => [left, right]
  | .group _ items => items
  | .negation inner => [inner]
  | .nullTest inner _ => [inner]
  | .membership operand items _ => operand :: items
  | .like operand pattern _ => [operand, pattern]
  | .call _ arguments => arguments
  | .countRows => []
  | .named inner _ => [inner]

/-- The parts that are looked at: none of a membership test without items. -/
def compiledParts : Expr → List Expr
  | .membership _ [] _ => []
  | expr => expr.parts

/-- A node of an expression, when `parts` leads from an expression to those below it. -/
inductive Node (parts : Expr → List Expr) : Expr → Expr → Prop
  | root (expr : Expr) : Node parts expr expr
  | inside {expr part node : Expr} :
      part ∈ parts expr → Node parts part node → Node parts expr node

/-- Nothing is wrong with the root of an expression. -/
def Sound (scope : Scope) : Expr → Prop
  | .column reference => ∃ place, scope.resolve reference = .ok place
  | .group _ items => items ≠ []
  | .call function arguments =>
      ∃ rule ∈ FunctionRule.supported, rule.Fits function arguments.length
  | .named _ _ => False
  | _ => True

/-- Nothing is wrong with any node of an expression. -/
def SoundThrough (parts : Expr → List Expr) (scope : Scope) (expr : Expr) : Prop :=
  ∀ node, Node parts expr node → node.Sound scope

/-- Some membership test in an expression has no items. -/
def TestsNothing (expr : Expr) : Prop :=
  ∃ operand negated, Node parts expr (.membership operand [] negated)

/-- An item of a projection without its name, if it has one. -/
def unnamed : Expr → Expr
  | .named inner _ => inner
  | expr => expr

/-- Whether an expression compiles. -/
def Compiles (scope : Scope) (expr : Expr) : Prop :=
  ∃ fragment, expr.compile scope = .ok fragment

variable {scope : Scope} {expr : Expr}

/-- Induction over expressions with a hypothesis about every part. -/
@[elab_as_elim]
theorem inductionOnParts
    {motive : Expr → Prop}
    (expr : Expr)
    (step : ∀ expr, (∀ part ∈ expr.parts, motive part) → motive expr) :
    motive expr := by
  induction expr using Expr.inductionOn with
  | column | literal | countRows => exact step _ (by simp [parts])
  | binary _ _ _ left right => exact step _ (by simp [parts, left, right])
  | group _ _ items => exact step _ items
  | negation _ inner => exact step _ (by simp [parts, inner])
  | nullTest _ _ inner => exact step _ (by simp [parts, inner])
  | membership _ _ _ operand items =>
      exact step _ (List.forall_mem_cons.mpr ⟨operand, items⟩)
  | like _ _ _ operand pattern => exact step _ (by simp [parts, operand, pattern])
  | call _ _ arguments => exact step _ arguments
  | named _ _ inner => exact step _ (by simp [parts, inner])

theorem soundThrough_iff {parts : Expr → List Expr} :
    expr.SoundThrough parts scope ↔
      expr.Sound scope ∧ ∀ part ∈ parts expr, part.SoundThrough parts scope := by
  constructor
  · intro sound
    exact ⟨sound expr (.root expr), fun part member node isNode =>
      sound node (.inside member isNode)⟩
  · rintro ⟨root, others⟩ node isNode
    cases isNode with
    | root => exact root
    | inside member isNode => exact others _ member node isNode

theorem mem_parts_of_mem_compiledParts {part : Expr} (member : part ∈ expr.compiledParts) :
    part ∈ expr.parts := by
  unfold compiledParts at member
  split at member
  · cases member
  · exact member

theorem not_testsNothing_of_parts
    (root : ∀ operand negated, expr ≠ .membership operand [] negated)
    (others : ∀ part ∈ expr.parts, ¬part.TestsNothing) :
    ¬expr.TestsNothing := by
  rintro ⟨operand, negated, isNode⟩
  cases isNode with
  | root => exact root operand negated rfl
  | inside member isNode => exact others _ member ⟨operand, negated, isNode⟩

theorem not_testsNothing_of_mem
    {part : Expr}
    (testing : ¬expr.TestsNothing)
    (member : part ∈ expr.parts) :
    ¬part.TestsNothing :=
  fun ⟨operand, negated, isNode⟩ => testing ⟨operand, negated, .inside member isNode⟩

theorem not_testsNothing_unnamed (testing : ¬expr.TestsNothing) :
    ¬expr.unnamed.TestsNothing := by
  cases expr with
  | named inner name => exact not_testsNothing_of_mem testing List.mem_cons_self
  | _ => exact testing

/-- Without a membership test that has no items every node is compiled. -/
theorem soundThrough_parts_iff (testing : ¬expr.TestsNothing) :
    expr.SoundThrough parts scope ↔ expr.SoundThrough compiledParts scope := by
  induction expr using inductionOnParts with
  | step expr inductionHypothesis =>
      have same : expr.compiledParts = expr.parts := by
        unfold compiledParts
        split
        · exact absurd ⟨_, _, .root _⟩ testing
        · rfl
      rw [soundThrough_iff, soundThrough_iff, same]
      exact and_congr_right fun _ => forall₂_congr fun part member =>
        inductionHypothesis part member (not_testsNothing_of_mem testing member)

/-! ## One node -/

/-- Items compile together if each of them does. -/
theorem exists_compileItems_iff {wrap : Expr → Bool} {items : List Expr} :
    (∃ fragments, compileItems scope wrap items = .ok fragments) ↔
      ∀ item ∈ items, item.Compiles scope := by
  constructor
  · rintro ⟨fragments, compiled⟩ item member
    exact compileAt_of_mem compiled member
  · intro each
    induction items with
    | nil => exact ⟨[], rfl⟩
    | cons first rest inductionHypothesis =>
        obtain ⟨⟨fragment, firstCompiled⟩, restCompile⟩ := List.forall_mem_cons.mp each
        obtain ⟨fragments, restCompiled⟩ := inductionHypothesis restCompile
        refine ⟨Fragment.parensIf (wrap first) fragment :: fragments, ?_⟩
        rw [compileItems]
        exact bind_eq_ok.mpr ⟨fragment, firstCompiled,
          bind_eq_ok.mpr ⟨fragments, restCompiled, rfl⟩⟩

theorem compiles_literal (value : Value) : (Expr.literal value).Compiles scope :=
  ⟨_, compileAt_literal.mpr rfl⟩

/-- An operand that is left out of a comparison is the null literal, which compiles. -/
theorem compiles_of_nullOperand?
    {operator : Operator}
    {left right : Expr}
    {tested : NullOperand}
    {negated : Bool}
    (isTest : nullOperand? operator left right = some (tested, negated)) :
    match tested with
    | .left => right.Compiles scope
    | .right => left.Compiles scope := by
  have compiles_of_null {side : Expr} (null : side.isNullLiteral = true) :
      side.Compiles scope := by
    unfold isNullLiteral at null
    split at null
    · exact compiles_literal .null
    · cases null
  have side : (if right.isNullLiteral then some NullOperand.left
      else if left.isNullLiteral then some .right else none) = some tested := by
    unfold nullOperand? at isTest
    cases operator <;> simp_all
  split at side
  · next rightNull =>
    obtain rfl := Option.some.inj side
    exact compiles_of_null rightNull
  · split at side
    · next leftNull =>
      obtain rfl := Option.some.inj side
      exact compiles_of_null leftNull
    · cases side

theorem compiles_column {reference : ColumnRef} :
    (Expr.column reference).Compiles scope ↔ ∃ place, scope.resolve reference = .ok place := by
  constructor
  · rintro ⟨fragment, compiled⟩
    obtain ⟨place, resolved, _⟩ := compileAt_column.mp compiled
    exact ⟨place, resolved⟩
  · rintro ⟨place, resolved⟩
    exact ⟨_, compileAt_column.mpr ⟨place, resolved, rfl⟩⟩

theorem compiles_binary {operator : Operator} {left right : Expr} :
    (Expr.binary operator left right).Compiles scope ↔
      left.Compiles scope ∧ right.Compiles scope := by
  have shape (fragment : Fragment) :=
    @compileAt_binary scope false fragment operator left right
  rcases isTest : nullOperand? operator left right with _ | ⟨_ | _, negated⟩
  · simp only [isTest] at shape
    constructor
    · rintro ⟨fragment, compiled⟩
      obtain ⟨first, leftCompiled, second, rightCompiled, _⟩ := (shape fragment).mp compiled
      exact ⟨⟨first, leftCompiled⟩, ⟨second, rightCompiled⟩⟩
    · rintro ⟨⟨first, leftCompiled⟩, ⟨second, rightCompiled⟩⟩
      exact ⟨_, (shape _).mpr ⟨first, leftCompiled, second, rightCompiled, rfl⟩⟩
  · simp only [isTest] at shape
    constructor
    · rintro ⟨fragment, compiled⟩
      obtain ⟨operand, leftCompiled, _⟩ := (shape fragment).mp compiled
      exact ⟨⟨operand, leftCompiled⟩, compiles_of_nullOperand? isTest⟩
    · rintro ⟨⟨operand, leftCompiled⟩, _⟩
      exact ⟨_, (shape _).mpr ⟨operand, leftCompiled, rfl⟩⟩
  · simp only [isTest] at shape
    constructor
    · rintro ⟨fragment, compiled⟩
      obtain ⟨operand, rightCompiled, _⟩ := (shape fragment).mp compiled
      exact ⟨compiles_of_nullOperand? isTest, ⟨operand, rightCompiled⟩⟩
    · rintro ⟨_, ⟨operand, rightCompiled⟩⟩
      exact ⟨_, (shape _).mpr ⟨operand, rightCompiled, rfl⟩⟩

theorem compiles_group {connective : Connective} {items : List Expr} :
    (Expr.group connective items).Compiles scope ↔
      items ≠ [] ∧ ∀ item ∈ items, item.Compiles scope := by
  rw [← exists_compileItems_iff]
  constructor
  · rintro ⟨fragment, compiled⟩
    obtain ⟨nonempty, fragments, itemsCompiled, _⟩ := compileAt_group.mp compiled
    exact ⟨nonempty, fragments, itemsCompiled⟩
  · rintro ⟨nonempty, fragments, itemsCompiled⟩
    exact ⟨_, compileAt_group.mpr ⟨nonempty, fragments, itemsCompiled, rfl⟩⟩

theorem compiles_negation {inner : Expr} :
    (Expr.negation inner).Compiles scope ↔ inner.Compiles scope := by
  constructor
  · rintro ⟨fragment, compiled⟩
    obtain ⟨operand, innerCompiled, _⟩ := compileAt_negation.mp compiled
    exact ⟨operand, innerCompiled⟩
  · rintro ⟨operand, innerCompiled⟩
    exact ⟨_, compileAt_negation.mpr ⟨operand, innerCompiled, rfl⟩⟩

theorem compiles_nullTest {inner : Expr} {negated : Bool} :
    (Expr.nullTest inner negated).Compiles scope ↔ inner.Compiles scope := by
  constructor
  · rintro ⟨fragment, compiled⟩
    obtain ⟨operand, innerCompiled, _⟩ := compileAt_nullTest.mp compiled
    exact ⟨operand, innerCompiled⟩
  · rintro ⟨operand, innerCompiled⟩
    exact ⟨_, compileAt_nullTest.mpr ⟨operand, innerCompiled, rfl⟩⟩

/-- Without items the operand of a membership test is not looked at. -/
theorem compiles_membership {operand : Expr} {items : List Expr} {negated : Bool} :
    (Expr.membership operand items negated).Compiles scope ↔
      (items ≠ [] → operand.Compiles scope) ∧ ∀ item ∈ items, item.Compiles scope := by
  by_cases empty : items = []
  · subst empty
    have compiles : (Expr.membership operand [] negated).Compiles scope :=
      ⟨.emptyMembership negated, compileAt_membership.mpr (by rw [if_pos rfl])⟩
    simp [compiles]
  · rw [← exists_compileItems_iff, forall_prop_of_true empty]
    constructor
    · rintro ⟨fragment, compiled⟩
      have shape := compileAt_membership.mp compiled
      rw [if_neg empty] at shape
      obtain ⟨first, operandCompiled, fragments, itemsCompiled, _⟩ := shape
      exact ⟨⟨first, operandCompiled⟩, fragments, itemsCompiled⟩
    · rintro ⟨⟨first, operandCompiled⟩, fragments, itemsCompiled⟩
      refine ⟨.membership negated (Fragment.parensIf operand.isCompound first) fragments, ?_⟩
      rw [compile, compileAt_membership, if_neg empty]
      exact ⟨first, operandCompiled, fragments, itemsCompiled, rfl⟩

theorem compiles_like {operand pattern : Expr} {negated : Bool} :
    (Expr.like operand pattern negated).Compiles scope ↔
      operand.Compiles scope ∧ pattern.Compiles scope := by
  constructor
  · rintro ⟨fragment, compiled⟩
    obtain ⟨first, operandCompiled, second, patternCompiled, _⟩ := compileAt_like.mp compiled
    exact ⟨⟨first, operandCompiled⟩, ⟨second, patternCompiled⟩⟩
  · rintro ⟨⟨first, operandCompiled⟩, ⟨second, patternCompiled⟩⟩
    exact ⟨_, compileAt_like.mpr ⟨first, operandCompiled, second, patternCompiled, rfl⟩⟩

theorem compiles_call {function : String} {arguments : List Expr} :
    (Expr.call function arguments).Compiles scope ↔
      (∃ rule ∈ FunctionRule.supported, rule.Fits function arguments.length) ∧
        ∀ argument ∈ arguments, argument.Compiles scope := by
  rw [← FunctionRule.exists_check_iff, ← exists_compileItems_iff]
  constructor
  · rintro ⟨fragment, compiled⟩
    obtain ⟨rule, checked, fragments, argumentsCompiled, _⟩ := compileAt_call.mp compiled
    exact ⟨⟨rule, checked⟩, fragments, argumentsCompiled⟩
  · rintro ⟨⟨rule, checked⟩, fragments, argumentsCompiled⟩
    exact ⟨_, compileAt_call.mpr ⟨rule, checked, fragments, argumentsCompiled, rfl⟩⟩

theorem compiles_countRows : Expr.countRows.Compiles scope :=
  ⟨_, compileAt_countRows.mpr rfl⟩

theorem not_compiles_named {inner : Expr} {name : String} :
    ¬(Expr.named inner name).Compiles scope := by
  rintro ⟨fragment, compiled⟩
  cases (compileAt_named.mp compiled).1

/-- An item of a projection compiles if it does without its name. -/
theorem compiles_unnamed :
    (∃ fragment, expr.compileProjection scope = .ok fragment) ↔ expr.unnamed.Compiles scope := by
  cases expr with
  | named inner name =>
      constructor
      · rintro ⟨fragment, compiled⟩
        obtain ⟨_, item, innerCompiled, _⟩ := compileAt_named.mp compiled
        exact ⟨item, innerCompiled⟩
      · rintro ⟨item, innerCompiled⟩
        exact ⟨_, compileAt_named.mpr ⟨rfl, item, innerCompiled, rfl⟩⟩
  | _ =>
      rw [compileProjection, compileAt_nameable scope _ (by simp)]
      rfl

/-- An expression compiles if nothing is wrong with its root and its compiled parts compile. -/
theorem compiles_iff_parts :
    expr.Compiles scope ↔
      expr.Sound scope ∧ ∀ part ∈ expr.compiledParts, part.Compiles scope := by
  cases expr with
  | column => simp [compiles_column, Sound, compiledParts, parts]
  | literal => simp [compiles_literal, Sound, compiledParts, parts]
  | binary => simp [compiles_binary, Sound, compiledParts, parts]
  | group => simp [compiles_group, Sound, compiledParts, parts]
  | negation => simp [compiles_negation, Sound, compiledParts, parts]
  | nullTest => simp [compiles_nullTest, Sound, compiledParts, parts]
  | membership operand items negated =>
      cases items <;> simp [compiles_membership, Sound, compiledParts, parts]
  | like => simp [compiles_like, Sound, compiledParts, parts]
  | call => simp [compiles_call, Sound, compiledParts, parts]
  | countRows => simp [compiles_countRows, Sound, compiledParts, parts]
  | named => simp [not_compiles_named, Sound]

/-! ## Whole expressions -/

theorem compiles_iff_soundThrough :
    expr.Compiles scope ↔ expr.SoundThrough compiledParts scope := by
  induction expr using inductionOnParts with
  | step expr inductionHypothesis =>
      rw [compiles_iff_parts, soundThrough_iff]
      exact and_congr_right fun _ => forall₂_congr fun part member =>
        inductionHypothesis part (mem_parts_of_mem_compiledParts member)

/--
An expression compiles exactly if nothing is wrong with any node that is compiled, and an item
of a projection if this holds without the name it may have. These are all the nodes unless
there is a membership test without items, whose operand is not looked at; with one item or
more, it is looked at however many they are.
-/
theorem compiles_exactly_sound (scope : Scope) (expr : Expr) :
    ((∃ fragment, expr.compile scope = .ok fragment) ↔
      ∀ node, Node compiledParts expr node → node.Sound scope) ∧
    ((∃ fragment, expr.compileProjection scope = .ok fragment) ↔
      ∀ node, Node compiledParts expr.unnamed node → node.Sound scope) ∧
    (¬expr.TestsNothing →
      ((∃ fragment, expr.compile scope = .ok fragment) ↔
        ∀ node, Node parts expr node → node.Sound scope) ∧
      ((∃ fragment, expr.compileProjection scope = .ok fragment) ↔
        ∀ node, Node parts expr.unnamed node → node.Sound scope)) ∧
    (∀ operand items negated,
      (∃ fragment, (membership operand items negated).compile scope = .ok fragment) ↔
        (items ≠ [] → ∃ fragment, operand.compile scope = .ok fragment) ∧
        ∀ item ∈ items, ∃ fragment, item.compile scope = .ok fragment) := by
  have projects : (∃ fragment, expr.compileProjection scope = .ok fragment) ↔
      expr.unnamed.SoundThrough compiledParts scope :=
    compiles_unnamed.trans compiles_iff_soundThrough
  refine ⟨compiles_iff_soundThrough, projects, fun testing => ⟨?_, ?_⟩,
    fun operand items negated => compiles_membership⟩
  · exact compiles_iff_soundThrough.trans (soundThrough_parts_iff testing).symm
  · exact projects.trans (soundThrough_parts_iff (not_testsNothing_unnamed testing)).symm

end Expr

namespace Sample

/-- Films with a title, which is kept in a column of another name. -/
def films : Shape :=
  ⟨"films", [⟨"id", "id", ⟨.integer .signed64, false⟩⟩, ⟨"title", "Name", ⟨.text, true⟩⟩]⟩

/-- Whether the title of a film is missing, or not among some others, under a name. -/
def retitled : Expr :=
  .named
    (.group .or
      [.binary .eq (.literal .null) (.col "TITLE"),
        .membership (.call "lower" [.colOf "films" "name"]) [.literal (.text "it")] true])
    "retitled"

/-- Whether a column that no film has is among no values. -/
def misspelt : Expr := .membership (.col "tilte") [] false

end Sample

namespace Expr

/-- An item with a call, a membership test and a comparison with the null literal. -/
theorem compiles_exactly_sound_retitled :
    ¬Sample.retitled.TestsNothing ∧
      (∃ fragment, Sample.retitled.compileProjection [Sample.films] = .ok fragment) ∧
      (∀ node, Node parts Sample.retitled.unnamed node → node.Sound [Sample.films]) ∧
      ¬(Sample.retitled.Sound [Sample.films]) ∧
      ¬∃ fragment, Sample.retitled.compile [Sample.films] = .ok fragment := by
  have column (reference : ColumnRef) : ¬(Expr.column reference).TestsNothing :=
    not_testsNothing_of_parts (by simp) (by simp [parts])
  have literal (value : Value) : ¬(Expr.literal value).TestsNothing :=
    not_testsNothing_of_parts (by simp) (by simp [parts])
  have testing : ¬Sample.retitled.TestsNothing := by
    refine not_testsNothing_of_parts (by simp [Sample.retitled]) ?_
    refine List.forall_mem_singleton.mpr (not_testsNothing_of_parts (by simp) ?_)
    refine List.forall_mem_cons.mpr ⟨?_, List.forall_mem_singleton.mpr ?_⟩
    · exact not_testsNothing_of_parts (by simp) (by simp [parts, literal, column, col])
    · refine not_testsNothing_of_parts (by simp) (List.forall_mem_cons.mpr ⟨?_, ?_⟩)
      · exact not_testsNothing_of_parts (by simp) (by simp [parts, column, colOf])
      · simp [literal]
  obtain ⟨_, _, exactly, _⟩ := compiles_exactly_sound [Sample.films] Sample.retitled
  obtain ⟨compiles, projects⟩ := exactly testing
  have projected :
      ∃ fragment, Sample.retitled.compileProjection [Sample.films] = .ok fragment := ⟨_, rfl⟩
  exact ⟨testing, projected, projects.mp projected, id,
    fun compiled => compiles.mp compiled _ (.root _)⟩

/-- A column that nothing has is reported beside one item, and not beside none. -/
theorem compiles_misspelt :
    Sample.misspelt.compile [Sample.films] = .ok (.emptyMembership false) ∧
      Node parts Sample.misspelt (.col "tilte") ∧
      ¬(Expr.col "tilte").Sound [Sample.films] ∧
      (Expr.membership (.col "tilte") [.literal (.integer 1)] false).compile [Sample.films] =
        .error (.unknownColumn "tilte") := by
  refine ⟨rfl, .inside (List.mem_cons_self) (.root _), ?_, rfl⟩
  rintro ⟨place, resolved⟩
  cases resolved

end Expr
end TypedSql
