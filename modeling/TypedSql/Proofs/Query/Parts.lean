import TypedSql.Proofs.Query.Commute
import TypedSql.Proofs.Sql.Cut

/-!
# What calls leave in the parts of a query

Joins, groupings and orders pile up, and the last projection stands. Each of them is what
its expressions compile to against the tables that the query has in the end, whatever
tables it had when they were added.
-/

namespace TypedSql

namespace QueryCall

/-- The table that a call joins, how, and on which condition. -/
def joins : QueryCall → List (JoinKind × Shape × Expr)
  | .join kind shape condition => [(kind, shape, condition)]
  | _ => []

/-- The expression that a call groups by. -/
def groupings : QueryCall → List Expr
  | .groupBy expr => [expr]
  | _ => []

/-- The expression that a call orders by, and the direction. -/
def orders : QueryCall → List (Expr × Direction)
  | .orderBy expr direction => [(expr, direction)]
  | _ => []

/-- The expressions that a call selects. -/
def selection? : QueryCall → Option (List Expr)
  | .select items => some items
  | _ => none

end QueryCall

/-- The fragment of an item of a projection, and the name that is given to it. -/
inductive Expr.CompilesToItem (scope : Scope) : Expr → Fragment × Option String → Prop
  | plain {expr : Expr} {fragment : Fragment} (compiled : expr.compile scope = .ok fragment) :
      CompilesToItem scope expr (fragment, none)
  | named {inner : Expr} {fragment : Fragment} (name : String)
      (compiled : inner.compile scope = .ok fragment) :
      CompilesToItem scope (.named inner name) (fragment, some name)

theorem Expr.CompilesToItem.sealed
    {scope : Scope}
    {expr : Expr}
    {item : Fragment × Option String}
    (compiles : expr.CompilesToItem scope item) :
    Fragment.Sealed Chunk.isSeparator item.1 := by
  cases compiles with
  | plain compiled => exact expr.holds_compile (Fragment.sealed_compositional scope) _ compiled
  | named name compiled =>
      exact Expr.holds_compile (Fragment.sealed_compositional scope) _ _ compiled

theorem Expr.exists_item_of_compileProjection
    {scope : Scope}
    {expr : Expr}
    {fragment : Fragment}
    (compiled : expr.compileProjection scope = .ok fragment) :
    ∃ item, expr.CompilesToItem scope item ∧ fragment = Fragment.aliased item := by
  unfold compileProjection at compiled
  cases expr with
  | named inner name =>
      obtain ⟨_, part, partCompiled, rfl⟩ := compileAt_named.mp compiled
      exact ⟨(part, some name), .named name partCompiled, rfl⟩
  | _ =>
      rw [compileAt_nameable scope _ (by simp)] at compiled
      exact ⟨(fragment, none), .plain compiled, rfl⟩

/-- What is related to images is related to what they are the images of. -/
theorem exists_forall₂_of_map
    {α β γ : Type}
    {relates : α → γ → Prop}
    {image : γ → β}
    {left : List α}
    {right : List β}
    (related : List.Forall₂ (fun first second => ∃ source, relates first source ∧
      second = image source) left right) :
    ∃ sources, List.Forall₂ relates left sources ∧ right = sources.map image := by
  induction related with
  | nil => exact ⟨[], .nil, rfl⟩
  | cons first _ inductionHypothesis =>
      obtain ⟨source, relatesFirst, rfl⟩ := first
      obtain ⟨sources, others, rfl⟩ := inductionHypothesis
      exact ⟨source :: sources, .cons relatesFirst others, rfl⟩

namespace Query

variable {query final : Query} {calls : List QueryCall}

/-! ## Parts that pile up -/

/-- What changes add to a part of a query is in it in the end, in the order of the calls. -/
theorem extendAll_parts
    {α β : Type}
    {added : QueryCall → List α}
    {parts : Query → List β}
    (relates : Scope → α → β → Prop)
    (grows : ∀ scope more item part, relates scope item part → relates (scope ++ more) item part)
    (step : ∀ (query : Query) scope call change, call.CompilesTo scope change →
      ∃ more, parts (query.change change) = parts query ++ more ∧
        List.Forall₂ (relates scope) (added call) more)
    (reached : query.extendAll calls = .ok final) :
    ∃ more, parts final = parts query ++ more ∧
      List.Forall₂ (relates final.scope) (calls.flatMap added) more := by
  induction calls generalizing query with
  | nil =>
      cases reached
      exact ⟨[], (List.append_nil _).symm, .nil⟩
  | cons call calls inductionHypothesis =>
      obtain ⟨extended, first, later⟩ := extendAll_cons.mp reached
      obtain ⟨_, change, compiles, rfl⟩ := extend_eq_ok.mp first
      obtain ⟨added, addedParts, addedRelated⟩ := step query _ call change compiles
      obtain ⟨more, moreParts, moreRelated⟩ := inductionHypothesis later
      refine ⟨added ++ more, ?_, ?_⟩
      · rw [moreParts, addedParts, List.append_assoc]
      · rw [List.flatMap_cons]
        refine List.rel_append (addedRelated.imp ?_) moreRelated
        intro item part related
        rw [extendAll_tables later, extend_tables first]
        exact grows _ _ item part related

/-- A join is of the table, of the kind and on what the condition compiles to. -/
def IsJoin (scope : Scope) (call : JoinKind × Shape × Expr) (join : Join) : Prop :=
  join.kind = call.1 ∧ join.shape = call.2.1 ∧ call.2.2.compile scope = .ok join.condition

theorem extendAll_joins (reached : query.extendAll calls = .ok final) :
    ∃ more, final.joins = query.joins ++ more ∧
      List.Forall₂ (IsJoin final.scope) (calls.flatMap QueryCall.joins) more := by
  refine extendAll_parts IsJoin ?_ ?_ reached
  · rintro scope more ⟨_, _, condition⟩ join ⟨sameKind, sameShape, compiled⟩
    exact ⟨sameKind, sameShape, condition.compileAt_append more _ _ compiled⟩
  · intro query scope call change compiles
    cases compiles with
    | join kind shape compiled => exact ⟨_, rfl, .cons ⟨rfl, rfl, compiled⟩ .nil⟩
    | _ => exact ⟨[], (List.append_nil _).symm, .nil⟩

theorem extendAll_grouping (reached : query.extendAll calls = .ok final) :
    ∃ more, final.grouping = query.grouping ++ more ∧
      List.Forall₂ (fun expr fragment => expr.compile final.scope = .ok fragment)
        (calls.flatMap QueryCall.groupings) more := by
  refine extendAll_parts (fun scope (expr : Expr) fragment => expr.compile scope = .ok fragment)
    ?_ ?_ reached
  · intro scope more expr fragment compiled
    exact expr.compileAt_append more _ _ compiled
  · intro query scope call change compiles
    cases compiles with
    | groupBy compiled => exact ⟨_, rfl, .cons compiled .nil⟩
    | _ => exact ⟨[], (List.append_nil _).symm, .nil⟩

/-- An order is by what the expression compiles to, in the direction. -/
def IsOrder (scope : Scope) (call : Expr × Direction) (item : Fragment × Direction) : Prop :=
  call.1.compile scope = .ok item.1 ∧ item.2 = call.2

theorem extendAll_order (reached : query.extendAll calls = .ok final) :
    ∃ items, final.order = query.order ++ items.map Fragment.directed ∧
      List.Forall₂ (IsOrder final.scope) (calls.flatMap QueryCall.orders) items := by
  have pieces : ∃ more, final.order = query.order ++ more ∧
      List.Forall₂ (fun call part => ∃ item, IsOrder final.scope call item ∧
        part = Fragment.directed item) (calls.flatMap QueryCall.orders) more := by
    refine extendAll_parts (fun scope call part => ∃ item, IsOrder scope call item ∧
      part = Fragment.directed item) ?_ ?_ reached
    · rintro scope more ⟨expr, _⟩ part ⟨item, ⟨compiled, sameDirection⟩, rfl⟩
      exact ⟨item, ⟨expr.compileAt_append more _ _ compiled, sameDirection⟩, rfl⟩
    · intro query scope call change compiles
      cases compiles with
      | orderBy direction compiled =>
          exact ⟨_, rfl, .cons ⟨(_, direction), ⟨compiled, rfl⟩, rfl⟩ .nil⟩
      | _ => exact ⟨[], (List.append_nil _).symm, .nil⟩
  obtain ⟨more, shape, related⟩ := pieces
  obtain ⟨items, itemsRelated, rfl⟩ := exists_forall₂_of_map related
  exact ⟨items, shape, itemsRelated⟩

/-! ## The projection -/

/--
The items of a query's projection: those of the expressions that were selected last, or
else the columns of the root's allowed fields, or all columns if there are none of these.
-/
def Projects (query : Query) :
    Option (List Expr) → List (Fragment × Option String) → Prop
  | some selected, items =>
      List.Forall₂ (Expr.CompilesToItem query.scope) selected items
  | none, items =>
      items = (if query.rootColumns.isEmpty then [[.mark .star]] else query.rootColumns).map
        (·, none)

theorem projection_of_extend
    {call : QueryCall}
    {extended : Query}
    (compiled : call.isCompiled = true)
    (selectsNone : call.selection? = none)
    (reached : query.extend call = .ok extended) :
    extended.projection = query.projection := by
  obtain ⟨_, change, compiles, rfl⟩ := extend_eq_ok.mp reached
  cases compiles with
  | select _ _ => cases selectsNone
  | selectFragment projection => cases compiled
  | _ => rfl

/-- The expressions that were selected last are the projection. -/
theorem extendAll_projection
    (compiled : ∀ call ∈ calls, call.isCompiled = true)
    (reached : query.extendAll calls = .ok final) :
    match (calls.filterMap QueryCall.selection?).getLast? with
    | none => final.projection = query.projection
    | some selected =>
        ∃ parts, compileProjections final.scope selected = .ok parts ∧ parts ≠ [] ∧
          final.projection = some (.commas parts) := by
  induction calls generalizing query with
  | nil =>
      cases reached
      rfl
  | cons call calls inductionHypothesis =>
      obtain ⟨callCompiled, othersCompiled⟩ := List.forall_mem_cons.mp compiled
      obtain ⟨extended, first, later⟩ := extendAll_cons.mp reached
      have others := inductionHypothesis othersCompiled later
      cases selects : call.selection? with
      | none =>
          rw [List.filterMap_cons_none selects,
            ← projection_of_extend callCompiled selects first]
          exact others
      | some items =>
          rw [List.filterMap_cons_some selects, List.getLast?_cons]
          cases last : (calls.filterMap QueryCall.selection?).getLast? with
          | some selected =>
              rw [last] at others
              exact others
          | none =>
              rw [last] at others
              cases call with
              | select items =>
                  cases selects
                  obtain ⟨parts, itemsCompiled, nonempty, rfl⟩ := select_eq_ok.mp first
                  refine ⟨parts, ?_, nonempty, others⟩
                  rw [extendAll_tables later]
                  exact compileProjections_append itemsCompiled _
              | _ => cases selects

theorem exists_items_of_compileProjections
    {scope : Scope}
    {selected : List Expr}
    {parts : List Fragment}
    (compiled : compileProjections scope selected = .ok parts) :
    ∃ items, List.Forall₂ (Expr.CompilesToItem scope) selected items ∧
      parts = items.map Fragment.aliased := by
  refine exists_forall₂_of_map ((compileProjections_eq_ok.mp compiled).imp ?_)
  intro expr part itemCompiled
  exact expr.exists_item_of_compileProjection itemCompiled

/-- The items of a projection are sealed, and the projection lists them under their names. -/
theorem exists_projected_items
    {dialect : Dialect}
    {root : Shape}
    (compiled : ∀ call ∈ calls, call.isCompiled = true)
    (reached : (ofRoot dialect root).extendAll calls = .ok final) :
    ∃ items, final.Projects (calls.filterMap QueryCall.selection?).getLast? items ∧
      items ≠ [] ∧ (∀ item ∈ items, Fragment.Sealed Chunk.isSeparator item.1) ∧
      final.effectiveProjection = .commas (items.map Fragment.aliased) := by
  have projected := extendAll_projection compiled reached
  cases last : (calls.filterMap QueryCall.selection?).getLast? with
  | some selected =>
      rw [last] at projected
      obtain ⟨parts, partsCompiled, nonempty, shape⟩ := projected
      obtain ⟨items, related, rfl⟩ := exists_items_of_compileProjections partsCompiled
      refine ⟨items, related, ?_, ?_, ?_⟩
      · rintro rfl
        exact nonempty rfl
      · exact forall_mem_of_forall₂ related fun _ _ _ compiles => compiles.sealed
      · rw [effectiveProjection, shape]
        rfl
  | none =>
      rw [last] at projected
      have plain : ∀ fragments : List Fragment,
          (fragments.map (·, none)).map Fragment.aliased = fragments := by
        intro fragments
        rw [List.map_map]
        exact List.map_id fragments
      refine ⟨_, rfl, ?_, ?_, ?_⟩
      · cases empty : final.rootColumns.isEmpty with
        | true => simp
        | false => simpa using List.isEmpty_eq_false_iff.mp empty
      · intro item member
        obtain ⟨fragment, isItem, rfl⟩ := List.mem_map.mp member
        split at isItem
        · obtain rfl := List.mem_singleton.mp isItem
          exact Fragment.sealed_chunk rfl rfl rfl
        · obtain ⟨field, _, rfl⟩ := List.mem_map.mp isItem
          exact Fragment.sealed_qualified _ _
      · have unset : final.projection = none := projected
        rw [plain, effectiveProjection, unset, Option.getD_none, defaultProjection]
        split
        · exact (Fragment.join_singleton _ _).symm
        · rfl

end Query
end TypedSql
