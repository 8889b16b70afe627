import TypedSql.Proofs.Query.Closed
import TypedSql.Proofs.Record.ByName
import TypedSql.Proofs.Sql.Cut

/-!
# Selecting rows as another entity

A query that was given no projection lists, for another entity, the fields that it can read:
those that the restriction leaves in and whose column, or else whose name, has a place in the
tables of the query. A column that has another name than the field's own is listed under the
field's own. So the labels of the listed columns lead the mapper back to the listed fields,
one by one: no column is left out, and none is read into a field that it was not listed for.
-/

namespace TypedSql

/-- Items that are kept are listed in step with what is kept of their partners. -/
theorem forall₂_filterMap_filter
    {α β γ : Type}
    {related : α → β → Prop}
    {select : α → Option γ}
    {keeps : β → Bool}
    {items : List α}
    {partners : List β}
    (inStep : List.Forall₂
      (fun item partner => related item partner ∧ (select item).isSome = keeps partner)
      items partners) :
    List.Forall₂
      (fun result partner => ∃ item, related item partner ∧ select item = some result)
      (items.filterMap select) (partners.filter keeps) := by
  induction inStep with
  | nil => exact .nil
  | @cons item partner _ _ first _ inductionHypothesis =>
      obtain ⟨isRelated, same⟩ := first
      cases selected : select item with
      | none =>
          rw [selected] at same
          rw [List.filterMap_cons_none selected, List.filter_cons_of_neg (by simp [← same])]
          exact inductionHypothesis
      | some result =>
          rw [selected] at same
          rw [List.filterMap_cons_some selected, List.filter_cons_of_pos same.symm]
          exact .cons ⟨item, isRelated, selected⟩ inductionHypothesis

/-! ## Labels -/

namespace Fragment

/-- The name of the column that a fragment ends with. -/
def columnName (fragment : Fragment) : String :=
  match fragment.getLast? with
  | some (.identifier name) => name
  | _ => ""

/-- The label of an item in a result: the name that it stands under, or else its column's. -/
def label (item : Fragment) : String :=
  (splitName item).2.getD item.columnName

end Fragment

/-! ## Places of another entity's fields -/

/-- The place that a field is read from: that of its column or, if it has none, of its name. -/
inductive Scope.ReadsFrom (scope : Scope) (field : Field) : Place → Prop
  | column {place : Place} :
      scope.resolve ⟨none, field.column⟩ = .ok place → ReadsFrom scope field place
  | name {cause : CompileError} {place : Place} :
      scope.resolve ⟨none, field.column⟩ = .error cause →
      scope.resolve ⟨none, field.name⟩ = .ok place →
      ReadsFrom scope field place

theorem Scope.exists_resolve_eq_error_iff {scope : Scope} {reference : ColumnRef} :
    (∃ cause, scope.resolve reference = .error cause) ↔ scope.place? reference = none := by
  rw [Option.eq_none_iff_forall_ne_some]
  cases resolved : scope.resolve reference with
  | ok place =>
      have found := Scope.resolve_eq_ok.mp resolved
      simp [found]
  | error cause =>
      refine iff_of_true ⟨cause, rfl⟩ fun place found => ?_
      rw [Scope.resolve_eq_ok.mpr found] at resolved
      cases resolved

namespace Query

variable {query : Query} {target : Shape} {field : Field} {place : Place} {position : Nat}

theorem placeFor?_eq_some_iff :
    query.placeFor? field = some place ↔ query.scope.ReadsFrom field place := by
  rw [placeFor?, Option.or_eq_some_iff]
  constructor
  · rintro (byColumn | ⟨noColumn, byName⟩)
    · exact .column (Scope.resolve_eq_ok.mpr byColumn)
    · obtain ⟨cause, failed⟩ := Scope.exists_resolve_eq_error_iff.mpr noColumn
      exact .name failed (Scope.resolve_eq_ok.mpr byName)
  · rintro (byColumn | ⟨failed, byName⟩)
    · exact .inl (Scope.resolve_eq_ok.mp byColumn)
    · exact .inr ⟨Scope.exists_resolve_eq_error_iff.mp ⟨_, failed⟩,
        Scope.resolve_eq_ok.mp byName⟩

/-- The positions of the fields of another entity that a query can read. -/
def readable (query : Query) (target : Shape) : List Nat :=
  (target.allowed query.only).filter fun position =>
    (target.fields[position]?).any fun field => (query.placeFor? field).isSome

theorem pairwise_readable (query : Query) (target : Shape) :
    (query.readable target).Pairwise (· < ·) :=
  (target.pairwise_allowed query.only).filter _

theorem mem_readable :
    position ∈ query.readable target ↔
      ∃ field place, target.fields[position]? = some field ∧ query.only.allows field = true ∧
        query.scope.ReadsFrom field place := by
  simp only [← placeFor?_eq_some_iff, ← Option.isSome_iff_exists, exists_and_left]
  rw [readable, List.mem_filter, Shape.mem_allowed]
  constructor
  · rintro ⟨⟨field, present, allows⟩, found⟩
    rw [present] at found
    exact ⟨field, present, allows, found⟩
  · rintro ⟨field, present, allows, found⟩
    rw [present]
    exact ⟨⟨field, rfl, allows⟩, found⟩

/-! ## Items -/

/-- An item stands under the field's own column if the listed column has another name. -/
theorem itemFor_eq_aliased (field : Field) (place : Place) :
    itemFor field place = Fragment.aliased
      (.place place, if Ascii.same place.column field.column then none else some field.column) := by
  rw [itemFor]
  split <;> rfl

theorem splitName_itemFor (field : Field) (place : Place) :
    (itemFor field place).splitName =
      (.place place, if Ascii.same place.column field.column then none else some field.column) := by
  rw [itemFor_eq_aliased]
  exact Fragment.splitName_aliased (Fragment.sealed_qualified place.table place.column)

theorem sealed_itemFor (field : Field) (place : Place) :
    Fragment.Sealed Fragment.isComma (itemFor field place) := by
  rw [itemFor_eq_aliased]
  have places : Fragment.Sealed Fragment.isComma (.place place) :=
    (Fragment.sealed_qualified place.table place.column).mono Fragment.isSeparator_of_isComma
  exact places.aliased rfl fun _ => rfl

/-- An item is labelled with the name of the field's own column, up to case. -/
theorem same_label_itemFor (field : Field) (place : Place) :
    Ascii.same (itemFor field place).label field.column = true := by
  rw [Fragment.label, splitName_itemFor]
  cases same : Ascii.same place.column field.column with
  | true =>
      rw [itemFor, if_pos same]
      exact same
  | false => exact Ascii.same_refl field.column

/-- The items are those of the fields that can be read, in their order. -/
theorem forall₂_itemsInto (query : Query) (target : Shape) :
    List.Forall₂
      (fun item position => ∃ field place, target.fields[position]? = some field ∧
        query.only.allows field = true ∧ query.scope.ReadsFrom field place ∧
        item = itemFor field place)
      (query.itemsInto target) (query.readable target) := by
  have inStep := (target.forall₂_allowed query.only).imp
    (S := fun field position =>
      (target.fields[position]? = some field ∧ query.only.allows field = true) ∧
        ((query.placeFor? field).map (itemFor field)).isSome =
          (target.fields[position]?).any fun field => (query.placeFor? field).isSome)
    (by
      rintro field position ⟨present, allows⟩
      rw [Option.isSome_map, present]
      exact ⟨⟨rfl, allows⟩, rfl⟩)
  refine (forall₂_filterMap_filter inStep).imp ?_
  rintro item position ⟨field, ⟨present, allows⟩, selected⟩
  obtain ⟨place, found, rfl⟩ := Option.map_eq_some_iff.mp selected
  exact ⟨field, place, present, allows, placeFor?_eq_some_iff.mp found, rfl⟩

theorem itemsInto_eq_nil_iff : query.itemsInto target = [] ↔ query.readable target = [] := by
  rw [← List.length_eq_zero_iff, ← List.length_eq_zero_iff,
    (query.forall₂_itemsInto target).length_eq]

/-- The labels of the items lead back to the fields that they were listed for. -/
theorem slots_labels (own : target.OwnColumns) :
    (Mapper.ofColumns target ((query.itemsInto target).map Fragment.label) query.only).slots =
      (query.readable target).map some := by
  refine Mapper.slotsFrom_of_finds ?_ ((query.pairwise_readable target).imp Nat.ne_of_lt)
    (by simp)
  refine List.forall₂_map_left_iff.mpr ((query.forall₂_itemsInto target).imp ?_)
  rintro item position ⟨field, place, present, allows, _, rfl⟩
  refine ⟨?_, field, present, allows⟩
  rw [target.find?_congr (same_label_itemFor field place)]
  exact own position field present

/-! ## Statements -/

theorem toSelectInto_of_items
    (plain : query.projection = none)
    (nonempty : query.itemsInto target ≠ []) :
    query.toSelectInto target =
      .ok ((query.selectFragmentOf (.commas (query.itemsInto target))).build query.dialect) := by
  rw [toSelectInto, projectionInto, plain]
  dsimp only
  rw [if_neg (by simpa using nonempty)]
  rfl

theorem toSelectInto_of_none
    (plain : query.projection = none)
    (empty : query.itemsInto target = []) :
    query.toSelectInto target = .error (.nothingResolves target.table) := by
  rw [toSelectInto, projectionInto, plain]
  dsimp only
  rw [if_pos (by simpa using empty)]
  rfl

/--
A query without a projection of its own lists, for an entity whose columns find their own
fields, each field that it can read once and in the order of the fields: the allowed ones whose
column, or else whose name, has a place in its tables. The mapper of the labels feeds every
listed column into the field that it was listed for. There is a statement unless no field can
be read, which is an error.
-/
theorem columns_into_fields
    (query : Query)
    (target : Shape)
    (plain : query.projection = none)
    (own : target.OwnColumns) :
    (query.readable target).Pairwise (· < ·) ∧
    (∀ position, position ∈ query.readable target ↔
      ∃ field place, target.fields[position]? = some field ∧ query.only.allows field = true ∧
        query.scope.ReadsFrom field place) ∧
    List.Forall₂
      (fun item position => ∃ field place, target.fields[position]? = some field ∧
        query.scope.ReadsFrom field place ∧ item.splitName.1 = .place place)
      (query.itemsInto target) (query.readable target) ∧
    (Mapper.ofColumns target ((query.itemsInto target).map Fragment.label) query.only).slots =
      (query.readable target).map some ∧
    (∀ statement, query.toSelectInto target = .ok statement ↔
      query.readable target ≠ [] ∧
        statement =
          (query.selectFragmentOf (.commas (query.itemsInto target))).build query.dialect) ∧
    (query.readable target ≠ [] →
      Fragment.splitCommas (.commas (query.itemsInto target)) = query.itemsInto target) ∧
    (∀ cause, query.toSelectInto target = .error cause ↔
      query.readable target = [] ∧ cause = .nothingResolves target.table) := by
  have inStep := query.forall₂_itemsInto target
  have areSealed : ∀ item ∈ query.itemsInto target, Fragment.Sealed Fragment.isComma item := by
    refine forall_mem_of_forall₂ inStep.flip ?_
    rintro position _ item ⟨field, place, _, _, _, rfl⟩
    exact sealed_itemFor field place
  refine ⟨query.pairwise_readable target, fun position => mem_readable, inStep.imp ?_,
    slots_labels own, fun statement => ?_, fun nonempty => ?_, fun cause => ?_⟩
  · rintro item position ⟨field, place, present, _, reads, rfl⟩
    exact ⟨field, place, present, reads, congrArg Prod.fst (splitName_itemFor field place)⟩
  · rw [Ne, ← itemsInto_eq_nil_iff]
    by_cases empty : query.itemsInto target = []
    · rw [toSelectInto_of_none plain empty]
      exact iff_of_false (by simp) fun both => both.1 empty
    · rw [toSelectInto_of_items plain empty, and_iff_right empty, Except.ok.injEq]
      exact eq_comm
  · exact Fragment.splitCommas_commas (mt itemsInto_eq_nil_iff.mp nonempty) areSealed
  · rw [← itemsInto_eq_nil_iff]
    by_cases empty : query.itemsInto target = []
    · rw [toSelectInto_of_none plain empty, and_iff_right empty, Except.error.injEq]
      exact eq_comm
    · rw [toSelectInto_of_items plain empty]
      exact iff_of_false (by simp) fun both => empty both.1

end Query

namespace Sample

/-- Cards of volumes: a heading in capitals, a shelf under another name, and a missing date. -/
def cards : Shape :=
  ⟨"cards", [⟨"heading", "LABEL", ⟨.text, true⟩⟩, ⟨"shelf", "place", ⟨.integer .signed64, false⟩⟩,
    ⟨"due", "due_on", ⟨.text, true⟩⟩, ⟨"volume", "VOLUME_ID", ⟨.integer .signed64, false⟩⟩, key]⟩

/-- The query for all of them but the key. -/
def carded : Query := lent.restrict ["label", "place", "due", "volume"]

end Sample

namespace Query

/-- Three of five fields can be read, each from a table of its own. -/
theorem columns_into_fields_cards :
    Sample.carded.projection = none ∧
      Sample.cards.OwnColumns ∧
      Sample.carded.readable Sample.cards = [0, 1, 3] ∧
      (Sample.carded.itemsInto Sample.cards).map Fragment.label =
        ["Label", "place", "volume_id"] ∧
      (Mapper.ofColumns Sample.cards ["Label", "place", "volume_id"] Sample.carded.only).slots =
        [some 0, some 1, some 3] ∧
      ∃ statement, Sample.carded.toSelectInto Sample.cards = .ok statement := by
  have own : Sample.cards.OwnColumns := by decide +kernel
  have readable : Sample.carded.readable Sample.cards = [0, 1, 3] := by decide +kernel
  have labels : (Sample.carded.itemsInto Sample.cards).map Fragment.label =
      ["Label", "place", "volume_id"] := by decide +kernel
  obtain ⟨_, _, _, slots, stated, _, _⟩ :=
    columns_into_fields Sample.carded Sample.cards rfl own
  rw [labels, readable] at slots
  exact ⟨rfl, own, readable, labels, slots, _, (stated _).mpr ⟨by simp [readable], rfl⟩⟩

end Query
end TypedSql
