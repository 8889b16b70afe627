import Mathlib.Data.List.Nodup
import TypedSql.Proofs.Numeric.Numeral
import TypedSql.Proofs.Record.ByName
import TypedSql.Proofs.Record.Layout
import TypedSql.Proofs.Sql.Cut

/-!
# Names of the columns of several entities

The tag before the name of a column is a number that ends at an underscore. No digit is an
underscore, so that the tag is told from whatever column follows it, even from one that looks
like a tag itself. Two columns of a projection have the same name only if they belong to the same
entity and are columns of the same name there.
-/

namespace TypedSql

/-! ## Tags -/

/-- The number in a tag ends before the first character that is no digit. -/
theorem takeWhile_aliasTag (position : Nat) (column : String) :
    ((aliasTag position ++ column).toList.drop 1).takeWhile Char.isDigit =
      (toString position).toList := by
  have shape : (aliasTag position ++ column).toList.drop 1 =
      (toString position).toList ++ '_' :: column.toList := by
    simp [aliasTag]
  rw [shape, List.takeWhile_append_of_pos (Decimal.isRun_toString position).all,
    List.takeWhile_cons_of_neg (by decide), List.append_nil]

theorem aliasTag_append_inj {position other : Nat} {column name : String} :
    aliasTag position ++ column = aliasTag other ++ name ↔
      position = other ∧ column = name := by
  constructor
  · intro same
    have digits : (toString position).toList = (toString other).toList := by
      rw [← takeWhile_aliasTag position column, same, takeWhile_aliasTag]
    have number := congrArg Decimal.placeValue digits
    rw [Decimal.placeValue_toString, Decimal.placeValue_toString] at number
    subst number
    exact ⟨rfl, (String.append_right_inj _).mp same⟩
  · rintro ⟨rfl, rfl⟩
    rfl

/-! ## Projections -/

/-- The names under which the items of a list are selected. -/
def Fragment.names (list : Fragment) : List String :=
  list.splitCommas.filterMap fun item => item.splitName.2

/-- The columns of a shape at a position, and the names under which they are selected. -/
def Shape.namedColumns (only : Restriction) (entry : Shape × Nat) :
    List (Fragment × Option String) :=
  (entry.1.fields.filter only.allows).map fun field =>
    (Fragment.qualified entry.1.table field.column, some (aliasTag entry.2 ++ field.column))

theorem Shape.filterMap_namedColumns (only : Restriction) (entry : Shape × Nat) :
    (namedColumns only entry).filterMap Prod.snd =
      (entry.1.columns only).map (aliasTag entry.2 ++ ·) := by
  rw [namedColumns, List.filterMap_map, columns, List.map_map]
  exact congrFun List.filterMap_eq_map _

theorem ColumnGroup.IsComplete.items_eq
    {group : ColumnGroup}
    {only : Restriction}
    (complete : group.IsComplete only) :
    group.items =
      (Shape.namedColumns only (group.shape, group.position)).map Fragment.aliased := by
  have inStep := group.shape.forall₂_allowed only
  rw [items, complete, Shape.namedColumns, List.map_map]
  generalize group.shape.allowed only = positions at inStep
  generalize group.shape.fields.filter only.allows = fields at inStep
  induction inStep with
  | nil => rfl
  | cons present _ inductionHypothesis =>
      rw [List.filterMap_cons_some (by rw [present.1]; rfl), List.map_cons, inductionHypothesis]
      rfl

namespace Layout

variable {only : Restriction} {shapes : List Shape} {layout : Layout}

theorem items_groupsFrom
    (only : Restriction)
    (shapes : List Shape)
    (position offset : Nat) :
    (groupsFrom only shapes position offset).flatMap ColumnGroup.items =
      ((shapes.zipIdx position).flatMap (Shape.namedColumns only)).map Fragment.aliased := by
  have each : ∀ group ∈ groupsFrom only shapes position offset,
      group.items =
        (Shape.namedColumns only (group.shape, group.position)).map Fragment.aliased :=
    fun _ member => (complete_of_mem_groupsFrom member).items_eq
  rw [List.flatMap_congr each, List.map_flatMap,
    ← zipIdx_groupsFrom only shapes position offset, List.flatMap_map]

/-- The columns of a projection are selected under their names behind the tags. -/
theorem names_projection (composed : ofShapes shapes only = .ok layout) :
    layout.projection.names =
      shapes.zipIdx.flatMap fun entry => (entry.1.columns only).map (aliasTag entry.2 ++ ·) := by
  have wide := width_ne_zero_of_ofShapes composed
  obtain rfl := ofShapes_eq_ok composed
  have items := items_groupsFrom only shapes 0 0
  have nonempty : shapes.zipIdx.flatMap (Shape.namedColumns only) ≠ [] := by
    intro empty
    have count := length_items_groupsFrom only shapes 0 0
    rw [items, empty] at count
    exact wide count.symm
  have each : ∀ item ∈ shapes.zipIdx.flatMap (Shape.namedColumns only),
      Fragment.Sealed Chunk.isSeparator item.1 := by
    intro item member
    obtain ⟨entry, _, isColumn⟩ := List.mem_flatMap.mp member
    obtain ⟨field, _, rfl⟩ := List.mem_map.mp isColumn
    exact Fragment.sealed_qualified _ _
  have parts := Fragment.map_splitName_splitCommas nonempty each
  have split := congrArg (List.filterMap Prod.snd) parts
  rw [List.filterMap_map, ← items, List.filterMap_flatMap] at split
  exact split.trans (List.flatMap_congr fun entry _ => Shape.filterMap_namedColumns only entry)

/-- Entities at different positions have no name in common. -/
theorem disjoint_names
    (only : Restriction)
    {entry other : Shape × Nat}
    (different : entry.2 ≠ other.2) :
    ((entry.1.columns only).map (aliasTag entry.2 ++ ·)).Disjoint
      ((other.1.columns only).map (aliasTag other.2 ++ ·)) := by
  intro name named alsoNamed
  obtain ⟨column, _, rfl⟩ := List.mem_map.mp named
  obtain ⟨_, _, same⟩ := List.mem_map.mp alsoNamed
  exact different (aliasTag_append_inj.mp same).1.symm

/-- Names are repeated only within an entity, and only where a column is. -/
theorem nodup_names_iff (position : Nat) :
    ((shapes.zipIdx position).flatMap fun entry =>
        (entry.1.columns only).map (aliasTag entry.2 ++ ·)).Nodup ↔
      ∀ shape ∈ shapes, (shape.columns only).Nodup := by
  have positions : ((shapes.zipIdx position).map Prod.snd).Nodup := by
    rw [List.zipIdx_map_snd]
    exact List.nodup_range' 1
  have apart := (List.pairwise_map.mp positions).imp (disjoint_names only)
  rw [List.nodup_flatMap, and_iff_left apart]
  conv_rhs => rw [← List.zipIdx_map_fst position shapes, List.forall_mem_map]
  refine forall₂_congr fun entry _ => List.nodup_map_iff fun column other same => ?_
  exact (aliasTag_append_inj.mp same).2

/--
A tag and a column's name behind it are found again in the name that they make. So the columns of
several entities, each selected under the tag of its entity's position and its own name, are
selected under different names exactly if no entity has an allowed column twice. That is so where
no shape lists a column twice, however often the shapes themselves are repeated.
-/
theorem names_distinct :
    (∀ (position other : Nat) (column name : String),
      aliasTag position ++ column = aliasTag other ++ name ↔
        position = other ∧ column = name) ∧
    ∀ (shapes : List Shape) (only : Restriction) (layout : Layout),
      ofShapes shapes only = .ok layout →
      layout.projection.names =
        (shapes.zipIdx.flatMap fun entry =>
          (entry.1.columns only).map (aliasTag entry.2 ++ ·)) ∧
      (layout.projection.names.Nodup ↔ ∀ shape ∈ shapes, (shape.columns only).Nodup) ∧
      ((∀ shape ∈ shapes, (shape.fields.map Field.column).Nodup) →
        layout.projection.names.Nodup) := by
  refine ⟨fun _ _ _ _ => aliasTag_append_inj, fun shapes only layout composed => ?_⟩
  have names := names_projection composed
  have distinct : layout.projection.names.Nodup ↔ ∀ shape ∈ shapes, (shape.columns only).Nodup := by
    rw [names]
    exact nodup_names_iff 0
  refine ⟨names, distinct, fun once => distinct.mpr fun shape member => ?_⟩
  exact (List.filter_sublist.map Field.column).nodup (once shape member)

end Layout

namespace Sample

/-- A table whose columns start like the end of a tag, or like a whole one. -/
def disguised : Shape :=
  ⟨"tags", [⟨"id", "id", ⟨.integer .signed64, false⟩⟩, ⟨"first", "1_id", ⟨.text, false⟩⟩,
    ⟨"bare", "_id", ⟨.text, true⟩⟩, ⟨"whole", "t0_id", ⟨.text, true⟩⟩]⟩

/-- A table in which one column is kept in two fields. -/
def doubled : Shape :=
  ⟨"pairs", [⟨"left", "id", ⟨.integer .signed64, false⟩⟩,
    ⟨"right", "id", ⟨.integer .signed64, false⟩⟩]⟩

/-- So many entities that the numbers of some tags start alike. -/
def crowd : List Shape := List.replicate 12 disguised

/-- Their layout. -/
def crowded : Layout := ⟨Layout.groupsFrom none crowd 0 0, 48⟩

/-- The layout of an entity with a column in two fields. -/
def repeated : Layout := ⟨[⟨0, doubled, [0, 1], 0⟩], 2⟩

end Sample

namespace Layout

/-- Without the tag's underscore, `1_id` at position 1 would be named as `_id` at position 11. -/
theorem names_distinct_disguised :
    aliasTag 1 ++ "1_id" ≠ aliasTag 11 ++ "_id" ∧
      ofShapes Sample.crowd none = .ok Sample.crowded ∧
      (∀ shape ∈ Sample.crowd, (shape.fields.map Field.column).Nodup) ∧
      Sample.crowded.projection.names.Nodup ∧
      ofShapes [Sample.doubled] none = .ok Sample.repeated ∧
      Sample.repeated.projection.names = ["t0_id", "t0_id"] ∧
      ¬ Sample.repeated.projection.names.Nodup := by
  obtain ⟨tags, projections⟩ := names_distinct
  have composed : ofShapes Sample.crowd none = .ok Sample.crowded := rfl
  have once : ∀ shape ∈ Sample.crowd, (shape.fields.map Field.column).Nodup := by
    intro shape member
    rw [List.eq_of_mem_replicate member]
    decide
  have again : ofShapes [Sample.doubled] none = .ok Sample.repeated := rfl
  obtain ⟨names, distinct, _⟩ := projections _ _ _ again
  refine ⟨fun same => ?_, composed, once, (projections _ _ _ composed).2.2 once, again, ?_, ?_⟩
  · exact absurd ((tags 1 11 "1_id" "_id").mp same).1 (by decide)
  · exact names.trans (by decide)
  · rw [distinct]
    decide

end Layout
end TypedSql
