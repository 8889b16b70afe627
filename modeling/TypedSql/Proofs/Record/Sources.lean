import TypedSql.Dialect.Vendor
import TypedSql.Proofs.Record.Group

/-!
# The columns that fields are read from

Of the columns that find a field, a mapper by name reads the first, and none if the
restriction leaves the field out. This column is the source of the field. Mapping a row onto
a record puts into each field what the cell of its source becomes and takes that cell out of
the row; every other field and every other cell stays, whatever the order of the columns is
and however often a name stands among them. Where a cell is refused, only what stands to the
left of it has been assigned, and it is the last one that was taken.
-/

namespace TypedSql

/-- A column is the source of a field: it is the first that finds it, and the field is allowed. -/
structure Shape.Source
    (shape : Shape)
    (only : Restriction)
    (columns : List String)
    (column position : Nat) : Prop where
  finds : ∃ name, columns[column]? = some name ∧ shape.find? name = some position
  allowed : ∃ field, shape.fields[position]? = some field ∧ only.allows field = true
  first : ∀ (earlier : Nat) name, earlier < column → columns[earlier]? = some name →
    shape.find? name ≠ some position

/-- The record has one value for each field of a shape. -/
structure Record.IsOf (record : Record) (shape : Shape) : Prop where
  shape_eq : record.shape = shape
  length_eq : record.values.length = shape.width

/--
The record with fields set to what the cells of their sources become, and all other fields as
they were.
-/
structure Record.SetFrom
    (dialect : Dialect)
    (row : Row)
    (sources : Nat → Nat → Prop)
    (record after : Record) : Prop where
  isOf : after.IsOf record.shape
  set : ∀ column position, sources column position →
    ∃ field cell value, record.shape.fields[position]? = some field ∧
      row.cell? column = some cell ∧ field.hold dialect cell = .ok value ∧
      after.values[position]? = some value
  kept : ∀ position, (∀ column, ¬ sources column position) →
    after.values[position]? = record.values[position]?

/-- The row with some cells replaced by the null value, and all others as they were. -/
structure Row.TakenFrom (taken : Nat → Prop) (row left : Row) : Prop where
  columns : left.columns = row.columns
  width : left.width = row.width
  cleared : ∀ column, taken column → left.cell? column = some .null
  kept : ∀ column, ¬ taken column → left.cell? column = row.cell? column

/-! ## Sources -/

namespace Shape

variable {shape : Shape} {only : Restriction} {columns : List String} {column position : Nat}

namespace Source

/-- A source is one of the columns. -/
theorem lt_length (source : shape.Source only columns column position) :
    column < columns.length := by
  obtain ⟨_, listed, _⟩ := source.finds
  exact (List.getElem?_eq_some_iff.mp listed).1

/-- A field has at most one source. -/
theorem column_eq
    {other : Nat}
    (source : shape.Source only columns column position)
    (otherSource : shape.Source only columns other position) :
    column = other := by
  obtain ⟨name, listed, found⟩ := source.finds
  obtain ⟨otherName, otherListed, otherFound⟩ := otherSource.finds
  rcases Nat.lt_trichotomy column other with before | same | after
  · exact absurd found (otherSource.first column name before listed)
  · exact same
  · exact absurd otherFound (source.first other otherName after otherListed)

end Source

theorem source_zero_iff {name : String} :
    shape.Source only (name :: columns) 0 position ↔
      shape.find? name = some position ∧
        ∃ field, shape.fields[position]? = some field ∧ only.allows field = true := by
  constructor
  · rintro ⟨⟨_, listed, found⟩, allowed, _⟩
    obtain rfl := Option.some.inj listed
    exact ⟨found, allowed⟩
  · rintro ⟨found, allowed⟩
    exact ⟨⟨name, rfl, found⟩, allowed, fun earlier _ before => absurd before earlier.not_lt_zero⟩

theorem source_succ_iff {name : String} :
    shape.Source only (name :: columns) (column + 1) position ↔
      shape.find? name ≠ some position ∧ shape.Source only columns column position := by
  constructor
  · rintro ⟨finds, allowed, first⟩
    exact ⟨first 0 name column.succ_pos rfl, finds, allowed,
      fun earlier other before => first (earlier + 1) other (Nat.succ_lt_succ before)⟩
  · rintro ⟨unfound, finds, allowed, first⟩
    refine ⟨finds, allowed, fun earlier other before listed => ?_⟩
    cases earlier with
    | zero => exact Option.some.inj listed ▸ unfound
    | succ earlier => exact first earlier other (Nat.lt_of_succ_lt_succ before) listed

end Shape

/-! ## Slots -/

namespace Mapper

variable {shape : Shape} {only : Restriction} {columns : List String} {position : Nat}

theorem slotFor_eq_some_iff {fed : List Nat} {name : String} :
    slotFor shape only fed name = some position ↔
      shape.find? name = some position ∧ position ∉ fed ∧
        ∃ field, shape.fields[position]? = some field ∧ only.allows field = true := by
  simp [slotFor, Option.filter_eq_some_iff, Option.any_eq_true]

/-- Each column feeds the field that it is the source of, unless the field is fed already. -/
theorem slotsFrom_eq_some_iff {fed : List Nat} {column : Nat} :
    (slotsFrom shape only fed columns)[column]? = some (some position) ↔
      shape.Source only columns column position ∧ position ∉ fed := by
  induction columns generalizing fed column with
  | nil =>
      refine iff_of_false (by simp [slotsFrom]) ?_
      rintro ⟨source, _⟩
      exact absurd source.lt_length column.not_lt_zero
  | cons name columns inductionHypothesis =>
      cases column with
      | zero =>
          rw [slotsFrom, List.getElem?_cons_zero, Option.some.injEq, slotFor_eq_some_iff,
            Shape.source_zero_iff]
          tauto
      | succ column =>
          rw [slotsFrom, List.getElem?_cons_succ, inductionHypothesis, Shape.source_succ_iff,
            List.mem_append, not_or, Option.mem_toList, slotFor_eq_some_iff]
          -- A column behind the first is a source exactly if the first did not feed its field.
          constructor
          · rintro ⟨source, notNow, unfed⟩
            exact ⟨⟨fun found => notNow ⟨found, unfed, source.allowed⟩, source⟩, unfed⟩
          · rintro ⟨⟨unfound, source⟩, unfed⟩
            exact ⟨source, fun now => unfound now.1, unfed⟩

/-! ## Fed cells -/

/-- Cells of a row that are fed, in the columns and into the fields that a relation says. -/
structure Lists (fed : List Feed) (row : Row) (sources : Nat → Nat → Prop) : Prop where
  listed : ∀ column position, sources column position ↔
    ∃ cell, (⟨column, position, cell⟩ : Feed) ∈ fed
  held : ∀ feed ∈ fed, row.cell? feed.column = some feed.cell
  distinct : (fed.map Feed.position).Nodup

variable {row : Row} {fed : List Feed} {sources : Nat → Nat → Prop}

/-- Some of the fed cells, told from the others by their columns. -/
theorem Lists.restrict
    {kept : List Feed}
    {keeps : Nat → Prop}
    (lists : Lists fed row sources)
    (sublist : kept.Sublist fed)
    (mem_kept : ∀ feed, feed ∈ kept ↔ feed ∈ fed ∧ keeps feed.column) :
    Lists kept row fun column position => sources column position ∧ keeps column where
  listed := by
    intro column position
    simp only [mem_kept, exists_and_right, lists.listed]
  held := fun feed member => lists.held feed (sublist.subset member)
  distinct := lists.distinct.sublist (sublist.map Feed.position)

/-- What is fed of a row that has a cell for each column is fed from the sources. -/
theorem lists_ofColumns
    (shape : Shape)
    (only : Restriction)
    (wide : row.width = columns.length) :
    Lists (feedsFrom row 0 (ofColumns shape columns only).slots) row
      (shape.Source only columns) := by
  have mem_feeds {feed : Feed} :
      feed ∈ feedsFrom row 0 (ofColumns shape columns only).slots ↔
        shape.Source only columns feed.column feed.position ∧
          row.cell? feed.column = some feed.cell := by
    rw [mem_feedsFrom]
    constructor
    · rintro ⟨place, slot, same, held⟩
      rw [Nat.zero_add] at same
      exact ⟨same ▸ (slotsFrom_eq_some_iff.mp slot).1, held⟩
    · rintro ⟨source, held⟩
      exact ⟨feed.column, slotsFrom_eq_some_iff.mpr ⟨source, List.not_mem_nil⟩,
        (Nat.zero_add _).symm, held⟩
  refine ⟨fun column position => ?_, fun feed member => (mem_feeds.mp member).2, ?_⟩
  · simp only [mem_feeds, exists_and_left]
    refine (and_iff_left_of_imp fun source => ?_).symm
    have inside : column < row.width := wide ▸ source.lt_length
    exact ⟨_, List.getElem?_eq_getElem inside⟩
  · -- A field has one source, so no two columns feed it.
    refine List.pairwise_map.mpr ((pairwise_feedsFrom row 0 _).imp_of_mem ?_)
    intro feed later member laterMember before same
    have source := (mem_feeds.mp member).1
    rw [same] at source
    exact Nat.ne_of_lt before (source.column_eq (mem_feeds.mp laterMember).1)

/-- A cell becomes a value only in a field that there is. -/
theorem Feed.exists_field_of_outcome
    {dialect : Dialect}
    {feed : Feed}
    {value : Value}
    (becomes : feed.outcome dialect shape = .ok value) :
    ∃ field, shape.fields[feed.position]? = some field ∧
      field.hold dialect feed.cell = .ok value := by
  unfold outcome at becomes
  split at becomes
  · cases becomes
  · next field present => exact ⟨field, present, becomes⟩

end Mapper

namespace Mapper.Lists

variable {dialect : Dialect} {record : Record} {row : Row} {fed : List Feed}
  {sources : Nat → Nat → Prop}

/-- Fields are set by putting into them what the fed cells become. -/
theorem setFrom_fill
    (lists : Lists fed row sources)
    (isOf : record.IsOf record.shape)
    (succeeds : ∀ feed ∈ fed, ∃ value, feed.outcome dialect record.shape = .ok value) :
    record.SetFrom dialect row sources (record.fill dialect fed) where
  isOf := ⟨Record.shape_fill fed, (Record.length_values_fill fed).trans isOf.length_eq⟩
  set := by
    intro column position source
    obtain ⟨cell, member⟩ := (lists.listed column position).mp source
    obtain ⟨value, becomes⟩ := succeeds _ member
    obtain ⟨field, present, holds⟩ := Feed.exists_field_of_outcome becomes
    have inside : position < record.values.length :=
      isOf.length_eq ▸ (List.getElem?_eq_some_iff.mp present).1
    refine ⟨field, cell, value, present, lists.held _ member, holds, ?_⟩
    rw [Record.values_fill_of_mem lists.distinct inside member, Feed.value, becomes]
    rfl
  kept := by
    intro position unfed
    refine Record.values_fill_of_ne fun feed member same => ?_
    exact unfed feed.column ((lists.listed _ _).mpr ⟨feed.cell, same ▸ member⟩)

/-- The fed cells are those that are taken. -/
theorem takenFrom_clearAll (lists : Lists fed row sources) :
    row.TakenFrom (fun column => ∃ position, sources column position) (row.clearAll fed) where
  columns := Row.columns_clearAll fed
  width := Row.width_clearAll fed
  cleared := by
    rintro column ⟨position, source⟩
    obtain ⟨cell, member⟩ := (lists.listed column position).mp source
    have inside := (List.getElem?_eq_some_iff.mp (lists.held _ member)).1
    exact Row.cell?_clearAll_of_mem inside member
  kept := by
    intro column untaken
    refine Row.cell?_clearAll_of_ne fun feed member same => untaken ?_
    exact ⟨feed.position, (lists.listed _ _).mpr ⟨feed.cell, same ▸ member⟩⟩

end Mapper.Lists

namespace Mapper

variable {shape : Shape}

/--
Mapping a row by the names of its columns sets each field that has a source to what the cell
there becomes, and takes the cells of all sources; or there is a first source whose cell its
field refuses, which is reported, and only what stands to the left of it is set. Nothing
else changes in the record or in the row.
-/
theorem apply_reads_sources
    (dialect : Dialect)
    (only : Restriction)
    (columns : List String)
    (record : Record)
    (row : Row)
    (isOf : record.IsOf shape)
    (wide : row.width = columns.length) :
    (∃ after left,
      (ofColumns shape columns only).apply dialect record row = (.ok (), after, left) ∧
      record.SetFrom dialect row (shape.Source only columns) after ∧
      row.TakenFrom (fun column => ∃ position, shape.Source only columns column position)
        left) ∨
    ∃ column position field cell cause after left,
      shape.Source only columns column position ∧
      shape.fields[position]? = some field ∧
      row.cell? column = some cell ∧
      field.hold dialect cell = .error cause ∧
      (ofColumns shape columns only).apply dialect record row =
        (.error (conversionError row column field.name cause), after, left) ∧
      record.SetFrom dialect row
        (fun earlier other => shape.Source only columns earlier other ∧ earlier < column)
        after ∧
      row.TakenFrom
        (fun taken => ∃ other, shape.Source only columns taken other ∧ taken ≤ column)
        left ∧
      (row.columns = columns →
        ∃ name, columns[column]? = some name ∧ shape.find? name = some position ∧
          conversionError row column field.name cause =
            .conversion ⟨name, field.name, cause⟩) := by
  obtain rfl := isOf.shape_eq
  have lists := lists_ofColumns record.shape only wide
  rcases outcome_cases dialect record.shape
      (feedsFrom row 0 (ofColumns record.shape columns only).slots) with
    succeeds | ⟨front, failed, back, cause, split, succeeds, fails⟩
  · left
    exact ⟨_, _, applyFrom_ok record succeeds, lists.setFrom_fill isOf succeeds,
      lists.takenFrom_clearAll⟩
  · right
    obtain ⟨column, position, cell⟩ := failed
    have member : (⟨column, position, cell⟩ : Feed) ∈
        feedsFrom row 0 (ofColumns record.shape columns only).slots :=
      split ▸ List.mem_append_cons_self
    have source := (lists.listed column position).mpr ⟨cell, member⟩
    obtain ⟨field, present, _⟩ := source.allowed
    have refused : field.hold dialect cell = .error cause :=
      (Feed.outcome_of_field dialect present).symm.trans fails
    have named : fieldName record position = field.name := by
      rw [fieldName, present]
      rfl
    have applied := applyFrom_error record split succeeds fails
    rw [named] at applied
    have cut : feedsFrom row 0 (ofColumns record.shape columns only).slots =
        (front ++ [⟨column, position, cell⟩]) ++ back := by
      rw [split, List.append_assoc, List.singleton_append]
    have assigned : Lists front row fun earlier other =>
        record.shape.Source only columns earlier other ∧ earlier < column :=
      lists.restrict (split ▸ List.sublist_append_left front _) fun _ => mem_front_iff split
    have taken : Lists (front ++ [⟨column, position, cell⟩]) row fun earlier other =>
        record.shape.Source only columns earlier other ∧ earlier ≤ column :=
      lists.restrict (cut ▸ List.sublist_append_left _ back) fun _ => mem_through_iff split
    refine ⟨column, position, field, cell, cause, _, _, source, present, lists.held _ member,
      refused, applied, assigned.setFrom_fill isOf succeeds, taken.takenFrom_clearAll,
      fun labelled => ?_⟩
    obtain ⟨name, listed, found⟩ := source.finds
    refine ⟨name, listed, found, ?_⟩
    rw [conversionError, Row.columnName?, labelled, listed]
    rfl

end Mapper

namespace Sample

/-- Tracks with a length that is kept under another name, and a note. -/
def tracks : Shape :=
  ⟨"tracks", [⟨"id", "id", ⟨.integer .signed64, false⟩⟩, ⟨"title", "Title", ⟨.text, false⟩⟩,
    ⟨"length", "seconds", ⟨.integer .signed8, false⟩⟩, ⟨"note", "note", ⟨.text, true⟩⟩]⟩

/-- All fields of a track but its note. -/
def noteless : Restriction := some ["id", "title", "length"]

/-- A track before it is read. -/
def track : Record := ⟨tracks, [.integer 5, .text "old", .integer 9, .text "kept"]⟩

/-- A row with a repeated column, one that no field has, and a length that is too large. -/
def playback : Row :=
  ⟨["ID", "extra", "title", "id", "LENGTH", "note"],
    [.integer 7, .integer 1, .text "new", .integer 8, .integer 300, .text "lost"]⟩

end Sample

namespace Mapper

/-- Two fields are set before the third refuses its cell; the fourth is left out. -/
theorem apply_reads_sources_tracks :
    Sample.track.IsOf Sample.tracks ∧
      Sample.playback.width = Sample.playback.columns.length ∧
      ∃ (column position : Nat) (field : Field) (cell : Value) (cause : ValueError) (after : Record)
          (left : Row),
        Sample.tracks.Source Sample.noteless Sample.playback.columns column position ∧
        field.hold (Vendor.dialect .sqlite) cell = .error cause ∧
        (ofColumns Sample.tracks Sample.playback.columns Sample.noteless).apply
            (Vendor.dialect .sqlite) Sample.track Sample.playback =
          (.error (conversionError Sample.playback column field.name cause), after, left) ∧
        after.values = [.integer 7, .text "new", .integer 9, .text "kept"] ∧
        left.cells = [.null, .integer 1, .null, .integer 8, .null, .text "lost"] := by
  have isOf : Sample.track.IsOf Sample.tracks := ⟨rfl, rfl⟩
  have computed :
      (ofColumns Sample.tracks Sample.playback.columns Sample.noteless).apply
          (Vendor.dialect .sqlite) Sample.track Sample.playback =
        (.error (.conversion ⟨"LENGTH", "length", .outOfRange 300 .signed8⟩),
          ⟨Sample.tracks, [.integer 7, .text "new", .integer 9, .text "kept"]⟩,
          ⟨Sample.playback.columns,
            [.null, .integer 1, .null, .integer 8, .null, .text "lost"]⟩) := by
    decide +kernel
  refine ⟨isOf, rfl, ?_⟩
  rcases apply_reads_sources (Vendor.dialect .sqlite) Sample.noteless Sample.playback.columns
      Sample.track Sample.playback isOf rfl with
    ⟨after, left, applied, _⟩ |
    ⟨column, position, field, cell, cause, after, left, source, _, _, refused, applied, _⟩
  · rw [computed] at applied
    cases applied
  · refine ⟨column, position, field, cell, cause, after, left, source, refused, applied, ?_⟩
    have same := congrArg Prod.snd (computed.symm.trans applied)
    obtain ⟨rfl, rfl⟩ := Prod.mk.inj same
    exact ⟨rfl, rfl⟩

end Mapper
end TypedSql
