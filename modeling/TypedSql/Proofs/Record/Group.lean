import Mathlib.Data.List.Forall2
import TypedSql.Proofs.Record.Feed

/-!
# Reading a group of columns

A group reads the allowed fields of one shape, each from a column of its own, so that no
field is fed twice and none is left out. The record it gives has every allowed field filled
and every other one fresh; the first cell that does not convert is reported in its place.
Columns behind the group are left for the groups that follow.
-/

namespace TypedSql

/-! ## Allowed fields -/

section Allowed

variable {only : Restriction} {fields : List Field} {position start : Nat}

theorem allowedFrom_cons (field : Field) :
    allowedFrom only (field :: fields) start =
      (if only.allows field then [start] else []) ++ allowedFrom only fields (start + 1) := by
  rw [allowedFrom]
  split <;> rfl

theorem mem_allowedFrom :
    position ∈ allowedFrom only fields start ↔
      ∃ place field, fields[place]? = some field ∧ only.allows field = true ∧
        position = start + place := by
  induction fields generalizing start with
  | nil => simp [allowedFrom]
  | cons field fields inductionHypothesis =>
      rw [allowedFrom_cons, List.mem_append, inductionHypothesis]
      refine Iff.trans (or_congr ?_ ?_) Nat.or_exists_add_one
      · cases allows : only.allows field <;> simp [allows]
      · simp only [List.getElem?_cons_succ, Nat.add_assoc, Nat.add_comm 1]

theorem pairwise_allowedFrom (only : Restriction) (fields : List Field) (start : Nat) :
    (allowedFrom only fields start).Pairwise (· < ·) := by
  induction fields generalizing start with
  | nil => exact .nil
  | cons field fields inductionHypothesis =>
      rw [allowedFrom_cons, List.pairwise_append]
      refine ⟨?_, inductionHypothesis (start + 1), ?_⟩
      · split
        · exact List.pairwise_singleton _ _
        · exact .nil
      · intro first isFirst later isLater
        obtain ⟨place, _, _, _, rfl⟩ := mem_allowedFrom.mp isLater
        split at isFirst
        · obtain rfl := List.mem_singleton.mp isFirst
          omega
        · cases isFirst

/-- The allowed fields are listed in step with their positions. -/
theorem forall₂_allowedFrom (only : Restriction) (fields : List Field) (start : Nat) :
    List.Forall₂
      (fun field position =>
        ∃ place, fields[place]? = some field ∧ only.allows field = true ∧ position = start + place)
      (fields.filter only.allows) (allowedFrom only fields start) := by
  induction fields generalizing start with
  | nil => exact .nil
  | cons field fields inductionHypothesis =>
      have others : List.Forall₂
          (fun later position => ∃ place, (field :: fields)[place]? = some later ∧
            only.allows later = true ∧ position = start + place)
          (fields.filter only.allows) (allowedFrom only fields (start + 1)) := by
        refine (inductionHypothesis (start + 1)).imp ?_
        rintro later _ ⟨place, present, allows, rfl⟩
        exact ⟨place + 1, present, allows, by omega⟩
      rw [allowedFrom]
      cases allows : only.allows field with
      | false =>
          rw [List.filter_cons_of_neg (by simp [allows]), if_neg Bool.false_ne_true]
          exact others
      | true =>
          rw [List.filter_cons_of_pos allows, if_pos rfl]
          exact .cons ⟨0, rfl, allows, rfl⟩ others

theorem Shape.forall₂_allowed (shape : Shape) (only : Restriction) :
    List.Forall₂
      (fun field position => shape.fields[position]? = some field ∧ only.allows field = true)
      (shape.fields.filter only.allows) (shape.allowed only) := by
  refine (forall₂_allowedFrom only shape.fields 0).imp ?_
  rintro field _ ⟨place, present, allows, rfl⟩
  rw [Nat.zero_add]
  exact ⟨present, allows⟩

/-- The allowed positions are those of the fields that the restriction leaves in. -/
theorem Shape.mem_allowed {shape : Shape} :
    position ∈ shape.allowed only ↔
      ∃ field, shape.fields[position]? = some field ∧ only.allows field = true := by
  rw [Shape.allowed, mem_allowedFrom]
  constructor
  · rintro ⟨place, field, present, allows, rfl⟩
    exact ⟨field, (Nat.zero_add place).symm ▸ present, allows⟩
  · rintro ⟨field, present, allows⟩
    exact ⟨position, field, present, allows, (Nat.zero_add position).symm⟩

/-- The allowed positions are listed once each, in the order of the fields. -/
theorem Shape.pairwise_allowed (shape : Shape) (only : Restriction) :
    (shape.allowed only).Pairwise (· < ·) :=
  pairwise_allowedFrom only shape.fields 0

theorem Shape.nodup_allowed (shape : Shape) (only : Restriction) :
    (shape.allowed only).Nodup :=
  (shape.pairwise_allowed only).imp Nat.ne_of_lt

end Allowed

/-! ## Columns of a group -/

namespace ColumnGroup

/-- A column of the group is read into a field. -/
def Reads (group : ColumnGroup) (column : Nat) (field : Field) : Prop :=
  ∃ place position, group.fields[place]? = some position ∧
    group.shape.fields[position]? = some field ∧ column = group.offset + place

/-- The cells of a row in the group's columns are those of the fields' own columns. -/
def FedBy (group : ColumnGroup) (cells : String → Value) (row : Row) : Prop :=
  ∀ column field, group.Reads column field → row.cell? column = some (cells field.column)

/-- The group reads all fields that a restriction leaves in. -/
def IsComplete (group : ColumnGroup) (only : Restriction) : Prop :=
  group.fields = group.shape.allowed only

variable {group : ColumnGroup} {column : Nat} {field : Field}

theorem Reads.offset_le (reads : group.Reads column field) : group.offset ≤ column := by
  obtain ⟨place, _, _, _, rfl⟩ := reads
  exact Nat.le_add_right _ _

theorem Reads.lt_finish (reads : group.Reads column field) : column < group.finish := by
  obtain ⟨place, _, listed, _, rfl⟩ := reads
  exact Nat.add_lt_add_left (List.getElem?_eq_some_iff.mp listed).1 _

/-- What a row holds before the group does not matter to it. -/
theorem FedBy.congr
    {cells : String → Value}
    {row left : Row}
    (fed : group.FedBy cells row)
    (same : ∀ column, group.offset ≤ column → left.cell? column = row.cell? column) :
    group.FedBy cells left := by
  intro column field reads
  rw [same column reads.offset_le]
  exact fed column field reads

theorem fedBy_iff {cells : String → Value} {row : Row} :
    group.FedBy cells row ↔
      ∀ entry ∈ group.fields.zipIdx, ∀ field ∈ group.shape.fields[entry.1]?,
        row.cell? (group.offset + entry.2) = some (cells field.column) := by
  constructor
  · rintro fed ⟨position, place⟩ listed field present
    exact fed _ field ⟨place, position, List.mem_zipIdx_iff_getElem?.mp listed, present, rfl⟩
  · rintro cellOf column field ⟨place, position, listed, present, rfl⟩
    exact cellOf (position, place) (List.mem_zipIdx_iff_getElem?.mpr listed) field present

instance (group : ColumnGroup) (cells : String → Value) (row : Row) :
    Decidable (group.FedBy cells row) :=
  decidable_of_iff _ fedBy_iff.symm

end ColumnGroup

/-- An allowed field is filled from the cell of its own column; another one is fresh. -/
structure Record.FilledFrom
    (dialect : Dialect)
    (only : Restriction)
    (cells : String → Value)
    (record : Record) : Prop where
  width : record.values.length = record.shape.width
  filled : ∀ (position : Nat) field, record.shape.fields[position]? = some field →
    only.allows field = true →
    ∃ value, field.hold dialect (cells field.column) = .ok value ∧
      record.values[position]? = some value
  fresh : ∀ (position : Nat) field, record.shape.fields[position]? = some field →
    only.allows field = false → record.values[position]? = some field.type.fresh

/-- The first column of some groups whose cell its field refuses. -/
structure FirstRefusal
    (dialect : Dialect)
    (cells : Nat → String → Value)
    (groups : List ColumnGroup)
    (column : Nat)
    (field : Field)
    (cause : ValueError) : Prop where
  refused : ∃ group ∈ groups, group.Reads column field ∧
    field.hold dialect (cells group.position field.column) = .error cause
  earlier : ∀ group ∈ groups, ∀ before former, group.Reads before former → before < column →
    ∃ value, former.hold dialect (cells group.position former.column) = .ok value

/-! ## Materializing a group -/

@[simp] theorem Record.shape_fresh (shape : Shape) : (Record.fresh shape).shape = shape := rfl

namespace Mapper

variable {dialect : Dialect} {shape : Shape}

/-- Either all cells become values, or there is a first one that does not. -/
theorem outcome_cases (dialect : Dialect) (shape : Shape) (feeds : List Feed) :
    (∀ feed ∈ feeds, ∃ value, feed.outcome dialect shape = .ok value) ∨
    ∃ front failed back cause, feeds = front ++ failed :: back ∧
      (∀ feed ∈ front, ∃ value, feed.outcome dialect shape = .ok value) ∧
      failed.outcome dialect shape = .error cause := by
  induction feeds with
  | nil => exact .inl (by simp)
  | cons feed feeds inductionHypothesis =>
      cases becomes : feed.outcome dialect shape with
      | error cause => exact .inr ⟨[], feed, feeds, cause, rfl, by simp, becomes⟩
      | ok value =>
          rcases inductionHypothesis with succeeds | ⟨front, failed, back, cause, rfl, others⟩
          · exact .inl (List.forall_mem_cons.mpr ⟨⟨value, becomes⟩, succeeds⟩)
          · refine .inr ⟨feed :: front, failed, back, cause, rfl, ?_, others.2⟩
            exact List.forall_mem_cons.mpr ⟨⟨value, becomes⟩, others.1⟩

/-- A field is fed at most as often as it has a column. -/
theorem positions_feedsFrom_sublist (row : Row) (column : Nat) (fields : List Nat) :
    ((feedsFrom row column (fields.map some)).map Feed.position).Sublist fields := by
  induction fields generalizing column with
  | nil => exact .slnil
  | cons position fields inductionHypothesis =>
      rw [List.map_cons, feedsFrom]
      split
      · exact (inductionHypothesis (column + 1)).cons position
      · exact (inductionHypothesis (column + 1)).cons_cons position

theorem values_fresh
    {position : Nat}
    {field : Field}
    (present : shape.fields[position]? = some field) :
    (Record.fresh shape).values[position]? = some field.type.fresh := by
  rw [Record.fresh, List.getElem?_map, present]
  rfl

variable {row left : Row} {record : Record}

theorem materialize_of_ok
    (mapper : Mapper)
    (applied : mapper.apply dialect (.fresh mapper.shape) row = (.ok (), record, left)) :
    mapper.materialize dialect row = (.ok record, left) := by
  rw [materialize, applied]

theorem materialize_of_error
    {cause : Error}
    (mapper : Mapper)
    (applied : mapper.apply dialect (.fresh mapper.shape) row = (.error cause, record, left)) :
    mapper.materialize dialect row = (.error cause, left) := by
  rw [materialize, applied]

end Mapper

namespace ColumnGroup

variable {group : ColumnGroup} {only : Restriction} {cells : String → Value} {row : Row}
  {dialect : Dialect}

/-- The cells that the columns of the group feed into fields. -/
def feeds (group : ColumnGroup) (row : Row) : List Mapper.Feed :=
  Mapper.feedsFrom row group.offset (group.fields.map some)

theorem mem_feeds {feed : Mapper.Feed} :
    feed ∈ group.feeds row ↔
      ∃ place, group.fields[place]? = some feed.position ∧
        feed.column = group.offset + place ∧ row.cell? feed.column = some feed.cell := by
  simp [feeds, Mapper.mem_feedsFrom]

/-- Each cell of a complete group goes into the field whose column it is. -/
theorem field_of_mem_feeds
    {feed : Mapper.Feed}
    (dialect : Dialect)
    (complete : group.IsComplete only)
    (fed : group.FedBy cells row)
    (member : feed ∈ group.feeds row) :
    ∃ field, group.shape.fields[feed.position]? = some field ∧
      group.Reads feed.column field ∧
      feed.outcome dialect group.shape = field.hold dialect (cells field.column) := by
  obtain ⟨place, listed, behind, held⟩ := mem_feeds.mp member
  have allowed : feed.position ∈ group.shape.allowed only :=
    complete ▸ List.mem_of_getElem? listed
  obtain ⟨field, present, _⟩ := Shape.mem_allowed.mp allowed
  have reads : group.Reads feed.column field := ⟨place, feed.position, listed, present, behind⟩
  refine ⟨field, present, reads, ?_⟩
  rw [fed feed.column field reads] at held
  rw [Mapper.Feed.outcome_of_field dialect present, ← Option.some.inj held]

/-- Every field that is read is fed the cell of its own column. -/
theorem exists_mem_feeds
    {place position : Nat}
    {field : Field}
    (dialect : Dialect)
    (fed : group.FedBy cells row)
    (listed : group.fields[place]? = some position)
    (present : group.shape.fields[position]? = some field) :
    ∃ feed ∈ group.feeds row, feed.column = group.offset + place ∧ feed.position = position ∧
      feed.outcome dialect group.shape = field.hold dialect (cells field.column) := by
  have held := fed _ field ⟨place, position, listed, present, rfl⟩
  refine ⟨⟨group.offset + place, position, cells field.column⟩, ?_, rfl, rfl, ?_⟩
  · exact mem_feeds.mpr ⟨place, listed, rfl, held⟩
  · exact Mapper.Feed.outcome_of_field dialect present

/-- The record of a complete group whose cells all convert. -/
theorem filledFrom_fill
    (complete : group.IsComplete only)
    (fed : group.FedBy cells row)
    (succeeds : ∀ feed ∈ group.feeds row,
      ∃ value, feed.outcome dialect group.shape = .ok value) :
    ((Record.fresh group.shape).fill dialect (group.feeds row)).FilledFrom dialect only
      cells where
  width := by simp [Record.fresh, Shape.width]
  filled := by
    intro position field present allows
    rw [Record.shape_fill, Record.shape_fresh] at present
    -- The field has a column, and the cell of that column is the only one that feeds it.
    have allowed : position ∈ group.fields :=
      complete ▸ Shape.mem_allowed.mpr ⟨field, present, allows⟩
    obtain ⟨place, listed⟩ := List.getElem?_of_mem allowed
    obtain ⟨feed, member, _, rfl, becomes⟩ :=
      exists_mem_feeds dialect fed listed present
    obtain ⟨value, succeeded⟩ := succeeds feed member
    have distinct : ((group.feeds row).map Mapper.Feed.position).Nodup :=
      (complete ▸ group.shape.nodup_allowed only : group.fields.Nodup).sublist
        (Mapper.positions_feedsFrom_sublist row group.offset group.fields)
    have inside : feed.position < (Record.fresh group.shape).values.length := by
      rw [Record.fresh, List.length_map]
      exact (List.getElem?_eq_some_iff.mp present).1
    refine ⟨value, becomes.symm.trans succeeded, ?_⟩
    rw [Record.values_fill_of_mem distinct inside member, Mapper.Feed.value, Record.shape_fresh,
      succeeded]
    rfl
  fresh := by
    intro position field present refused
    rw [Record.shape_fill, Record.shape_fresh] at present
    rw [Record.values_fill_of_ne]
    · exact Mapper.values_fresh present
    · intro feed member same
      obtain ⟨place, listed, _⟩ := mem_feeds.mp member
      have allowed : feed.position ∈ group.shape.allowed only :=
        complete ▸ List.mem_of_getElem? listed
      obtain ⟨other, otherPresent, allows⟩ := Shape.mem_allowed.mp allowed
      rw [same, present] at otherPresent
      cases otherPresent
      rw [refused] at allows
      cases allows

/-- The cells behind a group are left as they are. -/
theorem cell?_clearAll_feeds
    {column : Nat}
    (behind : group.finish ≤ column) :
    (row.clearAll (group.feeds row)).cell? column = row.cell? column := by
  apply Row.cell?_clearAll_of_ne
  intro feed member same
  obtain ⟨place, listed, feedColumn, _⟩ := mem_feeds.mp member
  have inside := (List.getElem?_eq_some_iff.mp listed).1
  rw [finish, width] at behind
  omega

/--
A complete group whose cells are those of its fields' columns gives a record that is filled
from them, and what is left of the row; or it reports the first cell that is refused.
-/
theorem materialize_cases
    (dialect : Dialect)
    (cells : Nat → String → Value)
    (complete : group.IsComplete only)
    (fed : group.FedBy (cells group.position) row) :
    (∃ record left,
      (Mapper.ofGroup group).materialize dialect row = (.ok record, left) ∧
      record.shape = group.shape ∧ record.FilledFrom dialect only (cells group.position) ∧
      left.columns = row.columns ∧
      ∀ column, group.finish ≤ column → left.cell? column = row.cell? column) ∨
    ∃ column field cause, FirstRefusal dialect cells [group] column field cause ∧
      ((Mapper.ofGroup group).materialize dialect row).1 =
        .error (conversionError row column field.name cause) := by
  rcases Mapper.outcome_cases dialect group.shape (group.feeds row) with
    succeeds | ⟨front, failed, back, cause, split, succeeds, fails⟩
  · left
    have applied := Mapper.applyFrom_ok (.fresh group.shape) succeeds
    exact ⟨_, _, (Mapper.ofGroup group).materialize_of_ok applied, Record.shape_fill _,
      filledFrom_fill complete fed succeeds,
      Row.columns_clearAll _, fun column behind => cell?_clearAll_feeds behind⟩
  · right
    have member : failed ∈ group.feeds row := split ▸ List.mem_append_cons_self
    obtain ⟨field, present, reads, becomes⟩ :=
      field_of_mem_feeds dialect complete fed member
    refine ⟨failed.column, field, cause, ⟨⟨group, List.mem_singleton_self group, reads, ?_⟩, ?_⟩,
      ?_⟩
    · rw [← becomes, fails]
    · intro other isGroup before former formerReads earlier
      obtain rfl := List.mem_singleton.mp isGroup
      obtain ⟨place, position, listed, formerPresent, rfl⟩ := formerReads
      obtain ⟨feed, inFeeds, sameColumn, _, feedBecomes⟩ :=
        exists_mem_feeds dialect fed listed formerPresent
      rw [← sameColumn] at earlier
      rw [← feedBecomes]
      exact succeeds feed ((Mapper.mem_front_iff split).mpr ⟨inFeeds, earlier⟩)
    · have named : Mapper.fieldName (.fresh group.shape) failed.position = field.name := by
        rw [Mapper.fieldName, Record.fresh, present]
        rfl
      have applied := Mapper.applyFrom_error (.fresh group.shape) split succeeds fails
      rw [(Mapper.ofGroup group).materialize_of_error applied, named]

end ColumnGroup
end TypedSql
