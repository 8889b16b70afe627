import TypedSql.Record.Mapper

/-!
# Feeding cells into fields

A mapper takes cells out of a row one by one, from left to right, and feeds each into a
field of a record. Which cells those are, and what comes of each, depends on the row and
the shape as they were at the start: a cell that is taken is no other field's cell, and
what a field holds does not matter to the next one. Mapping stops at the first cell that
its field refuses.
-/

namespace TypedSql

/-- The value that a field holds once it is given a cell, or why it refuses the cell. -/
def Field.hold (dialect : Dialect) (field : Field) (cell : Value) : Except ValueError Value :=
  dialect.convert cell field.sqlType >>= field.type.read

/-- The record with a value in a field. -/
def Record.put (record : Record) (position : Nat) (value : Value) : Record :=
  { record with values := record.values.set position value }

@[simp] theorem Record.shape_put (record : Record) (position : Nat) (value : Value) :
    (record.put position value).shape = record.shape := rfl

@[simp] theorem Record.length_values_put (record : Record) (position : Nat) (value : Value) :
    (record.put position value).values.length = record.values.length :=
  List.length_set

namespace Mapper

/-- A cell on its way into a field. -/
structure Feed where
  column : Nat
  /-- The position of the field. -/
  position : Nat
  cell : Value

namespace Feed

/-- What comes of a cell in a record of a shape. -/
def outcome (dialect : Dialect) (shape : Shape) (feed : Feed) : Except ValueError Value :=
  match shape.fields[feed.position]? with
  | none => .error (.noField feed.position)
  | some field => field.hold dialect feed.cell

/-- The value that a cell becomes, if it becomes one. -/
def value (dialect : Dialect) (shape : Shape) (feed : Feed) : Value :=
  (feed.outcome dialect shape).toOption.getD .null

theorem outcome_of_field
    {feed : Feed}
    {shape : Shape}
    {field : Field}
    (dialect : Dialect)
    (present : shape.fields[feed.position]? = some field) :
    feed.outcome dialect shape = field.hold dialect feed.cell := by
  rw [outcome, present]

end Feed

variable {dialect : Dialect} {record : Record} {row : Row} {column : Nat}
  {slots : List (Option Nat)}

/-- The cells that the columns from `column` on feed into fields. -/
def feedsFrom (row : Row) : Nat → List (Option Nat) → List Feed
  | _, [] => []
  | column, none :: slots => feedsFrom row (column + 1) slots
  | column, some position :: slots =>
      match row.cell? column with
      | none => feedsFrom row (column + 1) slots
      | some cell => ⟨column, position, cell⟩ :: feedsFrom row (column + 1) slots

theorem mem_feedsFrom {feed : Feed} :
    feed ∈ feedsFrom row column slots ↔
      ∃ place, slots[place]? = some (some feed.position) ∧ feed.column = column + place ∧
        row.cell? feed.column = some feed.cell := by
  have split (place : Nat → Prop) : (∃ n, place n) ↔ place 0 ∨ ∃ n, place (n + 1) :=
    Nat.or_exists_add_one.symm
  induction slots generalizing column with
  | nil => simp [feedsFrom]
  | cons slot slots inductionHypothesis =>
      have later : feed ∈ feedsFrom row (column + 1) slots ↔
          ∃ place, (slot :: slots)[place + 1]? = some (some feed.position) ∧
            feed.column = column + (place + 1) ∧ row.cell? feed.column = some feed.cell := by
        simp only [inductionHypothesis, List.getElem?_cons_succ,
          Nat.add_assoc, Nat.add_comm 1]
      rw [split, ← later]
      cases slot with
      | none => simp [feedsFrom]
      | some position =>
          obtain ⟨feedColumn, feedPosition, cell⟩ := feed
          cases present : row.cell? column with
          | none =>
              simp only [feedsFrom, present]
              constructor
              · exact .inr
              · rintro (⟨_, rfl, found⟩ | inLater)
                · rw [present] at found
                  cases found
                · exact inLater
          | some found =>
              simp only [feedsFrom, present, List.mem_cons, Feed.mk.injEq]
              constructor
              · rintro (⟨rfl, rfl, rfl⟩ | inLater)
                · exact .inl ⟨rfl, rfl, present⟩
                · exact .inr inLater
              · rintro (⟨same, rfl, held⟩ | inLater)
                · rw [present] at held
                  exact .inl ⟨rfl, (Option.some.inj (Option.some.inj same)).symm,
                    (Option.some.inj held).symm⟩
                · exact .inr inLater

/-- Cells are taken from left to right. -/
theorem pairwise_feedsFrom (row : Row) (column : Nat) (slots : List (Option Nat)) :
    (feedsFrom row column slots).Pairwise (·.column < ·.column) := by
  induction slots generalizing column with
  | nil => exact .nil
  | cons slot slots inductionHypothesis =>
      cases slot with
      | none => exact inductionHypothesis (column + 1)
      | some position =>
          rw [feedsFrom]
          split
          · exact inductionHypothesis (column + 1)
          · refine .cons ?_ (inductionHypothesis (column + 1))
            intro feed member
            obtain ⟨place, _, behind, _⟩ := mem_feedsFrom.mp member
            dsimp only
            omega

section Split

variable {front back : List Feed} {feed failed : Feed}

/-- The columns of the cells before and behind one that is fed. -/
theorem columns_of_split (split : feedsFrom row column slots = front ++ failed :: back) :
    (∀ feed ∈ front, feed.column < failed.column) ∧
      ∀ feed ∈ back, failed.column < feed.column := by
  have ordered := pairwise_feedsFrom row column slots
  rw [split, List.pairwise_append, List.pairwise_cons] at ordered
  obtain ⟨_, ⟨behind, _⟩, before⟩ := ordered
  exact ⟨fun feed inFront => before feed inFront failed List.mem_cons_self, behind⟩

/-- What is fed before some cell is taken from the columns before it. -/
theorem mem_front_iff (split : feedsFrom row column slots = front ++ failed :: back) :
    feed ∈ front ↔ feed ∈ feedsFrom row column slots ∧ feed.column < failed.column := by
  obtain ⟨before, behind⟩ := columns_of_split split
  rw [split, List.mem_append, List.mem_cons]
  constructor
  · intro inFront
    exact ⟨.inl inFront, before feed inFront⟩
  · rintro ⟨inFront | rfl | inBack, earlier⟩
    · exact inFront
    · exact absurd earlier (Nat.lt_irrefl _)
    · exact absurd (behind feed inBack) (Nat.not_lt_of_gt earlier)

/-- What is fed until some cell is taken from the columns up to its own. -/
theorem mem_through_iff (split : feedsFrom row column slots = front ++ failed :: back) :
    feed ∈ front ++ [failed] ↔
      feed ∈ feedsFrom row column slots ∧ feed.column ≤ failed.column := by
  obtain ⟨before, behind⟩ := columns_of_split split
  rw [split, List.mem_append, List.mem_singleton, List.mem_append, List.mem_cons]
  constructor
  · rintro (inFront | rfl)
    · exact ⟨.inl inFront, Nat.le_of_lt (before feed inFront)⟩
    · exact ⟨.inr (.inl rfl), Nat.le_refl _⟩
  · rintro ⟨inFront | rfl | inBack, notLater⟩
    · exact .inl inFront
    · exact .inr rfl
    · exact absurd (behind feed inBack) (Nat.not_lt_of_ge notLater)

end Split

/-- A cell that was taken before matters to none of the columns behind it. -/
theorem feedsFrom_clear
    {earlier : Nat}
    (row : Row)
    (slots : List (Option Nat))
    (before : earlier < column) :
    feedsFrom (row.clear earlier) column slots = feedsFrom row column slots := by
  induction slots generalizing column with
  | nil => rfl
  | cons slot slots inductionHypothesis =>
      have others := inductionHypothesis (Nat.lt_succ_of_lt before)
      cases slot with
      | none => exact others
      | some position =>
          rw [feedsFrom, feedsFrom, others, row.cell?_clear_of_ne (Nat.ne_of_lt before)]

/-- A cell is assigned by putting what comes of it into its field. -/
theorem assign_eq (dialect : Dialect) (record : Record) (feed : Feed) :
    assign dialect record feed.position feed.cell =
      (feed.outcome dialect record.shape).map (record.put feed.position) := by
  unfold assign Feed.outcome
  cases present : record.shape.fields[feed.position]? with
  | none => rfl
  | some field =>
      simp only [Field.hold]
      cases dialect.convert feed.cell field.sqlType with
      | error cause => rfl
      | ok converted =>
          simp only [bind, Except.bind, Record.set, present]
          cases field.type.read converted <;> rfl

end Mapper

/-! ## What is put in and taken out -/

namespace Record

/-- The record with the values that cells become. -/
def fill (dialect : Dialect) (record : Record) (feeds : List Mapper.Feed) : Record :=
  feeds.foldl
    (fun current feed => current.put feed.position (feed.value dialect record.shape)) record

variable {dialect : Dialect} {record : Record} {feeds : List Mapper.Feed}

theorem fill_cons (feed : Mapper.Feed) (feeds : List Mapper.Feed) :
    record.fill dialect (feed :: feeds) =
      (record.put feed.position (feed.value dialect record.shape)).fill dialect feeds := rfl

@[simp] theorem shape_fill (feeds : List Mapper.Feed) :
    (record.fill dialect feeds).shape = record.shape := by
  induction feeds generalizing record with
  | nil => rfl
  | cons feed feeds inductionHypothesis => rw [fill_cons, inductionHypothesis, shape_put]

@[simp] theorem length_values_fill (feeds : List Mapper.Feed) :
    (record.fill dialect feeds).values.length = record.values.length := by
  induction feeds generalizing record with
  | nil => rfl
  | cons feed feeds inductionHypothesis =>
      rw [fill_cons, inductionHypothesis, length_values_put]

/-- A field that no cell feeds stays as it is. -/
theorem values_fill_of_ne
    {position : Nat}
    (others : ∀ feed ∈ feeds, feed.position ≠ position) :
    (record.fill dialect feeds).values[position]? = record.values[position]? := by
  induction feeds generalizing record with
  | nil => rfl
  | cons feed feeds inductionHypothesis =>
      obtain ⟨different, others⟩ := List.forall_mem_cons.mp others
      rw [fill_cons, inductionHypothesis others]
      exact List.getElem?_set_ne different

/-- Of fields that are fed once each, every one holds what its cell becomes. -/
theorem values_fill_of_mem
    {feed : Mapper.Feed}
    (distinct : (feeds.map Mapper.Feed.position).Nodup)
    (inside : feed.position < record.values.length)
    (member : feed ∈ feeds) :
    (record.fill dialect feeds).values[feed.position]? =
      some (feed.value dialect record.shape) := by
  induction feeds generalizing record with
  | nil => cases member
  | cons first feeds inductionHypothesis =>
      obtain ⟨fresh, distinct⟩ := List.nodup_cons.mp distinct
      rw [fill_cons]
      rcases List.mem_cons.mp member with rfl | later
      · rw [values_fill_of_ne]
        · exact List.getElem?_set_self inside
        · intro other inOthers same
          exact fresh (same ▸ List.mem_map_of_mem inOthers)
      · exact inductionHypothesis distinct (by simpa using inside) later

end Record

namespace Row

/-- The row without the cells that were taken. -/
def clearAll (row : Row) (feeds : List Mapper.Feed) : Row :=
  feeds.foldl (fun left feed => left.clear feed.column) row

variable {row : Row} {feeds : List Mapper.Feed}

theorem clearAll_cons (feed : Mapper.Feed) (feeds : List Mapper.Feed) :
    row.clearAll (feed :: feeds) = (row.clear feed.column).clearAll feeds := rfl

@[simp] theorem columns_clearAll (feeds : List Mapper.Feed) :
    (row.clearAll feeds).columns = row.columns := by
  induction feeds generalizing row with
  | nil => rfl
  | cons feed feeds inductionHypothesis =>
      rw [clearAll_cons, inductionHypothesis, columns_clear]

@[simp] theorem width_clearAll (feeds : List Mapper.Feed) :
    (row.clearAll feeds).width = row.width := by
  induction feeds generalizing row with
  | nil => rfl
  | cons feed feeds inductionHypothesis =>
      rw [clearAll_cons, inductionHypothesis, width_clear]

theorem cell?_clearAll_of_ne
    {column : Nat}
    (others : ∀ feed ∈ feeds, feed.column ≠ column) :
    (row.clearAll feeds).cell? column = row.cell? column := by
  induction feeds generalizing row with
  | nil => rfl
  | cons feed feeds inductionHypothesis =>
      obtain ⟨different, others⟩ := List.forall_mem_cons.mp others
      rw [clearAll_cons, inductionHypothesis others, row.cell?_clear_of_ne different]

/-- A cell that was taken stays so. -/
theorem cell?_clearAll_of_null
    {column : Nat}
    (null : row.cell? column = some .null) :
    (row.clearAll feeds).cell? column = some .null := by
  induction feeds generalizing row with
  | nil => exact null
  | cons feed feeds inductionHypothesis =>
      rw [clearAll_cons]
      apply inductionHypothesis
      by_cases same : feed.column = column
      · subst same
        exact row.cell?_clear_self (List.getElem?_eq_some_iff.mp null).1
      · rw [row.cell?_clear_of_ne same, null]

theorem cell?_clearAll_of_mem
    {feed : Mapper.Feed}
    (inside : feed.column < row.width)
    (member : feed ∈ feeds) :
    (row.clearAll feeds).cell? feed.column = some .null := by
  induction feeds generalizing row with
  | nil => cases member
  | cons first feeds inductionHypothesis =>
      rw [clearAll_cons]
      rcases List.mem_cons.mp member with rfl | later
      · exact cell?_clearAll_of_null (row.cell?_clear_self inside)
      · exact inductionHypothesis (by simpa using inside) later

end Row

/-! ## Mapping a row -/

namespace Mapper

variable {dialect : Dialect} {record : Record} {row : Row} {column : Nat}
  {slots : List (Option Nat)}

theorem conversionError_congr
    {left right : Row}
    (sameColumns : left.columns = right.columns)
    (position : Nat)
    (field : String)
    (cause : ValueError) :
    conversionError left position field cause = conversionError right position field cause := by
  rw [conversionError, conversionError, Row.columnName?, Row.columnName?, sameColumns]

/-- A column without a field, or without a cell, is passed over; another one is fed. -/
theorem applyFrom_cons
    (dialect : Dialect)
    (record : Record)
    (row : Row)
    (column : Nat)
    (slots : List (Option Nat))
    (slot : Option Nat) :
    (feedsFrom row column (slot :: slots) = feedsFrom row (column + 1) slots ∧
      applyFrom dialect column (slot :: slots) record row =
        applyFrom dialect (column + 1) slots record row) ∨
    ∃ feed : Feed, feed.column = column ∧
      feedsFrom row column (slot :: slots) = feed :: feedsFrom row (column + 1) slots ∧
      applyFrom dialect column (slot :: slots) record row =
        match feed.outcome dialect record.shape with
        | .ok value =>
            applyFrom dialect (column + 1) slots (record.put feed.position value)
              (row.clear column)
        | .error cause =>
            (.error (conversionError row column (fieldName record feed.position) cause), record,
              row.clear column) := by
  cases slot with
  | none => exact .inl ⟨rfl, rfl⟩
  | some position =>
      cases present : row.cell? column with
      | none =>
          left
          constructor
          · rw [feedsFrom, present]
          · simp [applyFrom, Row.take, present]
      | some cell =>
          right
          refine ⟨⟨column, position, cell⟩, rfl, ?_, ?_⟩
          · rw [feedsFrom, present]
          · have assigned := assign_eq dialect record ⟨column, position, cell⟩
            simp only [applyFrom, Row.take, present, assigned]
            cases Feed.outcome dialect record.shape ⟨column, position, cell⟩ <;> rfl

/-- Where every cell becomes a value, all of them are put into their fields. -/
theorem applyFrom_ok
    (record : Record)
    (succeeds : ∀ feed ∈ feedsFrom row column slots,
      ∃ value, feed.outcome dialect record.shape = .ok value) :
    applyFrom dialect column slots record row =
      (.ok (), record.fill dialect (feedsFrom row column slots),
        row.clearAll (feedsFrom row column slots)) := by
  -- What is taken now is taken from what the columns behind it look at, to no effect.
  induction slots generalizing column record row with
  | nil => rfl
  | cons slot slots inductionHypothesis =>
      rcases applyFrom_cons dialect record row column slots slot with
        ⟨sameFeeds, sameResult⟩ | ⟨feed, rfl, feeds, result⟩
      · rw [sameFeeds] at succeeds ⊢
        rw [sameResult, inductionHypothesis record succeeds]
      · rw [feeds] at succeeds ⊢
        obtain ⟨⟨value, becomes⟩, succeeds⟩ := List.forall_mem_cons.mp succeeds
        have others := feedsFrom_clear row slots (Nat.lt_succ_self feed.column)
        have held : feed.value dialect record.shape = value := by
          rw [Feed.value, becomes]
          rfl
        rw [result, becomes, Record.fill_cons, Row.clearAll_cons, held]
        dsimp only
        rw [inductionHypothesis, others]
        rw [others]
        exact succeeds

/-- The first cell that its field refuses ends the mapping. -/
theorem applyFrom_error
    {front back : List Feed}
    {failed : Feed}
    {cause : ValueError}
    (record : Record)
    (split : feedsFrom row column slots = front ++ failed :: back)
    (succeeds : ∀ feed ∈ front, ∃ value, feed.outcome dialect record.shape = .ok value)
    (fails : failed.outcome dialect record.shape = .error cause) :
    applyFrom dialect column slots record row =
      (.error (conversionError row failed.column (fieldName record failed.position) cause),
        record.fill dialect front, row.clearAll (front ++ [failed])) := by
  induction slots generalizing column record row front with
  | nil => cases front <;> cases split
  | cons slot slots inductionHypothesis =>
      rcases applyFrom_cons dialect record row column slots slot with
        ⟨sameFeeds, sameResult⟩ | ⟨feed, rfl, feeds, result⟩
      · rw [sameFeeds] at split
        rw [sameResult, inductionHypothesis record split succeeds fails]
      · rw [feeds] at split
        cases front with
        | nil =>
            cases split
            rw [result, fails]
            rfl
        | cons first front =>
            obtain ⟨same, rest⟩ := List.cons.inj split
            subst same
            obtain ⟨⟨value, becomes⟩, succeeds⟩ := List.forall_mem_cons.mp succeeds
            have others := feedsFrom_clear row slots (Nat.lt_succ_self feed.column)
            have held : feed.value dialect record.shape = value := by
              rw [Feed.value, becomes]
              rfl
            rw [result, becomes, Record.fill_cons, held]
            dsimp only
            exact inductionHypothesis (record.put feed.position value) (others.trans rest)
              succeeds fails

end Mapper
end TypedSql
