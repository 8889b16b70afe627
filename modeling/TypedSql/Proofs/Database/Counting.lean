import Mathlib.Algebra.Order.BigOperators.Group.List
import TypedSql.Proofs.Database.Steps
import TypedSql.Proofs.Session.Stream
import TypedSql.Proofs.Value.Conversion

/-!
# Counts as sums

A count adds up the first cells of the rows of its statement. The sum is an exact one, and it
exists where every cell converts to an integer and no sum on the way leaves the range of 64
bits; otherwise the count fails with the first row that stands in the way.
-/

namespace TypedSql

/-! ## What a row counts -/

namespace Row

variable {dialect : Dialect} {row : Row}

/-- The number that a row adds to a count: its first cell, if it has one that is not null. -/
inductive Adds (dialect : Dialect) (row : Row) : Int → Prop
  | missing :
      row.cell? 0 = none → Adds dialect row 0
  | null {cell : Value} :
      row.cell? 0 = some cell → dialect.convert cell .integer = .ok .null → Adds dialect row 0
  | integer {cell : Value} {number : Int64} :
      row.cell? 0 = some cell → dialect.convert cell .integer = .ok (.integer number) →
      Adds dialect row number.toInt

/-- Why the first cell of a row does not become an integer. -/
inductive Unconverted (dialect : Dialect) (row : Row) : ValueError → Prop
  | refused {cell : Value} {cause : ValueError} :
      row.cell? 0 = some cell → dialect.convert cell .integer = .error cause →
      Unconverted dialect row cause
  /-- A dialect may convert in a way of its own, but not into something else. -/
  | misfit {cell converted : Value} :
      row.cell? 0 = some cell → dialect.convert cell .integer = .ok converted →
      ¬ SqlType.integer.Stores converted →
      Unconverted dialect row (.mismatch .integer converted.kind)

/-- Why a row cannot be added to a total. -/
inductive Offends (dialect : Dialect) (total : Int) (row : Row) : Error → Prop
  | conversion {cause : ValueError} :
      row.Unconverted dialect cause →
      Offends dialect total row (conversionError row 0 "scalar" cause)
  | overflow {number : Int} :
      row.Adds dialect number → ¬ IntegerType.signed64.Contains (total + number) →
      Offends dialect total row (.execution .countOverflow)

/-- A row adds a number or is not converted. -/
theorem adds_or_unconverted (dialect : Dialect) (row : Row) :
    (∃ number, row.Adds dialect number) ∨ ∃ cause, row.Unconverted dialect cause := by
  cases first : row.cell? 0 with
  | none => exact .inl ⟨0, .missing first⟩
  | some cell =>
      cases conversion : dialect.convert cell .integer with
      | error cause => exact .inr ⟨cause, .refused first conversion⟩
      | ok converted =>
          cases converted with
          | null => exact .inl ⟨0, .null first conversion⟩
          | integer number => exact .inl ⟨number.toInt, .integer first conversion⟩
          | boolean | real | text | blob =>
              exact .inr ⟨_, .misfit first conversion (by rintro ⟨⟩)⟩

/-- It adds no more than one number. -/
theorem Adds.unique
    {number other : Int}
    (adds : row.Adds dialect number)
    (addsOther : row.Adds dialect other) :
    number = other := by
  cases adds <;> cases addsOther <;> simp_all

/-- What adds a number is converted. -/
theorem Adds.not_unconverted
    {number : Int}
    {cause : ValueError}
    (adds : row.Adds dialect number) :
    ¬ row.Unconverted dialect cause := by
  rintro (⟨first, refused⟩ | ⟨first, conversion, misfit⟩)
  · cases adds <;> simp_all
  · cases adds with
    | missing none => simp_all
    | null first conversion => simp_all [SqlType.Stores.null]
    | integer first conversion => simp_all [SqlType.Stores.integer]

/-- A row that adds a number can offend by making the total too large, and only so. -/
theorem Adds.eq_overflow
    {number total : Int}
    {error : Error}
    (adds : row.Adds dialect number)
    (offends : row.Offends dialect total error) :
    error = .execution .countOverflow := by
  cases offends with
  | conversion unconverted => exact absurd unconverted adds.not_unconverted
  | overflow => rfl

end Row

/-! ## The step -/

/-- The first cell of a row is converted, read, and blamed if that fails. -/
theorem readScalar_of_cell
    {dialect : Dialect}
    {type : FieldType}
    {row : Row}
    {cell : Value}
    (first : row.cell? 0 = some cell) :
    (readScalar dialect type row).1 =
      ((dialect.convert cell type.sqlType >>= type.read).map some).mapError
        (conversionError row 0 "scalar") := by
  rw [readScalar, Row.take, first]
  simp only
  cases dialect.convert cell type.sqlType >>= type.read <;> rfl

namespace Database

variable {database : Database} {row : Row} {rows : List Row} {number : Int} {cause : ValueError}
  {error : Error} {total sum : Int64}

theorem readScalar_of_adds (adds : row.Adds database.dialect number) :
    ∃ cell, (readScalar database.dialect countType row).1 = .ok cell ∧
      countOf cell = number := by
  have sameClass : countType.sqlType = .integer := rfl
  cases adds with
  | missing first =>
      refine ⟨none, ?_, rfl⟩
      rw [readScalar, Row.take, first]
  | null first conversion =>
      refine ⟨some .null, ?_, rfl⟩
      rw [readScalar_of_cell first, sameClass, conversion]
      rfl
  | integer first conversion =>
      next cell whole =>
      have read : countType.read (.integer whole) = .ok (.integer whole) :=
        if_pos (IntegerType.contains_signed64 whole)
      refine ⟨some (.integer whole), ?_, rfl⟩
      rw [readScalar_of_cell first, sameClass, conversion]
      change ((countType.read (.integer whole)).map some).mapError _ = _
      rw [read]
      rfl

theorem readScalar_of_unconverted (unconverted : row.Unconverted database.dialect cause) :
    (readScalar database.dialect countType row).1 =
      .error (conversionError row 0 "scalar" cause) := by
  have sameClass : countType.sqlType = .integer := rfl
  cases unconverted with
  | refused first conversion =>
      rw [readScalar_of_cell first, sameClass, conversion]
      rfl
  | misfit first conversion misfit =>
      rw [readScalar_of_cell first, sameClass, conversion]
      next cell converted =>
      cases converted with
      | null => exact absurd (.null _) misfit
      | integer whole => exact absurd (.integer whole) misfit
      | boolean | real | text | blob => rfl

theorem countStep_of_adds (adds : row.Adds database.dialect number) :
    database.countStep total row =
      match Value.int64? (total.toInt + number) with
      | some sum => .ok sum
      | none => .error (.execution .countOverflow) := by
  obtain ⟨cell, read, rfl⟩ := readScalar_of_adds adds
  rw [countStep, read]
  rfl

theorem countStep_of_unconverted (unconverted : row.Unconverted database.dialect cause) :
    database.countStep total row = .error (conversionError row 0 "scalar" cause) := by
  rw [countStep, readScalar_of_unconverted unconverted]
  rfl

/-- A row is accepted if it adds a number that the range leaves room for. -/
theorem countStep_eq_ok :
    database.countStep total row = .ok sum ↔
      ∃ number, row.Adds database.dialect number ∧ sum.toInt = total.toInt + number := by
  constructor
  · intro stepped
    rcases row.adds_or_unconverted database.dialect with ⟨number, adds⟩ | ⟨cause, unconverted⟩
    · rw [countStep_of_adds adds] at stepped
      split at stepped
      · next fits =>
        cases stepped
        exact ⟨number, adds, Value.toInt_of_int64? fits⟩
      · cases stepped
    · rw [countStep_of_unconverted unconverted] at stepped
      cases stepped
  · rintro ⟨number, adds, exact⟩
    rw [countStep_of_adds adds, Value.int64?_eq_some_iff.mpr exact]

/-- It is refused for what is wrong with it, given the total. -/
theorem countStep_eq_error :
    database.countStep total row = .error error ↔
      row.Offends database.dialect total.toInt error := by
  constructor
  · intro failed
    rcases row.adds_or_unconverted database.dialect with ⟨number, adds⟩ | ⟨cause, unconverted⟩
    · rw [countStep_of_adds adds] at failed
      split at failed
      · cases failed
      · next outside =>
        cases failed
        exact .overflow adds (Value.int64?_eq_none_iff.mp outside)
    · rw [countStep_of_unconverted unconverted] at failed
      cases failed
      exact .conversion unconverted
  · rintro (unconverted | ⟨adds, outside⟩)
    · exact countStep_of_unconverted unconverted
    · rw [countStep_of_adds adds, Value.int64?_eq_none_iff.mpr outside]

end Database

/-! ## Sums on the way -/

/-- No sum of the first numbers, added to the start, leaves the range of 64 bits. -/
def FitsFrom (start : Int) (numbers : List Int) : Prop :=
  ∀ front, front <+: numbers → IntegerType.signed64.Contains (start + front.sum)

/-- Nothing but the start is the first sum. -/
theorem FitsFrom.contains {start : Int} {numbers : List Int} (fits : FitsFrom start numbers) :
    IntegerType.signed64.Contains start := by
  simpa using fits [] List.nil_prefix

theorem fitsFrom_nil_iff {start : Int} :
    FitsFrom start [] ↔ IntegerType.signed64.Contains start := by
  simp [FitsFrom]

theorem fitsFrom_cons_iff {start number : Int} {numbers : List Int} :
    FitsFrom start (number :: numbers) ↔
      IntegerType.signed64.Contains start ∧ FitsFrom (start + number) numbers := by
  constructor
  · intro fits
    refine ⟨fits.contains, fun front isPrefix => ?_⟩
    have longer := fits (number :: front) ((List.prefix_cons_inj number).mpr isPrefix)
    rwa [List.sum_cons, ← Int.add_assoc] at longer
  · rintro ⟨begins, fits⟩ front isPrefix
    cases front with
    | nil => simpa using begins
    | cons first rest =>
        obtain ⟨rfl, restIsPrefix⟩ := List.cons_prefix_cons.mp isPrefix
        rw [List.sum_cons, ← Int.add_assoc]
        exact fits rest restIsPrefix

/-- Where no number is negative, only the last sum can be too large. -/
theorem fitsFrom_zero_iff_of_nonneg
    {numbers : List Int}
    (nonneg : ∀ number ∈ numbers, 0 ≤ number) :
    FitsFrom 0 numbers ↔ numbers.sum ≤ 0x7FFFFFFFFFFFFFFF := by
  constructor
  · intro fits
    have last := (fits numbers List.prefix_rfl).2
    rwa [Int.zero_add] at last
  · rintro bound front ⟨back, rfl⟩
    rw [List.sum_append] at bound
    have frontSum : 0 ≤ front.sum :=
      List.sum_nonneg fun number member => nonneg number (List.mem_append_left back member)
    have backSum : 0 ≤ back.sum :=
      List.sum_nonneg fun number member => nonneg number (List.mem_append_right front member)
    simp only [IntegerType.Contains, IntegerType.least, IntegerType.greatest]
    omega

namespace Database

variable {database : Database} {rows : List Row} {error : Error} {total sum : Int64}

/-- Rows are added up if each adds a number and no sum on the way leaves the range. -/
theorem foldlM_countStep_eq_ok :
    rows.foldlM database.countStep total = .ok sum ↔
      ∃ numbers, List.Forall₂ (Row.Adds database.dialect) rows numbers ∧
        FitsFrom total.toInt numbers ∧ sum.toInt = total.toInt + numbers.sum := by
  have begins := IntegerType.contains_signed64 total
  induction rows generalizing total with
  | nil =>
      rw [List.foldlM_nil, pure_eq_ok]
      constructor
      · rintro rfl
        exact ⟨[], .nil, fitsFrom_nil_iff.mpr begins, by simp⟩
      · rintro ⟨numbers, ⟨⟩, _, exact⟩
        exact (Int64.toInt_inj.mp (by simpa using exact)).symm
  | cons row rows inductionHypothesis =>
      rw [List.foldlM_cons, bind_eq_ok]
      constructor
      · rintro ⟨next, stepped, others⟩
        obtain ⟨number, adds, reached⟩ := countStep_eq_ok.mp stepped
        obtain ⟨numbers, othersAdd, fits, exact⟩ :=
          (inductionHypothesis (IntegerType.contains_signed64 next)).mp others
        rw [reached] at fits exact
        refine ⟨number :: numbers, .cons adds othersAdd,
          fitsFrom_cons_iff.mpr ⟨begins, fits⟩, ?_⟩
        rw [exact, List.sum_cons, Int.add_assoc]
      · rintro ⟨numbers, allAdd, fits, exact⟩
        cases allAdd with
        | cons adds othersAdd =>
          next number numbers =>
          have fitsAfter := (fitsFrom_cons_iff.mp fits).2
          obtain ⟨next, reached⟩ := Value.exists_toInt_eq (fitsAfter.contains)
          refine ⟨next, countStep_eq_ok.mpr ⟨number, adds, reached⟩,
            (inductionHypothesis (IntegerType.contains_signed64 next)).mpr
              ⟨numbers, othersAdd, ?_, ?_⟩⟩
          · rwa [reached]
          · rw [reached, exact, List.sum_cons, Int.add_assoc]

/-- They are not if one of them offends, and the first that does says why. -/
theorem foldlM_countStep_eq_error :
    rows.foldlM database.countStep total = .error error ↔
      ∃ front row back numbers, rows = front ++ row :: back ∧
        List.Forall₂ (Row.Adds database.dialect) front numbers ∧
        FitsFrom total.toInt numbers ∧
        row.Offends database.dialect (total.toInt + numbers.sum) error := by
  rw [foldlM_eq_error]
  constructor
  · rintro ⟨front, row, back, reached, rfl, accepted, refusal⟩
    obtain ⟨numbers, adds, fits, exact⟩ := foldlM_countStep_eq_ok.mp accepted
    refine ⟨front, row, back, numbers, rfl, adds, fits, ?_⟩
    rw [← exact]
    exact countStep_eq_error.mp refusal
  · rintro ⟨front, row, back, numbers, rfl, adds, fits, offends⟩
    obtain ⟨reached, exact⟩ := Value.exists_toInt_eq (fits numbers List.prefix_rfl)
    refine ⟨front, row, back, reached, rfl,
      foldlM_countStep_eq_ok.mpr ⟨numbers, adds, fits, exact⟩, ?_⟩
    rw [← exact] at offends
    exact countStep_eq_error.mpr offends

/-- Rows that all add numbers add up, or fail by overflow. -/
theorem foldlM_countStep_eq_overflow
    {numbers : List Int}
    (adds : List.Forall₂ (Row.Adds database.dialect) rows numbers) :
    rows.foldlM database.countStep total = .error (.execution .countOverflow) ↔
      ¬ FitsFrom total.toInt numbers := by
  constructor
  · intro failed fits
    obtain ⟨sum, exact⟩ := Value.exists_toInt_eq (fits numbers List.prefix_rfl)
    rw [foldlM_countStep_eq_ok.mpr ⟨numbers, adds, fits, exact⟩] at failed
    cases failed
  · intro outside
    cases outcome : rows.foldlM database.countStep total with
    | ok sum =>
        obtain ⟨others, othersAdd, fits, _⟩ := foldlM_countStep_eq_ok.mp outcome
        have unique : Relator.RightUnique (Row.Adds database.dialect) :=
          fun _ _ _ first second => first.unique second
        obtain rfl := List.right_unique_forall₂' unique othersAdd adds
        exact absurd fits outside
    | error error =>
        obtain ⟨front, row, back, _, rfl, _, _, offends⟩ := foldlM_countStep_eq_error.mp outcome
        have turned : List.Forall₂ (fun number row => row.Adds database.dialect number) numbers
            (front ++ row :: back) := adds.flip
        have eachAdds : ∀ added ∈ front ++ row :: back,
            ∃ number, added.Adds database.dialect number := by
          refine forall_mem_of_forall₂ turned ?_
          intro number _ added adds
          exact ⟨number, adds⟩
        obtain ⟨number, rowAdds⟩ :=
          eachAdds row (List.mem_append_right front List.mem_cons_self)
        rw [rowAdds.eq_overflow offends]

end Database

/-! ## Counting -/

/-- A cursor hands out rows alone, before the token fires, and can be closed. -/
structure Cursor.ReadsThrough (cursor : Cursor) (opened : Session) : Prop where
  onlyRows : cursor.rows.length = cursor.fetches.length
  unfired : opened.firedAfter cursor.fetches = false
  closes : cursor.closeFailure = none

namespace Database

section Counting

variable {database : Database} {statement : Statement} {session opened : Session}
  {cursor : Cursor}

theorem countStatement_eq_conclude
    (returned : session.openCursor database.logged statement = (.ok cursor, opened)) :
    database.countStatement statement session =
      Session.conclude cursor
        (Session.feedRows cursor.columns database.countStep none cursor.fetches 0 opened) :=
  Session.drain_eq_conclude returned

/-- A count fails with the first row that offends, which is the last that is fetched. -/
theorem countStatement_refused
    (returned : session.openCursor database.logged statement = (.ok cursor, opened))
    {front back : List Row}
    {row : Row}
    {numbers : List Int}
    {error : Error}
    (rows : cursor.rows = front ++ row :: back)
    (adds : List.Forall₂ (Row.Adds database.dialect) front numbers)
    (fits : FitsFrom 0 numbers)
    (offends : row.Offends database.dialect numbers.sum error)
    (unfired : opened.firedAfter (cursor.fetches.take front.length) = false) :
    (database.countStatement statement session).1 = .error error ∧
      (database.countStatement statement session).2.calls =
        session.calls ++ [.open statement] ++
          List.replicate (front.length + 1) (.fetch true) ++ [.close] := by
  obtain ⟨reached, exact⟩ := Value.exists_toInt_eq (fits numbers List.prefix_rfl)
  have accepted : front.foldlM database.countStep 0 = .ok reached :=
    foldlM_countStep_eq_ok.mpr ⟨numbers, adds, fits, exact⟩
  have refusal : database.countStep reached row = .error error := by
    rw [Int.zero_add] at exact
    exact countStep_eq_error.mpr (exact ▸ offends)
  obtain ⟨failed, calls⟩ := Session.feedRows_refused rows accepted refusal unfired
  have closed := Session.conclude_closed cursor
    (Session.feedRows cursor.columns database.countStep none cursor.fetches 0 opened)
  rw [countStatement_eq_conclude returned]
  refine ⟨(closed.failed error failed).1, ?_⟩
  rw [closed.calls, calls, (Session.openCursor_ok returned).2.1]

/-- What is read to its end is the sum of its rows. -/
theorem countStatement_outcome
    (returned : session.openCursor database.logged statement = (.ok cursor, opened))
    (through : cursor.ReadsThrough opened) :
    (database.countStatement statement session).1 =
      cursor.rows.foldlM database.countStep 0 := by
  cases outcome : cursor.rows.foldlM database.countStep 0 with
  | ok total =>
      have fed := Session.feedRows_exhausted through.onlyRows outcome through.unfired
      rw [countStatement_eq_conclude returned]
      exact ((Session.conclude_closed cursor _).closed total fed through.closes).1
  | error error =>
      obtain ⟨front, row, back, numbers, rows, adds, fits, offends⟩ :=
        foldlM_countStep_eq_error.mp outcome
      change FitsFrom 0 numbers at fits
      change row.Offends database.dialect (0 + numbers.sum) error at offends
      rw [Int.zero_add] at offends
      exact (countStatement_refused returned rows adds fits offends
        (Session.firedAfter_take through.unfired front.length)).1

/-- Every cursor is closed, and closed once. -/
theorem closeCount_countStatement
    (returned : session.openCursor database.logged statement = (.ok cursor, opened)) :
    (database.countStatement statement session).2.closeCount = session.closeCount + 1 := by
  obtain ⟨seen, last, noticed, fed⟩ :=
    Session.feedRows_fed cursor.columns cursor.fetches none database.countStep 0 opened
  rw [countStatement_eq_conclude returned, Session.closeCount,
    (Session.conclude_closed cursor _).calls, fed.calls, (Session.openCursor_ok returned).2.1]
  simp [Session.closeCount, fed.ending.count_close, List.count_replicate]

end Counting

/--
A count whose cursor was returned closes it once. The first row that offends ends it: its
error is the one of the count, and no row is fetched after it. Where the cursor hands out
nothing but rows, the count succeeds if every first cell is converted and no sum on the way
leaves the range of 64 bits, in which case it is the exact sum, and fails with the first row
that offends otherwise. The count of no rows is zero, and where no row adds a negative number,
it overflows if the sum of all is too large.
-/
theorem counts_exactly
    (database : Database)
    (statement : Statement)
    (session opened : Session)
    (cursor : Cursor)
    (returned : session.openCursor database.logged statement = (.ok cursor, opened)) :
    (database.countStatement statement session).2.closeCount = session.closeCount + 1 ∧
    (∀ front row back numbers error, cursor.rows = front ++ row :: back →
      List.Forall₂ (Row.Adds database.dialect) front numbers → FitsFrom 0 numbers →
      row.Offends database.dialect numbers.sum error →
      opened.firedAfter (cursor.fetches.take front.length) = false →
        (database.countStatement statement session).1 = .error error ∧
        (database.countStatement statement session).2.calls =
          session.calls ++ [.open statement] ++
            List.replicate (front.length + 1) (.fetch true) ++ [.close]) ∧
    (cursor.ReadsThrough opened →
      (∀ total, (database.countStatement statement session).1 = .ok total ↔
        ∃ numbers, List.Forall₂ (Row.Adds database.dialect) cursor.rows numbers ∧
          FitsFrom 0 numbers ∧ total.toInt = numbers.sum) ∧
      (∀ error, (database.countStatement statement session).1 = .error error ↔
        ∃ front row back numbers, cursor.rows = front ++ row :: back ∧
          List.Forall₂ (Row.Adds database.dialect) front numbers ∧ FitsFrom 0 numbers ∧
          row.Offends database.dialect numbers.sum error) ∧
      (cursor.rows = [] → (database.countStatement statement session).1 = .ok 0) ∧
      ∀ numbers, List.Forall₂ (Row.Adds database.dialect) cursor.rows numbers →
        (∀ number ∈ numbers, 0 ≤ number) →
        ((database.countStatement statement session).1 = .error (.execution .countOverflow) ↔
          0x7FFFFFFFFFFFFFFF < numbers.sum)) := by
  have zero : (0 : Int64).toInt = 0 := rfl
  refine ⟨closeCount_countStatement returned, ?_, fun through => ?_⟩
  · intro front row back numbers error rows adds fits offends unfired
    exact countStatement_refused returned rows adds fits offends unfired
  · rw [countStatement_outcome returned through]
    refine ⟨fun total => ?_, fun error => ?_, fun noRows => ?_, fun numbers adds nonneg => ?_⟩
    · rw [foldlM_countStep_eq_ok]
      simp only [zero, Int.zero_add]
    · rw [foldlM_countStep_eq_error]
      simp only [zero, Int.zero_add]
    · rw [noRows]
      rfl
    · rw [foldlM_countStep_eq_overflow adds, zero, fitsFrom_zero_iff_of_nonneg nonneg, not_le]

end Database

namespace Sample

/-- A cursor whose rows add one, nothing, nothing and seven. -/
def tally : Cursor :=
  ⟨["count"], [.row [.boolean true] false, .row [.null] false, .row [] false,
    .row [.text " +7 "] false], false, none⟩

/-- A cursor whose rows are too large on the way, though not in the end. -/
def surge : Cursor :=
  ⟨["count"], [.row [.integer 0x7FFFFFFFFFFFFFFF] false, .row [.integer 1] false,
    .row [.integer (-1)] false], false, none⟩

end Sample

namespace Database

/-- Four rows add up to eight, and a total that is too large for a while fails at once. -/
theorem counts_exactly_tally :
    (Sample.database.countStatement Sample.numbers.toSelect (Sample.session Sample.tally)).1 =
        .ok 8 ∧
      (Sample.database.countStatement Sample.numbers.toSelect
        (Sample.session Sample.tally)).2.closeCount = 1 ∧
      (Sample.database.countStatement Sample.numbers.toSelect (Sample.session Sample.surge)).1 =
        .error (.execution .countOverflow) ∧
      (Sample.database.countStatement Sample.numbers.toSelect
        (Sample.session Sample.surge)).2.calls =
        [.open Sample.numbers.toSelect, .fetch true, .fetch true, .close] := by
  have tallied := counts_exactly Sample.database Sample.numbers.toSelect
    (Sample.session Sample.tally) Sample.opened Sample.tally rfl
  have surged := counts_exactly Sample.database Sample.numbers.toSelect
    (Sample.session Sample.surge) Sample.opened Sample.surge rfl
  have adds : List.Forall₂ (Row.Adds Sample.database.dialect) Sample.tally.rows
      [(1 : Int64).toInt, 0, 0, (7 : Int64).toInt] := by
    refine .cons (.integer rfl rfl) (.cons (.null rfl rfl) (.cons (.missing rfl) (.cons ?_ .nil)))
    exact .integer rfl (by decide +kernel)
  have fits : FitsFrom 0 [(1 : Int64).toInt, 0, 0, (7 : Int64).toInt] :=
    (fitsFrom_zero_iff_of_nonneg (by decide)).mpr (by decide)
  have most : FitsFrom 0 [(0x7FFFFFFFFFFFFFFF : Int64).toInt] :=
    (fitsFrom_zero_iff_of_nonneg (by decide)).mpr (by decide)
  have mostAdds : List.Forall₂ (Row.Adds Sample.database.dialect)
      [⟨["count"], [.integer 0x7FFFFFFFFFFFFFFF]⟩] [(0x7FFFFFFFFFFFFFFF : Int64).toInt] :=
    .cons (.integer rfl rfl) .nil
  have offends : Row.Offends Sample.database.dialect [(0x7FFFFFFFFFFFFFFF : Int64).toInt].sum
      ⟨["count"], [.integer 1]⟩ (.execution .countOverflow) :=
    .overflow (.integer rfl rfl) (by decide)
  obtain ⟨failed, calls⟩ := surged.2.1 _ _ _ _ _ rfl mostAdds most offends rfl
  refine ⟨?_, tallied.1, failed, calls⟩
  exact ((tallied.2.2 ⟨rfl, rfl, rfl⟩).1 8).mpr ⟨_, adds, fits, rfl⟩

end Database
end TypedSql
