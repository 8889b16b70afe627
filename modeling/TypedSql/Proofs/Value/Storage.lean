import TypedSql.Proofs.Value.Conversion
import TypedSql.Value.Storage

/-!
# Values in storage cells

A value that a field holds comes back from the cell that it is bound to, once it is brought
into the class of the field again: truth values are stored as integers, and every other kind
has a class of its own. A cell that is read and bound again keeps what it holds. Only a text
cell whose bytes are no UTF-8 changes its class, and then no text field accepts it. Main
statement: `StorageCell.round_trips`.
-/

namespace TypedSql

/-- What a cell holds, texts and blobs being bytes alike. -/
inductive Payload
  | nothing
  | integer (number : Int64)
  | real (number : Binary64)
  | bytes (bytes : ByteArray)

namespace StorageCell

/-- What a cell holds, whatever its storage class. -/
def payload : StorageCell → Payload
  | .null => .nothing
  | .integer number => .integer number
  | .real number => .real number
  | .text bytes => .bytes bytes
  | .blob bytes => .bytes bytes

/-- A text cell whose bytes are the encoding of no text. -/
def Malformed (cell : StorageCell) : Prop :=
  ∃ bytes, cell = .text bytes ∧ ¬ bytes.IsValidUTF8

variable {bytes : ByteArray}

theorem load_text_of_valid (valid : bytes.IsValidUTF8) :
    (text bytes).load = .text (.fromUTF8 bytes valid) := by
  rw [load, String.fromUTF8?, dif_pos valid]

theorem load_text_of_invalid (invalid : ¬ bytes.IsValidUTF8) :
    (text bytes).load = .blob bytes := by
  rw [load, String.fromUTF8?, dif_neg invalid]

/-! ## Cells that are read and bound again -/

theorem store_load_of_wellFormed {cell : StorageCell} (wellFormed : ¬ cell.Malformed) :
    cell.load.store = cell := by
  cases cell with
  | text bytes =>
      have valid : bytes.IsValidUTF8 := by
        by_contra invalid
        exact wellFormed ⟨bytes, rfl, invalid⟩
      rw [load_text_of_valid valid]
      rfl
  | null | integer | real | blob => rfl

theorem store_load_eq_self_iff (cell : StorageCell) :
    cell.load.store = cell ↔ ¬ cell.Malformed := by
  refine ⟨?_, store_load_of_wellFormed⟩
  rintro same ⟨bytes, rfl, invalid⟩
  rw [load_text_of_invalid invalid] at same
  cases same

theorem payload_store_load (cell : StorageCell) : cell.load.store.payload = cell.payload := by
  by_cases malformed : cell.Malformed
  · obtain ⟨bytes, rfl, invalid⟩ := malformed
    rw [load_text_of_invalid invalid]
    rfl
  · rw [store_load_of_wellFormed malformed]

end StorageCell

/-! ## Values that are bound and read again -/

/-- A text is read again from its own bytes. -/
theorem Value.load_store_text (content : String) :
    (text content).store.load = .text content := by
  rw [store, StorageCell.load_text_of_valid content.isValidUTF8]
  rfl

/-- What is in a storage class comes back to it from the cell that it is bound to. -/
theorem SqlType.Stores.coerce_load_store
    {target : SqlType}
    {value : Value}
    (stored : target.Stores value)
    (typed : target ≠ .any) :
    value.store.load.coerce target = .ok value := by
  cases stored with
  | any => exact absurd rfl typed
  | boolean flag => cases flag <;> rfl
  | text content => rw [Value.load_store_text, Value.coerce]
  | null | integer | real | blob => rfl

namespace FieldType

variable {type : FieldType} {value : Value}

theorem Holds.stores (holds : type.Holds value) : type.sqlType.Stores value := by
  cases holds with
  | missing => exact .null _
  | present holds => exact holds.stores

theorem sqlType_ne_any (typed : type.scalar ≠ .any) : type.sqlType ≠ .any := by
  rw [sqlType]
  cases scalar : type.scalar with
  | any => exact absurd scalar typed
  | _ => simp [ScalarType.sqlType]

/-- A value that a field holds is read again from the cell that it is bound to. -/
theorem Holds.read_load_store (holds : type.Holds value) (typed : type.scalar ≠ .any) :
    (value.store.load.coerce type.sqlType >>= type.read) = .ok value := by
  have returned := holds.stores.coerce_load_store (sqlType_ne_any typed)
  calc
    (value.store.load.coerce type.sqlType >>= type.read) =
        (value.coerce type.sqlType >>= type.read) := by
      rw [returned, Value.coerce_of_stores holds.stores]
    _ = .ok value := holds.coerce_read

/-- A text field accepts no blob, neither as it is nor brought into the class of texts. -/
theorem read_blob_of_text (isText : type.scalar = .text) (bytes : ByteArray) :
    type.read (.blob bytes) = .error (.mismatch .text .blob) ∧
      ((Value.blob bytes).coerce type.sqlType >>= type.read) =
        .error (.mismatch .text .blob) := by
  rw [read, sqlType, isText]
  exact ⟨by simp [Value.isNull, ScalarType.read, ScalarType.sqlType, Value.kind], rfl⟩

end FieldType

/--
Every value of a field's type is bound to a cell from which the field reads it again, unless
the field takes values of every kind. Every cell that is read and bound again holds what it
held, and is the cell that it was unless it is a text cell whose bytes are no UTF-8. Such a
cell becomes a blob cell with the same bytes, and text fields refuse what is read from it.
-/
theorem StorageCell.round_trips :
    (∀ (type : FieldType) (value : Value), type.scalar ≠ .any → type.Holds value →
      (value.store.load.coerce type.sqlType >>= type.read) = .ok value) ∧
    ∀ cell : StorageCell,
      cell.load.store.payload = cell.payload ∧
      (cell.load.store = cell ↔ ¬ cell.Malformed) ∧
      ∀ bytes, cell = .text bytes → ¬ bytes.IsValidUTF8 →
        cell.load.store = .blob bytes ∧
        ∀ type : FieldType, type.scalar = .text →
          type.read cell.load = .error (.mismatch .text .blob) ∧
          (cell.load.coerce type.sqlType >>= type.read) = .error (.mismatch .text .blob) := by
  refine ⟨fun type value typed holds => holds.read_load_store typed, fun cell =>
    ⟨payload_store_load cell, store_load_eq_self_iff cell, ?_⟩⟩
  rintro bytes rfl invalid
  rw [load_text_of_invalid invalid]
  exact ⟨rfl, fun type isText => FieldType.read_blob_of_text isText bytes⟩

namespace Sample

/-- A truth value that may be missing. -/
def switch : FieldType := ⟨.boolean, true⟩

/-- A text that may be missing. -/
def remark : FieldType := ⟨.text, true⟩

/-- The first byte is a letter, and the others are no UTF-8. -/
def garbled : ByteArray := ⟨#[0x61, 0xFF, 0xFE]⟩

end Sample

/-- A truth value, a text and bytes that are no text. -/
theorem StorageCell.round_trips_garbled :
    Sample.switch.Holds (.boolean true) ∧
      (Value.boolean true).store = .integer 1 ∧
      ((Value.boolean true).store.load.coerce .boolean >>= Sample.switch.read) =
        .ok (.boolean true) ∧
      Sample.remark.Holds (.text "h\u00E9\u0000") ∧
      ((Value.text "h\u00E9\u0000").store.load.coerce .text >>= Sample.remark.read) =
        .ok (.text "h\u00E9\u0000") ∧
      ¬ Sample.garbled.IsValidUTF8 ∧
      (StorageCell.text Sample.garbled).load.store = .blob Sample.garbled ∧
      Sample.remark.read (StorageCell.text Sample.garbled).load =
        .error (.mismatch .text .blob) := by
  have on : Sample.switch.Holds (.boolean true) := .present (.boolean true)
  have noted : Sample.remark.Holds (.text "h\u00E9\u0000") := .present (.text _)
  have invalid : ¬ Sample.garbled.IsValidUTF8 := by decide +kernel
  obtain ⟨returns, cells⟩ := StorageCell.round_trips
  obtain ⟨becomes, refused⟩ := (cells (.text Sample.garbled)).2.2 _ rfl invalid
  exact ⟨on, rfl, returns Sample.switch _ (by decide) on, noted,
    returns Sample.remark _ (by decide) noted, invalid, becomes, (refused Sample.remark rfl).1⟩

end TypedSql
