import TypedSql.Proofs.Numeric.Numeral
import TypedSql.Value.Conversion

/-!
# The two layers of conversion

A cell is brought into the storage class of its field and then read by the field. The class
is a fixed point of the first layer, and it leaves the second one little to refuse: a null
value where the field must hold one that is not, and an integer outside of the field's range.
An integer that comes through both layers is the one that the cell stood for, and every value
that a field can hold comes through both of them unchanged.
-/

namespace TypedSql

/-- A storage class holds the null value and the values of its kind. -/
inductive SqlType.Stores : SqlType → Value → Prop
  | null (target : SqlType) : Stores target .null
  | any (value : Value) : Stores .any value
  | boolean (flag : Bool) : Stores .boolean (.boolean flag)
  | integer (number : Int64) : Stores .integer (.integer number)
  | real (number : Binary64) : Stores .real (.real number)
  | text (content : String) : Stores .text (.text content)
  | blob (bytes : ByteArray) : Stores .blob (.blob bytes)

/-- The integer that a truth value, an integer or a text stands for. -/
inductive Value.Denotes : Value → Int → Prop
  | boolean (flag : Bool) : Denotes (.boolean flag) (if flag then 1 else 0)
  | integer (number : Int64) : Denotes (.integer number) number.toInt
  /-- A text stands for a decimal numeral with blanks around it. -/
  | text {content : String} {numeral : List Char} {number : Int} :
      Blank.Padded numeral content.toList → Decimal.Numeral numeral number →
      Denotes (.text content) number

/-- The values of a scalar type as SQL values, reals of single precision apart. -/
inductive ScalarType.Holds : ScalarType → Value → Prop
  | boolean (flag : Bool) : Holds .boolean (.boolean flag)
  | integer {type : IntegerType} {number : Int64} :
      type.Contains number.toInt → Holds (.integer type) (.integer number)
  | double (number : Binary64) : Holds .double (.real number)
  | text (content : String) : Holds .text (.text content)
  | blob (bytes : ByteArray) : Holds .blob (.blob bytes)
  | any (value : Value) : Holds .any value

/-- The values of a field type as SQL values; one that is missing is the null value. -/
inductive FieldType.Holds (type : FieldType) : Value → Prop
  | missing : type.optional = true → Holds type .null
  | present {value : Value} : type.scalar.Holds value → Holds type value

namespace Value

variable {value converted : Value} {target : SqlType}

/-! ## Storage classes -/

section Reading

variable {content : String} {α : Type} {reading : Option α} {wrap : α → Value}

/-- A text becomes a value by being read. -/
theorem ofReading_eq_ok_iff :
    ofReading content target (reading.map wrap) = .ok value ↔
      ∃ part, reading = some part ∧ value = wrap part := by
  cases reading <;> simp [ofReading, eq_comm]

/-- A text that is not read is blamed as it is. -/
theorem ofReading_eq_error_iff {cause : ValueError} :
    ofReading content target (reading.map wrap) = .error cause ↔
      reading = none ∧ cause = .unreadable content target := by
  cases reading <;> simp [ofReading, eq_comm]

end Reading

/-- What a value is brought into is in the storage class, and null only if the value is. -/
theorem stores_of_coerce (coerced : value.coerce target = .ok converted) :
    target.Stores converted ∧ (converted = .null ↔ value = .null) := by
  cases value with
  | null =>
      cases coerced
      exact ⟨.null target, Iff.rfl⟩
  | boolean | integer | blob =>
      cases target <;> cases coerced
      all_goals exact ⟨by constructor, by simp⟩
  | real number =>
      cases target with
      | integer =>
          simp only [coerce] at coerced
          split at coerced <;> cases coerced
          exact ⟨.integer _, by simp⟩
      | boolean | real | text | blob | any =>
          cases coerced
          all_goals exact ⟨by constructor, by simp⟩
  | text content =>
      cases target with
      | boolean | integer | real =>
          obtain ⟨part, _, rfl⟩ := ofReading_eq_ok_iff.mp coerced
          exact ⟨by constructor, by simp⟩
      | text | blob | any =>
          cases coerced
          exact ⟨by constructor, by simp⟩

/-- What is in a storage class stays as it is. -/
theorem coerce_of_stores (stored : target.Stores value) : value.coerce target = .ok value := by
  cases stored with
  | any => exact coerce_any value
  | _ => rfl

/-! ## Integers -/

theorem toInt_of_int64? {number : Int} {whole : Int64} (fits : int64? number = some whole) :
    whole.toInt = number := by
  unfold int64? at fits
  split at fits
  · next contained =>
    obtain rfl := Option.some.inj fits
    obtain ⟨least, greatest⟩ := contained
    simp only [IntegerType.least, IntegerType.greatest] at least greatest
    exact Int64.toInt_ofInt_of_le (by omega) (by omega)
  · cases fits

theorem int64?_eq_some_iff {number : Int} {whole : Int64} :
    int64? number = some whole ↔ whole.toInt = number := by
  refine ⟨toInt_of_int64?, ?_⟩
  rintro rfl
  rw [int64?, if_pos (IntegerType.contains_signed64 whole), Int64.ofInt_toInt]

theorem exists_toInt_eq {number : Int} (contained : IntegerType.signed64.Contains number) :
    ∃ whole : Int64, whole.toInt = number :=
  ⟨Int64.ofInt number, toInt_of_int64? (if_pos contained)⟩

theorem int64?_eq_none_iff {number : Int} :
    int64? number = none ↔ ¬ IntegerType.signed64.Contains number := by
  unfold int64?
  split
  · next contained => simp [contained]
  · next outside => simp [outside]

/-- A natural number is converted into the integer that it is. -/
theorem exists_of_ofNatural
    {number : UInt64}
    (converts : ofNatural number = .ok value) :
    ∃ whole : Int64, value = .integer whole ∧ whole.toInt = number.toNat := by
  unfold ofNatural at converts
  split at converts
  · next whole fits =>
    cases converts
    exact ⟨whole, rfl, toInt_of_int64? fits⟩
  · cases converts

/-- A value of one of the kinds that stand for integers. -/
def IsCounting (value : Value) : Prop :=
  value.kind = .boolean ∨ value.kind = .integer ∨ value.kind = .text

/-- A text stands for the integer that is read from it. -/
theorem denotes_text_iff {content : String} {whole : Int} :
    (text content).Denotes whole ↔
      Decimal.readInteger? (Blank.trim content.toList) = some whole := by
  rw [Decimal.readInteger?_trim_eq_some_iff]
  constructor
  · rintro ⟨⟩
    exact ⟨_, ‹_›, ‹_›⟩
  · rintro ⟨numeral, padded, isNumeral⟩
    exact .text padded isNumeral

/-- An integer that a value becomes is the one, and the only one, that the value stands for. -/
theorem denotes_iff_of_coerce
    {number : Int64}
    (coerced : value.coerce .integer = .ok (.integer number))
    (counting : value.IsCounting)
    (whole : Int) :
    value.Denotes whole ↔ whole = number.toInt := by
  cases value with
  | boolean flag =>
      obtain rfl : (if flag then 1 else 0) = number := by simpa [coerce] using coerced
      constructor
      · rintro ⟨⟩
        cases flag <;> rfl
      · rintro rfl
        cases flag <;> exact .boolean _
  | integer same =>
      obtain rfl : same = number := by simpa [coerce] using coerced
      constructor
      · rintro ⟨⟩
        rfl
      · rintro rfl
        exact .integer same
  | text content =>
      obtain ⟨part, read, same⟩ := ofReading_eq_ok_iff.mp coerced
      cases same
      obtain ⟨written, isRead, fits⟩ := Option.bind_eq_some_iff.mp read
      rw [denotes_text_iff, isRead, toInt_of_int64? fits, Option.some.injEq, eq_comm]
  | null | real | blob => simp [IsCounting, kind] at counting

end Value

/-! ## Fields -/

namespace ScalarType

variable {type : ScalarType} {value held : Value} {cause : ValueError}

/-- A field refuses a value of its class for being null or out of range, and for nothing else. -/
theorem read_eq_error_iff (stored : type.sqlType.Stores value) :
    type.read value = .error cause ↔
      (cause = .unexpectedNull ∧ value = .null ∧ type ≠ .any) ∨
      ∃ number target, cause = .outOfRange number target ∧ type = .integer target ∧
        value = .integer number ∧ ¬ target.Contains number.toInt := by
  cases type with
  | any => simp [read]
  | integer target =>
      cases stored with
      | null => simp [read, eq_comm]
      | integer number =>
          by_cases contained : target.Contains number.toInt
          · simp [read, contained]
          · simp [read, contained, eq_comm]
  | _ => cases stored <;> simp [read, eq_comm]

/-- An integer that a field reads is left as it is. -/
theorem eq_integer_of_read
    {target : IntegerType}
    {number : Int64}
    (reads : (integer target).read (.integer number) = .ok held) :
    held = .integer number := by
  rw [read] at reads
  split at reads
  · exact (Except.ok.inj reads).symm
  · cases reads

/-- What a field reads is a value of its type. -/
theorem holds_of_read (unrounded : type ≠ .single) (reads : type.read value = .ok held) :
    type.Holds held := by
  cases type with
  | single => exact absurd rfl unrounded
  | integer target =>
      cases value with
      | integer number =>
          rw [read] at reads
          split at reads
          · next contained =>
            cases reads
            exact .integer contained
          · cases reads
      | null | boolean | real | text | blob => cases reads
  | any =>
      cases reads
      exact .any value
  | boolean | double | text | blob =>
      cases value <;> cases reads
      all_goals constructor

namespace Holds

theorem stores (holds : type.Holds value) : type.sqlType.Stores value := by
  cases holds <;> constructor

theorem read_eq (holds : type.Holds value) : type.read value = .ok value := by
  cases holds with
  | integer contained => exact if_pos contained
  | _ => rfl

end Holds
end ScalarType

namespace FieldType

variable {type : FieldType} {value held : Value} {cause : ValueError}

/-- A field that may be missing refuses nothing for being null. -/
theorem read_eq_error_iff (stored : type.sqlType.Stores value) :
    type.read value = .error cause ↔
      (cause = .unexpectedNull ∧ value = .null ∧ type.optional = false ∧ type.scalar ≠ .any) ∨
      ∃ number target, cause = .outOfRange number target ∧ type.scalar = .integer target ∧
        target ≠ .signed64 ∧ value = .integer number ∧ ¬ target.Contains number.toInt := by
  have narrow {number : Int64} {target : IntegerType}
      (outside : ¬ target.Contains number.toInt) : target ≠ .signed64 := by
    rintro rfl
    exact outside (IntegerType.contains_signed64 number)
  rw [read]
  split
  · next missing =>
    obtain ⟨optional, null⟩ := Bool.and_eq_true_iff.mp missing
    obtain rfl := (Value.isNull_iff value).mp null
    simp [optional]
  · next present =>
    rw [ScalarType.read_eq_error_iff stored]
    constructor
    · rintro (⟨rfl, rfl, needed⟩ | ⟨number, target, rfl, isInteger, rfl, outside⟩)
      · exact .inl ⟨rfl, rfl, by simpa [Value.isNull] using present, needed⟩
      · exact .inr ⟨number, target, rfl, isInteger, narrow outside, rfl, outside⟩
    · rintro (⟨rfl, rfl, _, needed⟩ | ⟨number, target, rfl, isInteger, _, rfl, outside⟩)
      · exact .inl ⟨rfl, rfl, needed⟩
      · exact .inr ⟨number, target, rfl, isInteger, rfl, outside⟩

/-- An integer field holds the one integer that the value stands for which it was given. -/
theorem denotes_iff_of_read
    {converted : Value}
    {target : IntegerType}
    (isInteger : type.scalar = .integer target)
    (coerced : value.coerce type.sqlType = .ok converted)
    (reads : type.read converted = .ok held)
    (counting : value.IsCounting) :
    ∃ number, held = .integer number ∧ ∀ whole, value.Denotes whole ↔ whole = number.toInt := by
  have sameClass : type.sqlType = .integer := by rw [sqlType, isInteger, ScalarType.sqlType]
  rw [sameClass] at coerced
  obtain ⟨stored, sameNull⟩ := Value.stores_of_coerce coerced
  cases stored with
  | null =>
      obtain rfl := sameNull.mp rfl
      simp [Value.IsCounting, Value.kind] at counting
  | integer number =>
      simp only [read, Value.isNull, Bool.and_false, Bool.false_eq_true, if_false,
        isInteger] at reads
      exact ⟨number, ScalarType.eq_integer_of_read reads,
        Value.denotes_iff_of_coerce coerced counting⟩

theorem holds_of_read (unrounded : type.scalar ≠ .single) (reads : type.read value = .ok held) :
    type.Holds held := by
  rw [read] at reads
  split at reads
  · next missing =>
    cases reads
    exact .missing (Bool.and_eq_true_iff.mp missing).1
  · exact .present (ScalarType.holds_of_read unrounded reads)

/-- A value of a field's type comes through both layers unchanged. -/
theorem Holds.coerce_read (holds : type.Holds value) :
    (value.coerce type.sqlType >>= type.read) = .ok value := by
  cases holds with
  | missing optional =>
      rw [Value.coerce_null]
      exact if_pos (by rw [optional, Value.isNull]; rfl)
  | present holds =>
      have coerced : value.coerce type.sqlType = .ok value := Value.coerce_of_stores holds.stores
      rw [coerced]
      change type.read value = .ok value
      rw [read]
      split
      · next missing =>
        rw [(Value.isNull_iff value).mp (Bool.and_eq_true_iff.mp missing).2]
      · exact holds.read_eq

/--
A value that is brought into the class of a field stays as it is when it is brought there
again. The field then refuses it only for being null where a value is needed, or for being an
integer outside of its range, in which case the error carries the integer. What it reads is a
value of its type, and where an integer field reads a truth value, an integer or a text, it is
the integer that this stands for. Every value of the type, written as a SQL value, is read back,
and so is a natural number of 64 bits that can be written as one.
-/
theorem conversion_exact (type : FieldType) :
    (∀ value converted : Value, value.coerce type.sqlType = .ok converted →
      converted.coerce type.sqlType = .ok converted ∧
      (∀ cause, type.read converted = .error cause ↔
        (cause = .unexpectedNull ∧ value = .null ∧ type.optional = false ∧
          type.scalar ≠ .any) ∨
        ∃ number target, cause = .outOfRange number target ∧ type.scalar = .integer target ∧
          target ≠ .signed64 ∧ converted = .integer number ∧ ¬ target.Contains number.toInt) ∧
      (∀ held, type.scalar ≠ .single → type.read converted = .ok held → type.Holds held) ∧
      ∀ target held, type.scalar = .integer target → type.read converted = .ok held →
        value.IsCounting →
        ∃ number, held = .integer number ∧
          ∀ whole, value.Denotes whole ↔ whole = number.toInt) ∧
    (∀ value : Value, type.Holds value →
      (value.coerce type.sqlType >>= type.read) = .ok value) ∧
    ∀ (number : UInt64) (value : Value),
      type.scalar = .integer .unsigned64 ∨ type.scalar = .integer .size →
      Value.ofNatural number = .ok value →
      type.Holds value ∧ value.Denotes number.toNat := by
  refine ⟨fun value converted coerced => ?_, fun value holds => holds.coerce_read,
    fun number value wide converts => ?_⟩
  · obtain ⟨stored, sameNull⟩ := Value.stores_of_coerce coerced
    refine ⟨Value.coerce_of_stores stored, fun cause => ?_,
      fun held unrounded reads => holds_of_read unrounded reads,
      fun target held isInteger reads => denotes_iff_of_read isInteger coerced reads⟩
    rw [read_eq_error_iff stored, sameNull]
  · obtain ⟨whole, rfl, same⟩ := Value.exists_of_ofNatural converts
    have contained : 0 ≤ whole.toInt ∧ whole.toInt ≤ 0xFFFFFFFFFFFFFFFF := by
      have bound := number.toNat_lt
      omega
    refine ⟨.present ?_, same ▸ .integer whole⟩
    rcases wide with isInteger | isInteger <;> rw [isInteger] <;> exact .integer contained

end FieldType

namespace Sample

/-- A text that stands for an integer which few fields have room for. -/
def padded : Value := .text "\u2003+0300 "

/-- An optional byte. -/
def byte : FieldType := ⟨.integer .unsigned8, true⟩

/-- A size that must be given. -/
def extent : FieldType := ⟨.integer .size, false⟩

end Sample

namespace FieldType

/-- The text is an integer in both layers, one too large for a byte but not for a size. -/
theorem conversion_exact_byte :
    Sample.padded.coerce Sample.byte.sqlType = .ok (.integer 300) ∧
      (Value.integer 300).coerce Sample.byte.sqlType = .ok (.integer 300) ∧
      Sample.byte.read (.integer 300) = .error (.outOfRange 300 .unsigned8) ∧
      (∀ whole, Sample.padded.Denotes whole ↔ whole = 300) ∧
      Sample.byte.Holds (.integer 255) ∧
      ((Value.integer 255).coerce Sample.byte.sqlType >>= Sample.byte.read) =
        .ok (.integer 255) ∧
      Value.ofNatural 300 = .ok (.integer 300) ∧
      Sample.extent.Holds (.integer 300) := by
  have coerced : Sample.padded.coerce Sample.byte.sqlType = .ok (.integer 300) := by
    decide +kernel
  have wide : Sample.extent.read (.integer 300) = .ok (.integer 300) := by decide +kernel
  have natural : Value.ofNatural 300 = .ok (.integer 300) := by decide +kernel
  have holds : Sample.byte.Holds (.integer 255) := .present (.integer (by decide))
  obtain ⟨again, refused, _⟩ := (conversion_exact Sample.byte).1 _ _ coerced
  obtain ⟨_, _, _, exact⟩ := (conversion_exact Sample.extent).1 _ _ coerced
  obtain ⟨number, same, denotes⟩ := exact _ _ rfl wide (.inr (.inr rfl))
  cases same
  refine ⟨coerced, again, (refused _).mpr (.inr ⟨300, .unsigned8, rfl, rfl, ?_⟩), denotes, holds,
    (conversion_exact Sample.byte).2.1 _ holds, natural,
    ((conversion_exact Sample.extent).2.2 300 _ (.inr rfl) natural).1⟩
  decide

end FieldType
end TypedSql
