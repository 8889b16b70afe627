import TypedSql.Proofs.Value.Conversion
import TypedSql.Value.Printer

/-!
# Integers written as texts

A text is converted into an integer exactly if it is the decimal numeral of a signed integer of
64 bits with blanks around it, and it becomes that integer, with whatever sign and however many
zeros the numeral starts. Every other text is refused as it stands. So the plain text of an
integer is converted back, whatever blanks are around it.
-/

namespace TypedSql
namespace Value

variable {content : String}

theorem readInteger?_eq_some_iff {number : Int64} :
    readInteger? content = some number ↔
      Decimal.Numeral (Blank.trim content.toList) number.toInt := by
  rw [readInteger?, Option.bind_eq_some_iff]
  constructor
  · rintro ⟨whole, read, fits⟩
    obtain rfl := int64?_eq_some_iff.mp fits
    exact Decimal.readInteger?_eq_some_iff.mp read
  · intro numeral
    exact ⟨_, Decimal.readInteger?_eq_some_iff.mpr numeral, int64?_eq_some_iff.mpr rfl⟩

/-- A text is read where it is the numeral of an integer that fits. -/
theorem exists_readInteger?_iff :
    (∃ number, readInteger? content = some number) ↔
      ∃ whole, Decimal.Numeral (Blank.trim content.toList) whole ∧
        IntegerType.signed64.Contains whole := by
  constructor
  · rintro ⟨number, read⟩
    exact ⟨_, readInteger?_eq_some_iff.mp read, IntegerType.contains_signed64 number⟩
  · rintro ⟨whole, numeral, contained⟩
    obtain ⟨number, rfl⟩ := exists_toInt_eq contained
    exact ⟨number, readInteger?_eq_some_iff.mpr numeral⟩

/-- A numeral with blanks around it is what trimming leaves. -/
theorem trim_of_padded
    {numeral : List Char}
    {whole : Int}
    (padded : Blank.Padded numeral content.toList)
    (isNumeral : Decimal.Numeral numeral whole) :
    Blank.trim content.toList = numeral :=
  (padded.trimmed isNumeral.visible).trim_eq

/--
A text is converted into an integer exactly if it is, without the blanks at its ends, an optional
sign and a run of digits that stands for an integer from the least to the greatest one of 64 bits.
It becomes this integer, and otherwise it is blamed as it is. The plain text of an integer, with
any blanks around it, becomes that integer.
-/
theorem text_becomes_integer (content : String) :
    (∀ core, Blank.Trimmed core content.toList ↔ core = Blank.trim content.toList) ∧
    (∀ converted, (text content).coerce .integer = .ok converted ↔
      ∃ number : Int64, converted = .integer number ∧
        Decimal.Numeral (Blank.trim content.toList) number.toInt) ∧
    ((∃ converted, (text content).coerce .integer = .ok converted) ↔
      ∃ whole, Decimal.Numeral (Blank.trim content.toList) whole ∧
        -0x8000000000000000 ≤ whole ∧ whole ≤ 0x7FFFFFFFFFFFFFFF) ∧
    (∀ cause, (text content).coerce .integer = .error cause ↔
      cause = .unreadable content .integer ∧
        ¬ ∃ whole, Decimal.Numeral (Blank.trim content.toList) whole ∧
          -0x8000000000000000 ≤ whole ∧ whole ≤ 0x7FFFFFFFFFFFFFFF) ∧
    ∀ number : Int64, Blank.Padded (integer number).plain.toList content.toList →
      (text content).coerce .integer = .ok (.integer number) := by
  have converts (converted : Value) : (text content).coerce .integer = .ok converted ↔
      ∃ number : Int64, converted = .integer number ∧
        Decimal.Numeral (Blank.trim content.toList) number.toInt := by
    refine ofReading_eq_ok_iff.trans (exists_congr fun number => ?_)
    rw [readInteger?_eq_some_iff, and_comm]
  refine ⟨fun core => Blank.trimmed_iff, converts, ?_, fun cause => ?_, fun number padded => ?_⟩
  · refine Iff.trans ?_ exists_readInteger?_iff
    simp only [converts, readInteger?_eq_some_iff]
    exact ⟨fun ⟨_, number, _, numeral⟩ => ⟨number, numeral⟩,
      fun ⟨number, numeral⟩ => ⟨_, number, rfl, numeral⟩⟩
  · refine ofReading_eq_error_iff.trans (and_comm.trans (and_congr_right fun _ => ?_))
    rw [Option.eq_none_iff_forall_ne_some, ← not_exists]
    exact not_congr exists_readInteger?_iff
  · have numeral : Decimal.Numeral (integer number).plain.toList number.toInt :=
      Decimal.numeral_toString number.toInt
    exact (converts _).mpr ⟨number, rfl, (trim_of_padded padded numeral).symm ▸ numeral⟩

/-- The least integer is read, with zeros before it; the one above the greatest is not. -/
theorem text_becomes_integer_limits :
    (text "\u3000-0009223372036854775808\n").coerce .integer = .ok (.integer Int64.minValue) ∧
      (text "+9223372036854775807").coerce .integer = .ok (.integer Int64.maxValue) ∧
      (text " 9223372036854775808").coerce .integer =
        .error (.unreadable " 9223372036854775808" .integer) ∧
      Blank.Padded (integer Int64.minValue).plain.toList "\t-9223372036854775808 ".toList ∧
      (text "\t-9223372036854775808 ").coerce .integer = .ok (.integer Int64.minValue) := by
  have least : Decimal.Numeral (Blank.trim "\u3000-0009223372036854775808\n".toList)
      Int64.minValue.toInt := Decimal.readInteger?_eq_some_iff.mp (by decide)
  have greatest : Decimal.Numeral (Blank.trim "+9223372036854775807".toList)
      Int64.maxValue.toInt := Decimal.readInteger?_eq_some_iff.mp (by decide)
  have above : ¬ ∃ whole, Decimal.Numeral (Blank.trim " 9223372036854775808".toList) whole ∧
      -0x8000000000000000 ≤ whole ∧ whole ≤ 0x7FFFFFFFFFFFFFFF := by
    rintro ⟨whole, numeral, _, small⟩
    have read : Decimal.readInteger? (Blank.trim " 9223372036854775808".toList) =
        some 0x8000000000000000 := by decide
    rw [Decimal.readInteger?_eq_some_iff.mpr numeral, Option.some.injEq] at read
    omega
  have padded :
      Blank.Padded (integer Int64.minValue).plain.toList "\t-9223372036854775808 ".toList :=
    ⟨['\t'], [' '], List.forall_mem_singleton.mpr rfl, List.forall_mem_singleton.mpr rfl,
      by decide⟩
  exact ⟨((text_becomes_integer _).2.1 _).mpr ⟨_, rfl, least⟩,
    ((text_becomes_integer _).2.1 _).mpr ⟨_, rfl, greatest⟩,
    ((text_becomes_integer _).2.2.2.1 _).mpr ⟨rfl, above⟩, padded,
    (text_becomes_integer _).2.2.2.2 _ padded⟩

end Value
end TypedSql
