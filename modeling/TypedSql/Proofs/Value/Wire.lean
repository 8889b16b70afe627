import Mathlib.Data.Nat.Digits.Defs
import TypedSql.Value.Wire

/-!
# Integers on the wire

A parameter of an integer type is read as the two's complement in all of its bytes. An integer
is sent in exactly these bytes, or refused where the type has no room for it. Values of every
other kind are sent in a layout of their own, whatever the type of the parameter is; none is
refused, so that a server reads another number from them where the widths happen to agree.
-/

namespace TypedSql

/-- The number of bytes of an integer type. -/
def WireType.integerWidth? : WireType → Option Nat
  | .int2 => some 2
  | .int4 => some 4
  | .int8 => some 8
  | _ => none

namespace Wire

/-- The natural number whose bytes these are, the highest first. -/
def unsigned (bytes : ByteArray) : Nat :=
  Nat.ofDigits 256 (bytes.data.toList.map UInt8.toNat).reverse

/-- The number that a server reads from bytes: the upper half of their range is negative. -/
def signed (bytes : ByteArray) : Int :=
  if 2 * unsigned bytes < modulus bytes.size then unsigned bytes
  else unsigned bytes - modulus bytes.size

/-- The bytes are a number's two's complement of a width. -/
structure Encodes (width : Nat) (number : Int) (bytes : ByteArray) : Prop where
  size_eq : bytes.size = width
  signed_eq : signed bytes = number

/-! ## Big-endian bytes -/

theorem toList_bigEndian_succ (width number : Nat) :
    (bigEndian (width + 1) number).data.toList =
      UInt8.ofNat (number / Nat.pow 256 width) :: (bigEndian width number).data.toList := by
  simp [bigEndian, List.range_succ_eq_map, Function.comp_def, Nat.sub_sub, Nat.add_comm 1]

theorem size_bigEndian (width number : Nat) : (bigEndian width number).size = width := by
  simp [bigEndian, ByteArray.size]

/-- The bytes of a number are those of its remainder by the number of words. -/
theorem unsigned_bigEndian (width number : Nat) :
    unsigned (bigEndian width number) = number % modulus width := by
  induction width with
  | zero => simp [unsigned, bigEndian, modulus, Nat.mod_one]
  | succ width inductionHypothesis =>
      have length : (bigEndian width number).data.toList.length = width :=
        size_bigEndian width number
      rw [unsigned] at inductionHypothesis ⊢
      rw [toList_bigEndian_succ, List.map_cons, List.reverse_cons, Nat.ofDigits_append,
        inductionHypothesis, List.length_reverse, List.length_map, length, Nat.ofDigits_singleton,
        modulus, modulus, Nat.pow_eq, Nat.pow_eq, Nat.mod_pow_succ]
      rfl

theorem modulus_pos (width : Nat) : 0 < modulus width :=
  Nat.pow_pos (by decide)

/-! ## Two's complement -/

/-- The remainder that stands for a number which fits into a width. -/
theorem emod_modulus
    {width : Nat}
    {number : Int}
    (fits : Fits width number) :
    number % modulus width = if number < 0 then number + modulus width else number := by
  obtain ⟨least, greatest⟩ := fits
  have positive := modulus_pos width
  split
  · rw [← Int.add_emod_right, Int.emod_eq_of_lt (by omega) (by omega)]
  · rw [Int.emod_eq_of_lt (by omega) (by omega)]

/-- What fits into a width is read back from its two's complement. -/
theorem encodes_integer
    {width : Nat}
    {number : Int}
    (fits : Fits width number) :
    Encodes width number (integer width number) := by
  have size : (integer width number).size = width := size_bigEndian width _
  refine ⟨size, ?_⟩
  have remainder := emod_modulus fits
  obtain ⟨least, greatest⟩ := fits
  have inRange : (number % modulus width).toNat < modulus width := by
    rw [remainder]
    split <;> omega
  rw [signed, size, integer, unsigned_bigEndian, Nat.mod_eq_of_lt inRange, remainder]
  by_cases negative : number < 0
  · rw [if_pos negative, if_neg (by omega)]
    omega
  · rw [if_neg negative, if_pos (by omega)]
    omega

/-- Every 64-bit integer fits into eight bytes. -/
theorem fits_eight (number : Int64) : Fits 8 number.toInt := by
  have least := Int64.le_toInt number
  have greatest := Int64.toInt_lt number
  have words : modulus 8 = 2 ^ 64 := rfl
  unfold Fits
  omega

end Wire

namespace Value

/-- The integer that a value is, a truth value being 0 or 1. -/
def whole? : Value → Option Int
  | .boolean flag => some (if flag then 1 else 0)
  | .integer number => some number.toInt
  | _ => none

/-- The bytes of a value that is no integer, which do not depend on an integer type. -/
def layout : Value → ByteArray
  | .boolean flag => Wire.boolean flag
  | .real number => Wire.double number
  | .text content => content.toByteArray
  | .blob bytes => bytes
  | _ => .empty

/--
A value is sent for an integer type of a width only as the two's complement of the integer that
it is, and it is refused if it is none that fits.
-/
structure BoundExactly (value : Value) (type : WireType) (width : Nat) : Prop where
  encoded : ∀ bytes, value.wire type = .ok (some bytes) →
    ∃ number, value.whole? = some number ∧ Wire.Encodes width number bytes
  refused : (∀ number, value.whole? = some number → ¬ Wire.Fits width number) →
    ∃ cause, value.wire type = .error cause

variable {type : WireType} {width : Nat} {value : Value}

/-- An integer is sent in the width of the type, or refused for the lack of room. -/
theorem wire_integer (integral : type.integerWidth? = some width) (number : Int64) :
    (integer number).wire type =
      if Wire.Fits width number.toInt then .ok (some (Wire.integer width number.toInt))
      else .error ⟨number, type⟩ := by
  have narrow (count : Nat) (target : WireType) :
      some <$> Wire.integerIn count target number =
        if Wire.Fits count number.toInt then .ok (some (Wire.integer count number.toInt))
        else .error ⟨number, target⟩ := by
    rw [Wire.integerIn]
    split <;> rfl
  cases type <;> cases integral
  · exact narrow 2 .int2
  · exact narrow 4 .int4
  · rw [if_pos (Wire.fits_eight number)]
    rfl

/-- A value of another kind is sent in its own layout. -/
theorem wire_layout
    (integral : type.integerWidth? = some width)
    (present : value ≠ .null)
    (other : ∀ number, value ≠ .integer number) :
    value.wire type = .ok (some value.layout) := by
  cases value with
  | null => exact absurd rfl present
  | integer number => exact absurd rfl (other number)
  | real number => cases type <;> cases integral <;> rfl
  | boolean | text | blob => rfl

/-- The layout of a value that is no integer is not that of an integer that it is. -/
theorem not_encodes_layout
    {number : Int}
    (integral : type.integerWidth? = some width)
    (other : ∀ number, value ≠ .integer number)
    (same : value.whole? = some number) :
    ¬ Wire.Encodes width number value.layout := by
  cases value with
  | boolean flag =>
      rintro ⟨size, _⟩
      rw [layout, Wire.boolean, Wire.size_bigEndian] at size
      cases type <;> cases integral <;> cases size
  | integer number => exact absurd rfl (other number)
  | null | real | text | blob => cases same

/--
A value is bound to an integer type exactly if it is an integer: this is sent as its two's
complement in the width of the type if it fits, and refused otherwise. Every other value is
sent in its own layout, which is not the two's complement of an integer that it is.
-/
theorem boundExactly_iff_integer
    (integral : type.integerWidth? = some width)
    (present : value ≠ .null) :
    (value.BoundExactly type width ↔ ∃ number, value = .integer number) ∧
    (∀ number, value = .integer number →
      (Wire.Fits width number.toInt →
        ∃ bytes, value.wire type = .ok (some bytes) ∧
          Wire.Encodes width number.toInt bytes) ∧
      (¬ Wire.Fits width number.toInt → value.wire type = .error ⟨number, type⟩)) ∧
    ((∀ number, value ≠ .integer number) →
      value.wire type = .ok (some value.layout) ∧
        ∀ number, value.whole? = some number → ¬ Wire.Encodes width number value.layout) := by
  have sent (other : ∀ number, value ≠ .integer number) := wire_layout integral present other
  refine ⟨⟨fun exact => ?_, ?_⟩, ?_, fun other => ⟨sent other, fun number same =>
    not_encodes_layout integral other same⟩⟩
  · by_contra other
    rw [not_exists] at other
    obtain ⟨number, same, encodes⟩ := exact.encoded value.layout (sent other)
    exact not_encodes_layout integral other same encodes
  · rintro ⟨number, rfl⟩
    have wire := wire_integer integral number
    constructor
    · intro bytes isSent
      rw [wire] at isSent
      split at isSent
      · next fits =>
        cases isSent
        exact ⟨_, rfl, Wire.encodes_integer fits⟩
      · cases isSent
    · intro unfit
      rw [wire, if_neg (unfit _ rfl)]
      exact ⟨_, rfl⟩
  · rintro number rfl
    rw [wire_integer integral number]
    constructor
    · intro fits
      rw [if_pos fits]
      exact ⟨_, rfl, Wire.encodes_integer fits⟩
    · intro unfit
      rw [if_neg unfit]

/-- The least number of a small integer is sent in two bytes, and the one below it is refused. -/
theorem boundExactly_iff_integer_small :
    WireType.int2.integerWidth? = some 2 ∧
      integer (-32768) ≠ .null ∧
      integer (-32769) ≠ .null ∧
      (integer (-32768)).BoundExactly .int2 2 ∧
      (∃ bytes, (integer (-32768)).wire .int2 = .ok (some bytes) ∧
        Wire.Encodes 2 (-32768) bytes) ∧
      (integer (-32769)).wire .int2 = .error ⟨-32769, .int2⟩ := by
  have integral : WireType.int2.integerWidth? = some 2 := rfl
  have present : integer (-32768) ≠ .null := by decide
  have alsoPresent : integer (-32769) ≠ .null := by decide
  obtain ⟨exact, least, _⟩ := boundExactly_iff_integer integral present
  obtain ⟨_, below, _⟩ := boundExactly_iff_integer integral alsoPresent
  exact ⟨integral, present, alsoPresent, exact.mpr ⟨_, rfl⟩, (least _ rfl).1 (by decide),
    (below _ rfl).2 (by decide)⟩

/-- One and a half is sent as an integer of nineteen digits. -/
theorem not_boundExactly_real :
    ¬ (real ⟨0x3FF8000000000000⟩).BoundExactly .int8 8 ∧
      (real ⟨0x3FF8000000000000⟩).wire .int8 =
        .ok (some ⟨#[0x3F, 0xF8, 0, 0, 0, 0, 0, 0]⟩) ∧
      Wire.Encodes 8 4609434218613702656 ⟨#[0x3F, 0xF8, 0, 0, 0, 0, 0, 0]⟩ := by
  have isSent : (real ⟨0x3FF8000000000000⟩).wire .int8 =
      .ok (some ⟨#[0x3F, 0xF8, 0, 0, 0, 0, 0, 0]⟩) := by
    decide +kernel
  refine ⟨fun exact => ?_, isSent, rfl, by decide +kernel⟩
  obtain ⟨number, same, _⟩ := exact.encoded _ isSent
  cases same

end Value
end TypedSql
