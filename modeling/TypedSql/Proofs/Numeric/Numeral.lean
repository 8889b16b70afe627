import Mathlib.Data.Nat.Digits.Defs
import TypedSql.Numeric.Decimal.Reader
import TypedSql.Proofs.Text.Blank

/-!
# Decimal numerals

An integer is written as a run of ASCII digits with or without a sign in front. The reader of
integers accepts exactly these numerals and reads each digit by its place, and every integer is
written as a numeral that stands for it.
-/

namespace TypedSql
namespace Decimal

/-- A run of one or more ASCII digits. -/
structure IsRun (digits : List Char) : Prop where
  nonempty : digits ≠ []
  all : ∀ digit ∈ digits, digit.isDigit = true

/-- The number of a run of digits, in which a place counts ten times the one behind it. -/
def placeValue (digits : List Char) : Nat :=
  Nat.ofDigits 10 (digits.map digitValue).reverse

/-- A decimal numeral and the integer that it stands for. -/
inductive Numeral : List Char → Int → Prop
  | unsigned {digits : List Char} : IsRun digits → Numeral digits (placeValue digits)
  | positive {digits : List Char} : IsRun digits → Numeral ('+' :: digits) (placeValue digits)
  | negative {digits : List Char} : IsRun digits → Numeral ('-' :: digits) (-placeValue digits)

variable {characters : List Char}

/-! ## Runs of digits -/

theorem continueDigits_zero (digits : List Char) :
    continueDigits 0 digits = placeValue digits := by
  rw [placeValue, Nat.ofDigits_eq_foldr, List.foldr_reverse, List.foldl_map, continueDigits]
  simp only [Nat.cast_id, Nat.add_comm]

theorem readNatural?_eq_some_iff {number : Nat} :
    readNatural? characters = some number ↔
      IsRun characters ∧ number = placeValue characters := by
  have isRun : (characters ≠ [] ∧ characters.all Char.isDigit) ↔ IsRun characters := by
    rw [List.all_eq_true]
    exact ⟨fun both => ⟨both.1, both.2⟩, fun run => ⟨run.nonempty, run.all⟩⟩
  rw [readNatural?, continueDigits_zero]
  by_cases run : IsRun characters
  · rw [if_pos (isRun.mpr run), and_iff_right run, Option.some.injEq, eq_comm]
  · rw [if_neg (mt isRun.mp run)]
    exact iff_of_false (by simp) fun both => run both.1

/-- A natural number is written as a run of digits. -/
theorem isRun_toString (number : Nat) : IsRun (toString number).toList := by
  rw [Nat.toString_eq_repr, Nat.toList_repr]
  exact ⟨Nat.toDigits_ne_nil, fun _ => Nat.isDigit_of_mem_toDigits (by decide) (by decide)⟩

theorem placeValue_toString (number : Nat) : placeValue (toString number).toList = number := by
  rw [Nat.toString_eq_repr, Nat.toList_repr, ← continueDigits_zero]
  exact Nat.ofDigitChars_ten_toDigits

theorem digit_range {digit : Char} (isDigit : digit.isDigit = true) :
    48 ≤ digit.toNat ∧ digit.toNat ≤ 57 := by
  simpa [Char.isDigit, UInt32.le_iff_toNat_le] using isDigit

/-! ## Signs -/

/-- A run of digits starts with no sign. -/
theorem IsRun.splitSign_eq (run : IsRun characters) :
    splitSign characters = (false, characters) := by
  unfold splitSign
  split
  · exact absurd (run.all '-' List.mem_cons_self) (by decide)
  · exact absurd (run.all '+' List.mem_cons_self) (by decide)
  · rfl

theorem readInteger?_of_split
    {negative : Bool}
    {digits : List Char}
    (split : splitSign characters = (negative, digits)) :
    readInteger? characters =
      (readNatural? digits).map fun absolute : Nat =>
        if negative then -(absolute : Int) else (absolute : Int) := by
  rw [readInteger?, split]
  dsimp only
  cases readNatural? digits <;> rfl

/-- What is read behind a sign, or without one, is a run of digits. -/
theorem readInteger?_of_run
    {negative : Bool}
    {digits : List Char}
    {number : Int}
    (split : splitSign characters = (negative, digits)) :
    readInteger? characters = some number ↔
      IsRun digits ∧
        number = if negative then -(placeValue digits : Int) else (placeValue digits : Int) := by
  rw [readInteger?_of_split split, Option.map_eq_some_iff]
  constructor
  · rintro ⟨absolute, read, rfl⟩
    obtain ⟨run, rfl⟩ := readNatural?_eq_some_iff.mp read
    exact ⟨run, rfl⟩
  · rintro ⟨run, rfl⟩
    exact ⟨_, readNatural?_eq_some_iff.mpr ⟨run, rfl⟩, rfl⟩

/-- The reader of integers accepts the numerals and gives the integers they stand for. -/
theorem readInteger?_eq_some_iff {number : Int} :
    readInteger? characters = some number ↔ Numeral characters number := by
  constructor
  · intro read
    rcases split : splitSign characters with ⟨negative, digits⟩
    obtain ⟨run, rfl⟩ := (readInteger?_of_run split).mp read
    unfold splitSign at split
    split at split <;> cases split
    · exact .negative run
    · exact .positive run
    · exact .unsigned run
  · rintro (run | run | run)
    · exact (readInteger?_of_run run.splitSign_eq).mpr ⟨run, rfl⟩
    · exact (readInteger?_of_run rfl).mpr ⟨run, rfl⟩
    · exact (readInteger?_of_run rfl).mpr ⟨run, rfl⟩

namespace Numeral

variable {number : Int}

/-- No character of a numeral is blank. -/
theorem visible
    (numeral : Numeral characters number)
    (character : Char)
    (member : character ∈ characters) :
    Blank.isBlank character = false := by
  have ofDigit (digit : Char) (isDigit : digit.isDigit = true) : Blank.isBlank digit = false := by
    obtain ⟨least, greatest⟩ := digit_range isDigit
    simp [Blank.isBlank, Blank.ranges]
    omega
  cases numeral with
  | unsigned run => exact ofDigit character (run.all character member)
  | positive run =>
      rcases List.mem_cons.mp member with rfl | inRun
      · decide
      · exact ofDigit character (run.all character inRun)
  | negative run =>
      rcases List.mem_cons.mp member with rfl | inRun
      · decide
      · exact ofDigit character (run.all character inRun)

end Numeral

/-- An integer is written as a numeral that stands for it. -/
theorem numeral_toString (number : Int) : Numeral (toString number).toList number := by
  cases number with
  | ofNat absolute =>
      have numeral := Numeral.unsigned (isRun_toString absolute)
      rwa [placeValue_toString] at numeral
  | negSucc less =>
      have written : toString (Int.negSucc less) = "-" ++ toString (less + 1) := rfl
      have numeral := Numeral.negative (isRun_toString (less + 1))
      rw [placeValue_toString] at numeral
      rwa [written, String.toList_append]

/-- A text is read as an integer exactly if it is a numeral with blanks around it. -/
theorem readInteger?_trim_eq_some_iff {number : Int} :
    readInteger? (Blank.trim characters) = some number ↔
      ∃ numeral, Blank.Padded numeral characters ∧ Numeral numeral number := by
  rw [readInteger?_eq_some_iff]
  constructor
  · intro numeral
    exact ⟨_, (Blank.trimmed_trim characters).padded, numeral⟩
  · rintro ⟨core, padded, numeral⟩
    rwa [(padded.trimmed numeral.visible).trim_eq]

end Decimal
end TypedSql
