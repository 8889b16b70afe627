import TypedSql.Numeric.Binary

/-!
# Reading decimals

Decimal numerals of integers, and decimal texts of doubles, which are rounded
to the nearest double from their exact value.
-/

namespace TypedSql
namespace Decimal

/-- The value of a digit character. -/
def digitValue (character : Char) : Nat :=
  character.toNat - '0'.toNat

/-- The number that a run of digits continues, starting from `number`. -/
def continueDigits (number : Nat) (digits : List Char) : Nat :=
  digits.foldl (fun value digit => 10 * value + digitValue digit) number

/-- The number of a non-empty run of ASCII digits. -/
def readNatural? (characters : List Char) : Option Nat :=
  if characters ≠ [] ∧ characters.all Char.isDigit then
    some (continueDigits 0 characters)
  else
    none

/-- An optional sign, whether it is negative, and what follows it. -/
def splitSign : List Char → Bool × List Char
  | '-' :: rest => (true, rest)
  | '+' :: rest => (false, rest)
  | rest => (false, rest)

/-- The integer of an optionally signed run of ASCII digits. -/
def readInteger? (characters : List Char) : Option Int :=
  let (negative, rest) := splitSign characters
  (readNatural? rest).map fun absolute =>
    if negative then -(absolute : Int) else absolute

/-- The exponent part of a decimal text: nothing, or a mark and an integer. -/
def readExponent? : List Char → Option Int
  | [] => some 0
  | mark :: rest => if mark = 'e' ∨ mark = 'E' then readInteger? rest else none

/--
The significand and exponent of an unsigned decimal text: digits with at most
one point, at least one of them, and an optional exponent part.
-/
def readUnsigned? (characters : List Char) : Option (Nat × Int) :=
  let whole := characters.takeWhile Char.isDigit
  let (fraction, rest) :=
    match characters.dropWhile Char.isDigit with
    | '.' :: rest => (rest.takeWhile Char.isDigit, rest.dropWhile Char.isDigit)
    | rest => ([], rest)
  if whole = [] ∧ fraction = [] then none
  else
    (readExponent? rest).map fun exponent =>
      (continueDigits 0 (whole ++ fraction), exponent - fraction.length)

/-- The power of ten beyond which every double is infinite, or below its negation zero. -/
def exponentLimit : Int := 400

/-- The unsigned word nearest to `significand * 10 ^ exponent`. -/
def roundToWord (significand : Nat) (exponent : Int) : Nat :=
  let leading : Int := (Nat.toDigits 10 significand).length + exponent
  if significand = 0 ∨ leading < -exponentLimit then 0
  else if exponentLimit < leading then BinaryFormat.double.infinity
  else
    BinaryFormat.double.roundRatio
      (significand * Nat.pow 10 exponent.toNat) (Nat.pow 10 (-exponent).toNat)

/-- The unsigned word of a text without its sign. -/
def readMagnitude? (characters : List Char) : Option Nat :=
  let name := String.ofList (characters.map Char.toLower)
  if name = "inf" ∨ name = "infinity" then some BinaryFormat.double.infinity
  else if name = "nan" then some BinaryFormat.double.undefined
  else (readUnsigned? characters).map fun decimal => roundToWord decimal.1 decimal.2

/-- The double nearest to an optionally signed decimal text. -/
def readDouble? (characters : List Char) : Option Binary64 :=
  let (negative, rest) := splitSign characters
  (readMagnitude? rest).map fun magnitude =>
    .ofWord (BinaryFormat.double.withSign negative magnitude)

end Decimal
end TypedSql
