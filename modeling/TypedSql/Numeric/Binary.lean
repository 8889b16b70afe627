/-!
# Binary floating-point formats

A format is given by the widths of its exponent and fraction fields. Words are
decoded to a sign and an exact magnitude `significand * 2 ^ exponent`, and an
exact ratio of naturals is encoded by rounding to nearest, ties to even.
All arithmetic is on unbounded integers.
-/

namespace TypedSql

/-- Field widths of a binary interchange format. -/
structure BinaryFormat where
  /-- Number of bits of the exponent field. -/
  exponentBits : Nat
  /-- Number of stored bits of the significand. -/
  fractionBits : Nat
  deriving DecidableEq

/-- The number that a word denotes, its sign apart. -/
inductive Magnitude
  /-- The number `significand * 2 ^ exponent`. -/
  | finite (significand : Nat) (exponent : Int)
  | infinite
  /-- Not a number, with its fraction field. -/
  | undefined (payload : Nat)
  deriving DecidableEq

namespace BinaryFormat

/-- The double-precision format. -/
def double : BinaryFormat := ⟨11, 52⟩

/-- The single-precision format. -/
def single : BinaryFormat := ⟨8, 23⟩

/-- The weight of the sign bit. -/
def signWeight (format : BinaryFormat) : Nat :=
  Nat.pow 2 (format.exponentBits + format.fractionBits)

/-- The weight of the lowest bit of the exponent field. -/
def fieldWeight (format : BinaryFormat) : Nat :=
  Nat.pow 2 format.fractionBits

/-- The exponent field of infinity and of what is not a number. -/
def greatestField (format : BinaryFormat) : Nat :=
  Nat.pow 2 format.exponentBits - 1

/-- The exponent of the last place of the smallest normal number. -/
def leastExponent (format : BinaryFormat) : Int :=
  2 - (Nat.pow 2 (format.exponentBits - 1) : Nat) - format.fractionBits

/-- The word of positive infinity. -/
def infinity (format : BinaryFormat) : Nat :=
  format.greatestField * format.fieldWeight

/-- The weight of the bit that every not-a-number has. -/
def quietWeight (format : BinaryFormat) : Nat :=
  format.fieldWeight / 2

/-- The word of a not-a-number without a payload. -/
def undefined (format : BinaryFormat) : Nat :=
  format.infinity + format.quietWeight

/-- Whether the sign bit of a word is set. -/
def isNegative (format : BinaryFormat) (word : Nat) : Bool :=
  word / format.signWeight % 2 == 1

/-- The magnitude that a word denotes. -/
def magnitude (format : BinaryFormat) (word : Nat) : Magnitude :=
  let unsigned := word % format.signWeight
  let field := unsigned / format.fieldWeight
  let fraction := unsigned % format.fieldWeight
  if field = format.greatestField then
    if fraction = 0 then .infinite else .undefined fraction
  else if field = 0 then
    .finite fraction format.leastExponent
  else
    .finite (format.fieldWeight + fraction) (format.leastExponent + (field - 1 : Nat))

/-- A ratio of naturals scaled by `2 ^ -exponent`. -/
def scaleRatio (numerator denominator : Nat) (exponent : Int) : Nat × Nat :=
  if 0 ≤ exponent then
    (numerator, denominator * Nat.pow 2 exponent.toNat)
  else
    (numerator * Nat.pow 2 (-exponent).toNat, denominator)

/-- The quotient rounded to the nearest natural, a tie to the even one. -/
def roundQuotient (numerator denominator : Nat) : Nat :=
  let quotient := numerator / denominator
  let doubled := 2 * (numerator % denominator)
  if denominator < doubled ∨ (doubled = denominator ∧ quotient % 2 = 1) then
    quotient + 1
  else
    quotient

/-- The exponent of the last place of the result of rounding a positive ratio. -/
def placeExponent (format : BinaryFormat) (numerator denominator : Nat) : Int :=
  let estimate : Int :=
    (numerator.log2 : Int) - denominator.log2 - (format.fractionBits + 1)
  let exponent := max format.leastExponent estimate
  let scaled := scaleRatio numerator denominator exponent
  if 2 * format.fieldWeight ≤ scaled.1 / scaled.2 then exponent + 1 else exponent

/--
The unsigned word nearest to a ratio of naturals. A significand that rounding
carries to the next power of two moves into the exponent field by itself.
-/
def roundRatio (format : BinaryFormat) (numerator denominator : Nat) : Nat :=
  if numerator = 0 then 0
  else
    let exponent := format.placeExponent numerator denominator
    let scaled := scaleRatio numerator denominator exponent
    let significand := roundQuotient scaled.1 scaled.2
    if significand < format.fieldWeight then significand
    else
      let field := (exponent - format.leastExponent).toNat
      min format.infinity (field * format.fieldWeight + significand)

/-- A word from its sign and its unsigned part. -/
def withSign (format : BinaryFormat) (negative : Bool) (unsigned : Nat) : Nat :=
  if negative then format.signWeight + unsigned else unsigned

/-- The word nearest to an integer. -/
def ofInt (format : BinaryFormat) (number : Int) : Nat :=
  format.withSign (number < 0) (format.roundRatio number.natAbs 1)

/-- The word of one format nearest to what a word of another denotes. -/
def convert (source target : BinaryFormat) (word : Nat) : Nat :=
  target.withSign (source.isNegative word) <|
    match source.magnitude word with
    | .infinite => target.infinity
    | .undefined payload =>
        let moved := payload * target.fieldWeight / source.fieldWeight
        target.undefined + moved % target.quietWeight
    | .finite significand exponent =>
        let ratio := scaleRatio significand 1 (-exponent)
        target.roundRatio ratio.1 ratio.2

/-- The integer that a word denotes, if it denotes one. -/
def toInt? (format : BinaryFormat) (word : Nat) : Option Int :=
  match format.magnitude word with
  | .finite significand exponent =>
      let ratio := scaleRatio significand 1 (-exponent)
      if ratio.1 % ratio.2 = 0 then
        let absolute : Int := (ratio.1 / ratio.2 : Nat)
        some (if format.isNegative word then -absolute else absolute)
      else
        none
  | _ => none

end BinaryFormat

/-- A double-precision number, told apart from others by its bits alone. -/
structure Binary64 where
  /-- The interchange word. -/
  bits : UInt64
  deriving DecidableEq, Inhabited

namespace Binary64

/-- The double with the given word. -/
def ofWord (word : Nat) : Binary64 := ⟨UInt64.ofNat word⟩

/-- The word of a double as a natural number. -/
def word (number : Binary64) : Nat := number.bits.toNat

/-- Positive zero. -/
def zero : Binary64 := ⟨0⟩

/-- The double nearest to an integer. -/
def ofInt (number : Int) : Binary64 :=
  ofWord (BinaryFormat.double.ofInt number)

/-- Whether the sign bit is set. -/
def isNegative (number : Binary64) : Bool :=
  BinaryFormat.double.isNegative number.word

/-- The magnitude that the double denotes. -/
def magnitude (number : Binary64) : Magnitude :=
  BinaryFormat.double.magnitude number.word

/-- The integer that the double denotes, if it denotes one. -/
def toInt? (number : Binary64) : Option Int :=
  BinaryFormat.double.toInt? number.word

/-- The single-precision word nearest to the double. -/
def toSingleWord (number : Binary64) : Nat :=
  BinaryFormat.double.convert .single number.word

/-- The double with the value of a single-precision word. -/
def ofSingleWord (word : Nat) : Binary64 :=
  ofWord (BinaryFormat.single.convert .double word)

/-- The double rounded to single precision. -/
def toSinglePrecision (number : Binary64) : Binary64 :=
  ofSingleWord number.toSingleWord

end Binary64
end TypedSql
