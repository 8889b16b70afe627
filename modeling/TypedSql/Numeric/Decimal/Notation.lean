import TypedSql.Numeric.Decimal.Shortest

/-!
# Written decimals

Positional and scientific notation of decimals, and the two styles in which
doubles are written: plain text, which is always positional, and literal text,
which marks whole numbers with a point and leaves positional notation for very
large and very small numbers.
-/

namespace TypedSql
namespace Decimal

/-- The decimal digits of the significand. -/
def digits (decimal : Decimal) : List Char :=
  Nat.toDigits 10 decimal.significand

/-- The power of ten of the first digit. -/
def magnitudeExponent (decimal : Decimal) : Int :=
  decimal.exponent + decimal.digits.length - 1

/-- The decimal without an exponent; `whole` follows a number with no fraction. -/
def positional (decimal : Decimal) (whole : String) : String :=
  let digits := decimal.digits
  let point := decimal.magnitudeExponent + 1
  if 0 ≤ decimal.exponent then
    String.ofList (digits ++ List.replicate decimal.exponent.toNat '0') ++ whole
  else if 0 < point then
    String.ofList (digits.take point.toNat ++ '.' :: digits.drop point.toNat)
  else
    String.ofList ('0' :: '.' :: (List.replicate (-point).toNat '0' ++ digits))

/-- The decimal with one digit before the point and a power of ten. -/
def scientific (decimal : Decimal) : String :=
  let mantissa :=
    match decimal.digits with
    | first :: second :: rest => first :: '.' :: second :: rest
    | short => short
  String.ofList mantissa ++ "e" ++ toString decimal.magnitudeExponent

end Decimal

/-- How doubles are written. -/
structure RealStyle where
  /-- What follows the digits of a whole number in positional notation. -/
  whole : String
  /-- Whether a number whose first digit has this power of ten is written positionally. -/
  isPositional : Int → Bool

namespace RealStyle

/-- No mark on whole numbers, and never an exponent. -/
def plain : RealStyle := ⟨"", fun _ => true⟩

/-- Whole numbers end in `.0`; positional from `0.0001` up to below `10 ^ 16`. -/
def literal : RealStyle := ⟨".0", fun exponent => -4 ≤ exponent && exponent < 16⟩

end RealStyle

namespace Binary64

/-- The text of a double in a style, with the fewest digits that read back. -/
def text (style : RealStyle) (number : Binary64) : String :=
  let sign := if number.isNegative then "-" else ""
  match number.magnitude with
  | .undefined _ => "NaN"
  | .infinite => sign ++ "inf"
  | .finite 0 _ => sign ++ "0" ++ style.whole
  | .finite significand exponent =>
      let decimal := Decimal.shortest significand exponent
      if style.isPositional decimal.magnitudeExponent then
        sign ++ decimal.positional style.whole
      else
        sign ++ decimal.scientific

end Binary64
end TypedSql
