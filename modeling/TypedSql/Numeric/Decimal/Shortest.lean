import TypedSql.Numeric.Binary

/-!
# Shortest decimals

The shortest decimal of a binary number is the multiple of the largest power of
ten that still reads back as that number. Reading rounds to nearest, so the
numbers that read back form an interval around the number, closed exactly when
its significand is even. Of two multiples the nearer is taken, and of two
equally near ones the greater.
-/

namespace TypedSql

/-- The number `significand * 10 ^ exponent`. -/
structure Decimal where
  significand : Nat
  exponent : Int
  deriving DecidableEq

namespace Decimal

/-- An interval of positive rationals around a value, over one denominator. -/
structure Interval where
  lower : Nat
  value : Nat
  upper : Nat
  denominator : Nat
  /-- Whether the two ends belong to the interval. -/
  closed : Bool
  deriving DecidableEq

namespace Interval

/-- Whether a ratio lies in the interval. -/
def Contains (interval : Interval) (numerator denominator : Nat) : Prop :=
  if interval.closed then
    interval.lower * denominator ≤ numerator * interval.denominator ∧
      numerator * interval.denominator ≤ interval.upper * denominator
  else
    interval.lower * denominator < numerator * interval.denominator ∧
      numerator * interval.denominator < interval.upper * denominator

instance (interval : Interval) (numerator denominator : Nat) :
    Decidable (interval.Contains numerator denominator) := by
  unfold Contains
  infer_instance

/-- The numbers that round to `significand * 2 ^ exponent`. -/
def ofBinary (format : BinaryFormat) (significand : Nat) (exponent : Int) : Interval :=
  let below :=
    if significand = format.fieldWeight ∧ format.leastExponent < exponent then 1 else 2
  let scale := Nat.pow 2 (exponent - 2).toNat
  { lower := (4 * significand - below) * scale
    value := 4 * significand * scale
    upper := (4 * significand + 2) * scale
    denominator := Nat.pow 2 (2 - exponent).toNat
    closed := significand % 2 == 0 }

/-- The multiple of `10 ^ exponent` in the interval that is nearest its value. -/
def multiple? (interval : Interval) (exponent : Int) : Option Nat :=
  let up := Nat.pow 10 exponent.toNat
  let down := Nat.pow 10 (-exponent).toNat
  let unit := up * interval.denominator
  let floor := interval.value * down / unit
  let doubled := 2 * (interval.value * down % unit)
  let hasFloor := decide (interval.Contains (floor * up) down)
  let hasNext := decide (interval.Contains ((floor + 1) * up) down)
  if hasFloor && (!hasNext || decide (doubled < unit)) then some floor
  else if hasNext then some (floor + 1)
  else none

/-- The first multiple found while the power of ten goes down from `exponent`. -/
def search (interval : Interval) : Nat → Int → Option Decimal
  | 0, _ => none
  | steps + 1, exponent =>
      match interval.multiple? exponent with
      | some significand => some ⟨significand, exponent⟩
      | none => interval.search steps (exponent - 1)

end Interval

/-- The exponent from which the search for a double starts. -/
def greatestExponent : Int := 309

/-- The number of powers of ten from the greatest to the least that a double needs. -/
def exponentCount : Nat := 640

/-- The shortest decimal of a positive double `significand * 2 ^ exponent`. -/
def shortest (significand : Nat) (exponent : Int) : Decimal :=
  (Interval.search (.ofBinary .double significand exponent) exponentCount
    greatestExponent).getD ⟨significand, exponent⟩

end Decimal
end TypedSql
