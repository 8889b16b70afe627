import TypedSql.Numeric.Decimal.Reader
import TypedSql.Toml.Item

/-!
# Numbers, truth values and moments

The unquoted values of a document: truth values, integers in four bases, reals,
and dates and times of day. Digits may be grouped by single underscores.
-/

namespace TypedSql
namespace Toml

/-! ## Numbers -/

/-- Whether a character is a hexadecimal digit. -/
def isHexDigit (character : Char) : Bool :=
  character.isDigit || ('a' ≤ character && character ≤ 'f') ||
    ('A' ≤ character && character ≤ 'F')

/-- Whether a character is an octal digit. -/
def isOctalDigit (character : Char) : Bool :=
  '0' ≤ character && character ≤ '7'

/-- Whether a character is a binary digit. -/
def isBinaryDigit (character : Char) : Bool :=
  character == '0' || character == '1'

/-- The value of a hexadecimal digit. -/
def hexValue (character : Char) : Nat :=
  if character.isDigit then character.toNat - '0'.toNat
  else character.toLower.toNat - 'a'.toNat + 10

/-- The number of digits in a base. -/
def numberOf (base : Nat) (digits : List Char) : Nat :=
  digits.foldl (fun value digit => base * value + hexValue digit) 0

/-- The digits of a text in which each underscore stands between two digits. -/
def ungroup? (isDigit : Char → Bool) : List Char → Option (List Char)
  | [] => none
  | [last] => if isDigit last then some [last] else none
  | first :: '_' :: second :: rest =>
      if isDigit first then (ungroup? isDigit (second :: rest)).map (first :: ·) else none
  | first :: second :: rest =>
      if isDigit first then (ungroup? isDigit (second :: rest)).map (first :: ·) else none

/-- The digits of an unsigned decimal integer, which has no superfluous zero in front. -/
def decimalDigits? (content : List Char) : Option (List Char) :=
  match ungroup? Char.isDigit content with
  | some ('0' :: _ :: _) => none
  | digits => digits

/-- The least integer that a document may hold. -/
def leastInteger : Int := -0x80000000000000000000000000000000

/-- The greatest integer that a document may hold. -/
def greatestInteger : Int := 0xFFFFFFFFFFFFFFFFFFFFFFFFFFFFFFFF

/-- An integer item, if the integer is not too large. -/
def integerItem? (number : Int) : Option Item :=
  if leastInteger ≤ number ∧ number ≤ greatestInteger then some (.integer number) else none

/-- An integer in decimal or, without a sign, in one of three other bases. -/
def integer? (content : List Char) : Option Item :=
  match content with
  | '0' :: 'x' :: digits => do
      integerItem? (numberOf 16 (← ungroup? isHexDigit digits))
  | '0' :: 'o' :: digits => do
      integerItem? (numberOf 8 (← ungroup? isOctalDigit digits))
  | '0' :: 'b' :: digits => do
      integerItem? (numberOf 2 (← ungroup? isBinaryDigit digits))
  | _ => do
      let (negative, rest) := Decimal.splitSign content
      let absolute : Int := numberOf 10 (← decimalDigits? rest)
      integerItem? (if negative then -absolute else absolute)

/-- Whether a character marks an exponent. -/
def isExponentMark (character : Char) : Bool :=
  character == 'e' || character == 'E'

/-- The exponent part of a real without its underscores; it may be missing. -/
def exponentPart? : List Char → Option (List Char)
  | [] => some []
  | mark :: rest => do
      let (negative, digits) := Decimal.splitSign rest
      let digits ← ungroup? Char.isDigit digits
      return mark :: (if negative then '-' :: digits else digits)

/-- The fraction of a real without its underscores; it may be missing. -/
def fractionPart? : List Char → Option (List Char)
  | [] => some []
  | '.' :: rest => (ungroup? Char.isDigit rest).map ('.' :: ·)
  | _ => none

/-- The text of a real without its underscores. -/
def realText? (content : List Char) : Option (List Char) := do
  let (negative, unsigned) := Decimal.splitSign content
  let sign := if negative then ['-'] else []
  if unsigned = ['i', 'n', 'f'] ∨ unsigned = ['n', 'a', 'n'] then return sign ++ unsigned
  let mantissa := unsigned.takeWhile fun character => !isExponentMark character
  let exponent := unsigned.dropWhile fun character => !isExponentMark character
  let whole := mantissa.takeWhile (· ≠ '.')
  let fraction := mantissa.dropWhile (· ≠ '.')
  if fraction.isEmpty && exponent.isEmpty then none
  return sign ++ (← decimalDigits? whole) ++ (← fractionPart? fraction) ++
    (← exponentPart? exponent)

/-- A real; a number is not so large that it would become infinite. -/
def real? (content : List Char) : Option Item := do
  let written ← realText? content
  let number ← Decimal.readDouble? written
  if number.magnitude = .infinite && written.any Char.isDigit then none
  return .real number

/-! ## Dates and times of day -/

/-- The number of a text of `width` digits. -/
def fixedNumber? (width : Nat) (content : List Char) : Option Nat :=
  if content.length = width ∧ content.all Char.isDigit then some (numberOf 10 content)
  else none

/-- The number of days in a month. -/
def daysIn (year month : Nat) : Nat :=
  if month = 2 then
    if year % 4 = 0 ∧ (year % 100 ≠ 0 ∨ year % 400 = 0) then 29 else 28
  else if month ∈ [4, 6, 9, 11] then 30
  else 31

/-- Whether a text is a date. -/
def isDate (content : List Char) : Bool :=
  match content.splitOn '-' with
  | [year, month, day] =>
      match fixedNumber? 4 year, fixedNumber? 2 month, fixedNumber? 2 day with
      | some year, some month, some day =>
          1 ≤ month && month ≤ 12 && 1 ≤ day && day ≤ daysIn year month
      | _, _, _ => false
  | _ => false

/-- Whether a text is a number of two digits up to a limit. -/
def isClockNumber (limit : Nat) (content : List Char) : Bool :=
  (fixedNumber? 2 content).any (· ≤ limit)

/-- Whether a text is a number of seconds, with or without a fraction. -/
def isSeconds (content : List Char) : Bool :=
  isClockNumber 60 (content.take 2) &&
    match content.drop 2 with
    | [] => true
    | '.' :: fraction => !fraction.isEmpty && fraction.all Char.isDigit
    | _ => false

/-- Whether a text is a time of day, with or without seconds. -/
def isTime (content : List Char) : Bool :=
  match content.splitOn ':' with
  | [hour, minute] => isClockNumber 23 hour && isClockNumber 59 minute
  | [hour, minute, second] =>
      isClockNumber 23 hour && isClockNumber 59 minute && isSeconds second
  | _ => false

/-- Whether a text is an offset from universal time without its sign. -/
def isOffset (content : List Char) : Bool :=
  match content.splitOn ':' with
  | [hour, minute] => isClockNumber 23 hour && isClockNumber 59 minute
  | _ => false

/-- Whether a character stands between a time of day and its offset. -/
def isOffsetMark (character : Char) : Bool :=
  character ∈ ['Z', 'z', '+', '-']

/-- Whether a text is a time of day, with or without an offset. -/
def isOffsetTime (content : List Char) : Bool :=
  isTime (content.takeWhile fun character => !isOffsetMark character) &&
    match content.dropWhile fun character => !isOffsetMark character with
    | [] => true
    | ['Z'] => true
    | ['z'] => true
    | '+' :: offset => isOffset offset
    | '-' :: offset => isOffset offset
    | _ => false

/-- Whether a text is a date, a time of day, or a date with a time of day after a mark. -/
def isMoment (content : List Char) : Bool :=
  isTime content || isDate content ||
    (isDate (content.take 10) &&
      match content.drop 10 with
      | mark :: time => (mark ∈ ['T', 't', ' ']) && isOffsetTime time
      | [] => false)

/-! ## Unquoted values -/

/-- The item of an unquoted value. -/
def scalar? (content : List Char) : Option Item :=
  if content = ['t', 'r', 'u', 'e'] then some (.boolean true)
  else if content = ['f', 'a', 'l', 's', 'e'] then some (.boolean false)
  else if isMoment content then some (.moment (String.ofList content))
  else (integer? content).or (real? content)

end Toml
end TypedSql
