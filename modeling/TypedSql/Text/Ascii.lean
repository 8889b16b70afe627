/-!
# ASCII letter case

Table, column and function names are compared without regard to the case of
ASCII letters. Every other character stands only for itself.
-/

namespace TypedSql
namespace Ascii

/-- The text with its ASCII letters in lower case. -/
def lower (text : String) : String :=
  String.ofList (text.toList.map Char.toLower)

/-- The text with its ASCII letters in upper case. -/
def upper (text : String) : String :=
  String.ofList (text.toList.map Char.toUpper)

/-- Whether two texts agree up to the case of ASCII letters. -/
def same (left right : String) : Bool :=
  lower left == lower right

@[simp] theorem toList_lower (text : String) :
    (lower text).toList = text.toList.map Char.toLower := by
  simp [lower]

@[simp] theorem toList_upper (text : String) :
    (upper text).toList = text.toList.map Char.toUpper := by
  simp [upper]

/-- Agreement up to case is equality of the lower-case forms. -/
theorem same_iff (left right : String) :
    same left right = true ↔ lower left = lower right := by
  simp [same]

@[simp] theorem same_refl (text : String) : same text text = true := by
  simp [same]

end Ascii
end TypedSql
