import Mathlib
import TypedSql.Text.Ascii

/-!
# Names up to case

The lower-case and the upper-case form of a name determine each other, so names that agree up
to case can be compared in either form. They agree exactly if they are equal letter by letter
but for the case of ASCII letters.
-/

namespace TypedSql
namespace Ascii

theorem lower_lower (text : String) : lower (lower text) = lower text := by
  have same : Char.toLower ∘ Char.toLower = Char.toLower := funext Char.toLower_toLower_eq_toLower
  rw [lower, toList_lower, List.map_map, same, lower]

theorem lower_upper (text : String) : lower (upper text) = lower text := by
  have same : Char.toLower ∘ Char.toUpper = Char.toLower :=
    funext Char.toLower_toUpper_eq_toLower
  rw [lower, toList_upper, List.map_map, same, lower]

theorem upper_lower (text : String) : upper (lower text) = upper text := by
  have same : Char.toUpper ∘ Char.toLower = Char.toUpper :=
    funext Char.toUpper_toLower_eq_toUpper
  rw [upper, toList_lower, List.map_map, same, upper]

/-- Agreement up to case is equality of the upper-case forms as well. -/
theorem same_iff_upper (left right : String) :
    same left right = true ↔ upper left = upper right := by
  rw [same_iff]
  constructor
  · intro lowered
    rw [← upper_lower left, lowered, upper_lower]
  · intro raised
    rw [← lower_upper left, raised, lower_upper]

/-! ## Letter by letter -/

/-- Two characters that are the same, or the two cases of one ASCII letter. -/
inductive SameLetter : Char → Char → Prop
  | refl (character : Char) : SameLetter character character
  | lowered {letter : Char} :
      letter.isUpper = true → SameLetter letter (.ofNat (letter.toNat + 32))
  | raised {letter : Char} :
      letter.isUpper = true → SameLetter (.ofNat (letter.toNat + 32)) letter

/-- Two texts that differ in nothing but the case of ASCII letters. -/
def Variant (text other : String) : Prop :=
  List.Forall₂ SameLetter text.toList other.toList

theorem toLower_eq_toLower_iff {first second : Char} :
    first.toLower = second.toLower ↔ SameLetter first second := by
  constructor
  · intro lowered
    by_cases firstUpper : first.isUpper = true
    · by_cases secondUpper : second.isUpper = true
      · have raised := congrArg Char.toUpper lowered
        rw [Char.toUpper_toLower_eq_toUpper, Char.toUpper_toLower_eq_toUpper,
          Char.toUpper_eq_of_not_isLower (Char.not_isLower_of_isUpper firstUpper),
          Char.toUpper_eq_of_not_isLower (Char.not_isLower_of_isUpper secondUpper)] at raised
        rw [raised]
        exact .refl second
      · rw [Char.toLower_eq_of_isUpper firstUpper,
          Char.toLower_eq_of_not_isUpper secondUpper] at lowered
        rw [← lowered]
        exact .lowered firstUpper
    · rw [Char.toLower_eq_of_not_isUpper firstUpper] at lowered
      by_cases secondUpper : second.isUpper = true
      · rw [lowered, Char.toLower_eq_of_isUpper secondUpper]
        exact .raised secondUpper
      · rw [lowered, Char.toLower_eq_of_not_isUpper secondUpper]
        exact .refl second
  · rintro (_ | isUpper | isUpper)
    · rfl
    · rw [← Char.toLower_eq_of_isUpper isUpper, Char.toLower_toLower_eq_toLower]
    · rw [← Char.toLower_eq_of_isUpper isUpper, Char.toLower_toLower_eq_toLower]

theorem same_iff_variant {text other : String} :
    same text other = true ↔ Variant text other := by
  rw [same_iff, ← String.toList_inj, toList_lower, toList_lower, ← List.forall₂_eq_eq_eq,
    List.forall₂_map_left_iff, List.forall₂_map_right_iff]
  simp only [toLower_eq_toLower_iff, Variant]

end Ascii
end TypedSql
