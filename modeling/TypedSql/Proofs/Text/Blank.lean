import Mathlib.Data.List.Basic
import Mathlib.Data.List.TakeWhile
import TypedSql.Text.Blank

/-!
# Trimming

Trimming takes the blank characters off both ends of a text and nothing else, and what it leaves
has no blank at either end. So a text without blanks of its own is found again whatever blanks
stand around it.
-/

namespace TypedSql
namespace Blank

/-- A text is another one with blank characters before and behind it. -/
def Padded (core characters : List Char) : Prop :=
  ∃ front back, (∀ character ∈ front, isBlank character = true) ∧
    (∀ character ∈ back, isBlank character = true) ∧ characters = front ++ core ++ back

/-- What is left of a text without the blank characters at its ends. -/
structure Trimmed (core characters : List Char) : Prop where
  padded : Padded core characters
  first : ∀ character ∈ core.head?, isBlank character = false
  last : ∀ character ∈ core.getLast?, isBlank character = false

variable {core characters : List Char}

/-- What is dropped from the front of a text is blank. -/
theorem exists_eq_append_dropWhile (characters : List Char) :
    ∃ front, (∀ character ∈ front, isBlank character = true) ∧
      characters = front ++ characters.dropWhile isBlank :=
  ⟨characters.takeWhile isBlank, fun _ => List.mem_takeWhile_imp,
    List.takeWhile_append_dropWhile.symm⟩

/-- What is left when the front is dropped does not start with a blank. -/
theorem visible_of_head?_dropWhile (characters : List Char) :
    ∀ character ∈ (characters.dropWhile isBlank).head?, isBlank character = false := by
  intro character first
  have visible := List.head?_dropWhile_not isBlank characters
  rwa [Option.mem_def.mp first] at visible

/-- A text whose front is dropped is what trimming leaves, with blanks behind it. -/
theorem exists_dropWhile_eq_trim_append (characters : List Char) :
    ∃ back, (∀ character ∈ back, isBlank character = true) ∧
      characters.dropWhile isBlank = trim characters ++ back := by
  obtain ⟨back, backBlank, rest⟩ :=
    exists_eq_append_dropWhile (characters.dropWhile isBlank).reverse
  refine ⟨back.reverse, by simpa using backBlank, ?_⟩
  have kept := congrArg List.reverse rest
  rwa [List.reverse_reverse, List.reverse_append] at kept

theorem trimmed_trim (characters : List Char) : Trimmed (trim characters) characters := by
  obtain ⟨front, frontBlank, whole⟩ := exists_eq_append_dropWhile characters
  obtain ⟨back, backBlank, kept⟩ := exists_dropWhile_eq_trim_append characters
  refine ⟨⟨front, back, frontBlank, backBlank, ?_⟩, ?_, ?_⟩
  · rw [List.append_assoc, ← kept, ← whole]
  · intro character first
    refine visible_of_head?_dropWhile characters character ?_
    rw [kept, List.head?_append, Option.mem_def.mp first]
    rfl
  · rw [trim, List.getLast?_reverse]
    exact visible_of_head?_dropWhile _

/-- Blanks in front of a text that starts with none are dropped, and nothing else. -/
theorem dropWhile_append
    {front text : List Char}
    (frontBlank : ∀ character ∈ front, isBlank character = true)
    (visible : ∀ character ∈ text.head?, isBlank character = false) :
    (front ++ text).dropWhile isBlank = text := by
  rw [List.dropWhile_append_of_pos frontBlank]
  cases text with
  | nil => rfl
  | cons first rest => exact List.dropWhile_cons_of_neg (by simp [visible first rfl])

/-- Nothing is left of a text of blanks. -/
theorem trim_eq_nil (blank : ∀ character ∈ characters, isBlank character = true) :
    trim characters = [] := by
  rw [trim, List.dropWhile_eq_nil_iff.mpr blank]
  rfl

namespace Trimmed

/-- Trimming leaves all that is between the blanks at the ends. -/
theorem trim_eq (trimmed : Trimmed core characters) : trim characters = core := by
  obtain ⟨⟨front, back, frontBlank, backBlank, rfl⟩, firstVisible, lastVisible⟩ := trimmed
  rcases eq_or_ne core [] with rfl | nonempty
  · refine trim_eq_nil fun character member => ?_
    rw [List.append_nil, List.mem_append] at member
    exact member.elim (frontBlank character) (backBlank character)
  · have startVisible : ∀ character ∈ (core ++ back).head?, isBlank character = false := by
      rwa [List.head?_append_of_ne_nil core nonempty]
    have endVisible : ∀ character ∈ core.reverse.head?, isBlank character = false := by
      rwa [List.head?_reverse]
    rw [trim, List.append_assoc, dropWhile_append frontBlank startVisible, List.reverse_append,
      dropWhile_append (by simpa using backBlank) endVisible, List.reverse_reverse]

end Trimmed

/-- Trimming leaves the one text that is left without the blanks at the ends. -/
theorem trimmed_iff : Trimmed core characters ↔ core = trim characters := by
  constructor
  · intro trimmed
    exact trimmed.trim_eq.symm
  · rintro rfl
    exact trimmed_trim characters

/-- A text without blanks is all that is left of it with blanks around it. -/
theorem Padded.trimmed
    (padded : Padded core characters)
    (visible : ∀ character ∈ core, isBlank character = false) :
    Trimmed core characters where
  padded := padded
  first := fun character isFirst => visible character (List.mem_of_head? isFirst)
  last := fun character isLast => visible character (List.mem_of_getLast? isLast)

end Blank
end TypedSql
