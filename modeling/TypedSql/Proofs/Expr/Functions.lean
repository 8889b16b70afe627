import TypedSql.Proofs.Expr.Compile
import TypedSql.Proofs.Text.Ascii

/-!
# Calls of functions

A call is allowed if its name is, up to case, that of a function and it has as many arguments
as the function takes.
-/

namespace TypedSql
namespace FunctionRule

/-- A call by a name, up to case, with a number of arguments is one of the function. -/
structure Fits (rule : FunctionRule) (name : String) (count : Nat) : Prop where
  named : Ascii.same rule.name name = true
  enough : rule.least ≤ count
  notTooMany : ∀ most, rule.greatest = some most → count ≤ most

theorem accepts_iff {rule : FunctionRule} {count : Nat} :
    rule.accepts count = true ↔
      rule.least ≤ count ∧ ∀ most, rule.greatest = some most → count ≤ most := by
  rw [accepts, Bool.and_eq_true, decide_eq_true_eq]
  cases rule.greatest <;> simp

/-- The names of the functions are in upper case, and no two are the same. -/
theorem upper_of_mem_supported : ∀ rule ∈ supported, Ascii.upper rule.name = rule.name := by
  decide

theorem name_injective :
    ∀ rule ∈ supported, ∀ other ∈ supported, rule.name = other.name → rule = other := by
  decide

/-- A name finds the one function that has it up to case. -/
theorem find?_eq_some_iff {name : String} {rule : FunctionRule} :
    find? name = some rule ↔ rule ∈ supported ∧ Ascii.same rule.name name = true := by
  constructor
  · intro found
    have listed := List.mem_of_find?_eq_some found
    have named : rule.name = Ascii.upper name := by simpa using List.find?_some found
    rw [Ascii.same_iff_upper, upper_of_mem_supported rule listed]
    exact ⟨listed, named⟩
  · rintro ⟨listed, same⟩
    rw [Ascii.same_iff_upper, upper_of_mem_supported rule listed] at same
    have present : (find? name).isSome = true :=
      List.find?_isSome.mpr ⟨rule, listed, by simpa using same⟩
    obtain ⟨other, found⟩ := Option.isSome_iff_exists.mp present
    have otherNamed : other.name = Ascii.upper name := by simpa using List.find?_some found
    rw [found, name_injective other (List.mem_of_find?_eq_some found) rule listed
      (otherNamed.trans same.symm)]

/-- A call is allowed exactly if it is one of a function that may be called. -/
theorem exists_check_iff {name : String} {count : Nat} :
    (∃ rule, check name count = .ok rule) ↔ ∃ rule ∈ supported, rule.Fits name count := by
  simp only [check_eq_ok, find?_eq_some_iff, accepts_iff]
  constructor
  · rintro ⟨rule, ⟨listed, named⟩, enough, notTooMany⟩
    exact ⟨rule, listed, named, enough, notTooMany⟩
  · rintro ⟨rule, listed, named, enough, notTooMany⟩
    exact ⟨rule, ⟨listed, named⟩, enough, notTooMany⟩

end FunctionRule
end TypedSql
