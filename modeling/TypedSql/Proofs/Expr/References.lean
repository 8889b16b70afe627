import TypedSql.Proofs.Expr.Pieces

/-!
# References to columns and names of tables

The columns that a fragment refers to are those that stand behind the name of a table
and a dot. Compiled expressions refer only to columns that the tables of their scope
have, and they introduce no tables of their own.
-/

namespace TypedSql

/-- Whether the name of a table follows a chunk. -/
def Chunk.introduces : Chunk → Bool
  | .token symbol => symbol.introduces
  | _ => false

/-- Whether one of the tables has a column at a place. -/
def Scope.Has (scope : Scope) (place : Place) : Prop :=
  ∃ shape ∈ scope, shape.table = place.table ∧
    ∃ field ∈ shape.fields, field.column = place.column

theorem Scope.Has.append
    {scope : Scope}
    {place : Place}
    (has : scope.Has place)
    (more : Scope) :
    Scope.Has (scope ++ more) place := by
  obtain ⟨shape, member, columns⟩ := has
  exact ⟨shape, List.mem_append_left more member, columns⟩

/-- A column is found where a table has it. -/
theorem Scope.has_of_place?
    {scope : Scope}
    {reference : ColumnRef}
    {place : Place}
    (found : scope.place? reference = some place) :
    scope.Has place := by
  obtain ⟨shape, admitted, located⟩ := List.exists_of_findSome?_eq_some found
  obtain ⟨field, fieldFound, rfl⟩ := Option.map_eq_some_iff.mp located
  obtain ⟨position, _, present⟩ := Option.bind_eq_some_iff.mp fieldFound
  have member := List.mem_of_getElem? present
  exact ⟨shape, List.mem_of_mem_filter admitted, rfl, field, member, rfl⟩

namespace Fragment

/-! ## References -/

/-- Whether a fragment refers to a place: a table's name, a dot and a column's in a row. -/
def RefersTo (fragment : Fragment) (place : Place) : Prop :=
  Fragment.place place <:+: fragment

/--
A fragment refers only to places with a property. It neither starts nor ends with a dot,
so that no reference goes on over its ends.
-/
structure RefersOnly (accepts : Place → Prop) (fragment : Fragment) : Prop where
  references : ∀ place, fragment.RefersTo place → accepts place
  starts : fragment.head? ≠ some (.mark .dot)
  ends : fragment.getLast? ≠ some (.mark .dot)

variable {accepts : Place → Prop}

/-- A reference in two fragments in a row is one in either, if neither meets it with a dot. -/
theorem refersTo_append
    {place : Place}
    {front back : Fragment}
    (frontEnds : front.getLast? ≠ some (.mark .dot))
    (backStarts : back.head? ≠ some (.mark .dot))
    (refers : RefersTo (front ++ back) place) :
    front.RefersTo place ∨ back.RefersTo place := by
  obtain ⟨before, after, split⟩ := refers
  rw [List.append_assoc] at split
  rcases List.append_eq_append_iff.mp split with ⟨shared, frontShape, backShape⟩ |
      ⟨shared, _, backShape⟩
  · -- The reference starts in the first fragment; it may end there or reach beyond it.
    match shared, frontShape, backShape with
    | [], _, backShape =>
        right
        rw [List.nil_append] at backShape
        rw [← backShape]
        exact List.infix_append_left
    | [_], _, backShape =>
        cases backShape
        exact absurd rfl backStarts
    | [_, _], frontShape, backShape =>
        cases backShape
        rw [frontShape] at frontEnds
        simp at frontEnds
    | _ :: _ :: _ :: rest, frontShape, backShape =>
        left
        cases backShape
        rw [frontShape]
        exact ⟨before, rest, by simp [Fragment.place, qualified]⟩
  · right
    rw [backShape]
    exact ⟨shared, after, by simp⟩

theorem refersOnly_chunk
    {chunk : Chunk}
    (noDot : chunk ≠ .mark .dot) :
    RefersOnly accepts [chunk] where
  references := by
    intro place within
    have short := List.IsInfix.length_le within
    simp [Fragment.place, qualified] at short
  starts := by simpa using noDot
  ends := by simpa using noDot

theorem refersOnly_place
    {place : Place}
    (accepted : accepts place) :
    RefersOnly accepts (.place place) where
  references := by
    intro other within
    have same : Fragment.place other = .place place := List.IsInfix.eq_of_length within rfl
    have samePlace : other = place := by
      cases other
      cases place
      simpa [Fragment.place, qualified] using same
    rwa [samePlace]
  starts := by simp [Fragment.place, qualified]
  ends := by simp [Fragment.place, qualified]

theorem RefersOnly.append
    {front back : Fragment}
    (frontRefers : RefersOnly accepts front)
    (backRefers : RefersOnly accepts back) :
    RefersOnly accepts (front ++ back) where
  references := by
    intro place within
    rcases refersTo_append frontRefers.ends backRefers.starts within with inFront | inBack
    · exact frontRefers.references place inFront
    · exact backRefers.references place inBack
  starts := by
    cases front with
    | nil => exact backRefers.starts
    | cons first rest => exact frontRefers.starts
  ends := by
    rw [List.getLast?_append]
    cases last : back.getLast? with
    | none => exact frontRefers.ends
    | some chunk =>
        rw [← last, Option.or_of_isSome (by simp [last])]
        exact backRefers.ends

theorem RefersOnly.imp
    {more : Place → Prop}
    {fragment : Fragment}
    (refers : RefersOnly accepts fragment)
    (implies : ∀ place, accepts place → more place) :
    RefersOnly more fragment where
  references place within := implies place (refers.references place within)
  starts := refers.starts
  ends := refers.ends

theorem refersOnly_concatenable : Concatenable (RefersOnly accepts) where
  empty := by
    refine ⟨?_, by simp, by simp⟩
    intro place within
    have short := List.IsInfix.length_le within
    simp [Fragment.place, qualified] at short
  token symbol noDot _ := refersOnly_chunk (by simpa using noDot)
  identifier name := refersOnly_chunk (by simp)
  append _ _ := RefersOnly.append

/-- Compiled expressions refer only to columns that the tables of their scope have. -/
theorem refersOnly_compositional (scope : Scope) : Compositional scope (RefersOnly scope.Has) := by
  apply refersOnly_concatenable.compositional
  · intro reference place resolved
    exact refersOnly_place (Scope.has_of_place? (Scope.resolve_eq_ok.mp resolved))
  · exact fun value => refersOnly_chunk (by simp)
  · exact fun count => refersOnly_chunk (by simp)
  · exact fun rule _ => refersOnly_chunk (by simp)

/-! ## Tables -/

/-- The name at the start of a fragment, if there is one. -/
def leadingName : Fragment → List String
  | .identifier name :: _ => [name]
  | _ => []

/-- The tables that a fragment introduces, each by its name after a keyword. -/
def introduced : Fragment → List String
  | [] => []
  | chunk :: rest =>
      if chunk.introduces then leadingName rest ++ introduced rest else introduced rest

/-- A fragment without the keywords that names of tables follow. -/
def IntroducesNothing (fragment : Fragment) : Prop :=
  ∀ chunk ∈ fragment, chunk.introduces = false

theorem introducesNothing_concatenable : Concatenable IntroducesNothing where
  empty := by
    intro chunk member
    cases member
  token symbol _ introducesNone := by
    intro chunk member
    rw [List.mem_singleton.mp member]
    exact introducesNone
  identifier name := by
    intro chunk member
    rw [List.mem_singleton.mp member]
    rfl
  append front back frontHolds backHolds := by
    intro chunk member
    rcases List.mem_append.mp member with inFront | inBack
    · exact frontHolds chunk inFront
    · exact backHolds chunk inBack

theorem introducesNothing_place (place : Place) : IntroducesNothing (.place place) := by
  simp [IntroducesNothing, Fragment.place, qualified, Chunk.introduces, Token.introduces]

/-- Compiled expressions introduce no tables. -/
theorem introducesNothing_compositional (scope : Scope) :
    Compositional scope IntroducesNothing := by
  apply introducesNothing_concatenable.compositional
  · exact fun _ place _ => introducesNothing_place place
  · simp [IntroducesNothing, Chunk.introduces]
  · simp [IntroducesNothing, Chunk.introduces]
  · simp [IntroducesNothing, Chunk.introduces]

/-- What introduces nothing changes nothing for what follows. -/
theorem introduced_append
    {front : Fragment}
    (nothing : IntroducesNothing front)
    (back : Fragment) :
    introduced (front ++ back) = introduced back := by
  induction front with
  | nil => rfl
  | cons chunk rest inductionHypothesis =>
      rw [List.cons_append, introduced, nothing chunk List.mem_cons_self,
        if_neg Bool.false_ne_true]
      exact inductionHypothesis fun other member =>
        nothing other (List.mem_cons_of_mem chunk member)

theorem introduced_nothing {fragment : Fragment} (nothing : IntroducesNothing fragment) :
    introduced fragment = [] := by
  rw [← List.append_nil fragment, introduced_append nothing, introduced]

end Fragment
end TypedSql
