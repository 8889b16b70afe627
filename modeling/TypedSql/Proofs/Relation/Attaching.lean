import TypedSql.Proofs.Database.Steps
import TypedSql.Relation.Attach

/-!
# What attaching changes

Children are attached to all parents or to none: what can fail is done before the first parent
is given anything. The records of the parents never change, nor do other slots than the
relation's own.
-/

namespace TypedSql

namespace Parent

/-- The parents have children, or none, but no empty slot at a place. -/
def Filled (slot : Nat) (parents : List Parent) : Prop :=
  ∀ parent ∈ parents, parent.slots[slot]? ≠ some none

theorem slot_fill_of_ne
    {slot other : Nat}
    (parent : Parent)
    (related : Related)
    (different : slot ≠ other) :
    (parent.fill slot related).slots[other]? = parent.slots[other]? :=
  List.getElem?_set_ne different

theorem slot_fill_self (parent : Parent) (slot : Nat) (related : Related) :
    (parent.fill slot related).slots[slot]? ≠ some none := by
  rw [fill, List.getElem?_set_self']
  cases parent.slots[slot]? <;> simp

end Parent

namespace Relation

variable {relation : Relation} {slot : Nat} {shape : Shape} {dialect : Dialect}
  {columns : List String} {rows : List Row} {parents loaded : List Parent}

/-- What attaching does: it fills the slot of every parent, or it fails and fills none. -/
inductive Attaches
    (relation : Relation)
    (slot : Nat)
    (shape : Shape)
    (dialect : Dialect)
    (columns : List String)
    (rows : List Row)
    (parents : List Parent) : Except Error Unit × List Parent → Prop
  | ungrouped (error : Error) :
      relation.groupRows dialect columns rows = .error error →
      Attaches relation slot shape dialect columns rows parents (.error error, parents)
  | unlocated (groups : ChildGroups) (cause : CompileError) :
      relation.groupRows dialect columns rows = .ok groups →
      shape.locate relation.parentKey = .error cause →
      Attaches relation slot shape dialect columns rows parents
        (.error (.compilation cause), parents)
  | filled (groups : ChildGroups) (position : Nat) (field : Field) :
      relation.groupRows dialect columns rows = .ok groups →
      shape.locate relation.parentKey = .ok (position, field) →
      Attaches relation slot shape dialect columns rows parents
        (.ok (), parents.map fun parent =>
          parent.fill slot
            (relation.cardinality.relate (groups.children (parent.record.get position))))

theorem attaches_attach
    (relation : Relation)
    (slot : Nat)
    (shape : Shape)
    (dialect : Dialect)
    (columns : List String)
    (rows : List Row)
    (parents : List Parent) :
    relation.Attaches slot shape dialect columns rows parents
      (relation.attach slot shape dialect columns rows parents) := by
  unfold attach
  cases grouping : relation.groupRows dialect columns rows with
  | error error => exact .ungrouped error grouping
  | ok groups =>
      cases located : shape.locate relation.parentKey with
      | error cause => exact .unlocated groups cause grouping located
      | ok key => exact .filled groups key.1 key.2 grouping located

/-- Attaching that fails leaves every parent as it was. -/
theorem attach_of_error
    {error : Error}
    (failed : (relation.attach slot shape dialect columns rows parents).1 = .error error) :
    relation.attach slot shape dialect columns rows parents = (.error error, parents) := by
  have attaches := relation.attaches_attach slot shape dialect columns rows parents
  generalize relation.attach slot shape dialect columns rows parents = result
    at attaches failed
  cases attaches with
  | ungrouped | unlocated =>
      cases failed
      rfl
  | filled => cases failed

/-- Attaching children fails because of a row, or because a key is no field. -/
theorem isOfRow_or_of_attach
    {error : Error}
    (failed : (relation.attach slot shape dialect columns rows parents).1 = .error error) :
    error.isOfRow = true ∨
      ∃ cause, error = .compilation cause ∧
        (relation.child.locate relation.childKey = .error cause ∨
          shape.locate relation.parentKey = .error cause) := by
  have attaches := relation.attaches_attach slot shape dialect columns rows parents
  generalize relation.attach slot shape dialect columns rows parents = result
    at attaches failed
  cases attaches with
  | ungrouped _ grouping =>
      cases failed
      rcases bind_eq_error.mp grouping with unlocated | ⟨_, _, reading⟩
      · obtain ⟨cause, notFound, rfl⟩ := mapError_eq_error unlocated
        exact .inr ⟨cause, rfl, .inl notFound⟩
      · rcases bind_eq_error.mp reading with refused | ⟨_, _, returned⟩
        · obtain ⟨row, _, refusal⟩ := exists_of_mapM_eq_error refused
          exact .inl (Mapper.isOfRow_of_materialize refusal)
        · cases returned
  | unlocated _ cause _ located =>
      cases failed
      exact .inr ⟨cause, rfl, .inr located⟩
  | filled => cases failed

/-- Attached children fill the slot of every parent. -/
theorem exists_fill_of_attach
    (attached : relation.attach slot shape dialect columns rows parents = (.ok (), loaded)) :
    ∃ related : Parent → Related,
      loaded = parents.map fun parent => parent.fill slot (related parent) := by
  have attaches := relation.attaches_attach slot shape dialect columns rows parents
  rw [attached] at attaches
  cases attaches with
  | filled groups position field _ _ => exact ⟨_, rfl⟩

theorem records_of_attach
    (attached : relation.attach slot shape dialect columns rows parents = (.ok (), loaded)) :
    loaded.map Parent.record = parents.map Parent.record := by
  obtain ⟨related, rfl⟩ := exists_fill_of_attach attached
  rw [List.map_map]
  rfl

theorem slots_of_attach
    {other : Nat}
    (different : slot ≠ other)
    (attached : relation.attach slot shape dialect columns rows parents = (.ok (), loaded)) :
    loaded.map (·.slots[other]?) = parents.map (·.slots[other]?) := by
  obtain ⟨related, rfl⟩ := exists_fill_of_attach attached
  rw [List.map_map]
  exact List.map_congr_left fun parent _ =>
    parent.slot_fill_of_ne (related parent) different

theorem filled_of_attach
    (attached : relation.attach slot shape dialect columns rows parents = (.ok (), loaded)) :
    Parent.Filled slot loaded := by
  obtain ⟨related, rfl⟩ := exists_fill_of_attach attached
  intro parent member
  obtain ⟨before, _, rfl⟩ := List.mem_map.mp member
  exact before.slot_fill_self slot (related before)

/-- No slot is emptied. -/
theorem keepsFilled_of_attach
    {other : Nat}
    (filled : Parent.Filled other parents)
    (attached : relation.attach slot shape dialect columns rows parents = (.ok (), loaded)) :
    Parent.Filled other loaded := by
  by_cases same : slot = other
  · exact same ▸ filled_of_attach attached
  · obtain ⟨related, rfl⟩ := exists_fill_of_attach attached
    intro parent member
    obtain ⟨before, wasThere, rfl⟩ := List.mem_map.mp member
    rw [before.slot_fill_of_ne (related before) same]
    exact filled before wasThere

end Relation
end TypedSql
