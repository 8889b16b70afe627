import TypedSql.Proofs.Text.Ascii
import TypedSql.Shape.Basic

/-!
# Finding fields by name

The index of a shape finds the first field that has a name or a column, up to case: a
field that comes later does not take a name away from one that comes before it. Main
statement: `Shape.finds_first`.
-/

namespace TypedSql

/-- Whether a name in lower case is the name or the column of a field. -/
def Field.hasKey (field : Field) (key : String) : Bool :=
  key == Ascii.lower field.name || key == Ascii.lower field.column

/-- A name is the name or the column of a field, up to the case of ASCII letters. -/
def Field.Bears (field : Field) (name : String) : Prop :=
  Ascii.Variant name field.name ∨ Ascii.Variant name field.column

theorem Field.isNamed_iff {field : Field} {name : String} :
    field.isNamed name = true ↔ field.Bears name := by
  rw [isNamed, Bool.or_eq_true, Ascii.same_iff_variant, Ascii.same_iff_variant, Bears]

theorem Field.hasKey_lower (field : Field) (name : String) :
    field.hasKey (Ascii.lower name) = field.isNamed name := rfl

/-- The keys of a field are in lower case. -/
theorem Field.lower_eq_of_hasKey {field : Field} {key : String} (has : field.hasKey key = true) :
    Ascii.lower key = key := by
  rw [hasKey, Bool.or_eq_true, beq_iff_eq, beq_iff_eq] at has
  rcases has with rfl | rfl <;> exact Ascii.lower_lower _

namespace NameIndex

variable (index : NameIndex) (key : String)

theorem lookup_insertNew (name : String) (position : Nat) :
    (index.insertNew name position).lookup key =
      (index.lookup key).or (if key == name then some position else none) := by
  unfold insertNew
  by_cases same : key = name
  · subst same
    cases found : index.lookup key <;> simp [found]
  · cases index.lookup name <;>
      simp [List.lookup_cons, beq_false_of_ne same]

theorem lookup_insertField (field : Field) (position : Nat) :
    (index.insertField field position).lookup key =
      (index.lookup key).or (if field.hasKey key then some position else none) := by
  rw [insertField, lookup_insertNew, lookup_insertNew, Option.or_assoc, Field.hasKey]
  cases key == Ascii.lower field.name <;> rfl

/-- Names that are there already stay; of the inserted fields the first with a name has it. -/
theorem lookup_insertFields (fields : List Field) (position : Nat) :
    (index.insertFields fields position).lookup key =
      (index.lookup key).or
        ((fields.findIdx? (·.hasKey key)).map (· + position)) := by
  induction fields generalizing index position with
  | nil => simp [insertFields]
  | cons field rest inductionHypothesis =>
      rw [insertFields, inductionHypothesis, lookup_insertField, Option.or_assoc,
        List.findIdx?_cons]
      cases field.hasKey key with
      | true => simp
      | false =>
          have shifted : (fun place => place + (position + 1)) = (· + position) ∘ (· + 1) := by
            funext place
            exact (Nat.add_right_comm place 1 position).symm
          simp [shifted]

end NameIndex

theorem Shape.lookup_nameIndex (shape : Shape) (key : String) :
    shape.nameIndex.lookup key = shape.fields.findIdx? (·.hasKey key) := by
  rw [nameIndex, NameIndex.lookup_insertFields]
  simp

/-- A name belongs to the first field that has it as its name or its column. -/
theorem Shape.find?_eq_findIdx? (shape : Shape) (name : String) :
    shape.find? name = shape.fields.findIdx? (·.isNamed name) := by
  have lowered :
      shape.nameIndex.lookup (Ascii.lower name) = shape.fields.findIdx? (·.isNamed name) := by
    simp only [lookup_nameIndex, Field.hasKey_lower]
  rw [find?, NameIndex.find?, ← lowered]
  cases found : shape.nameIndex.lookup name with
  | none => rfl
  | some position =>
      -- What is found as it stands is in lower case, so the second look finds the same.
      rw [lookup_nameIndex, List.findIdx?_eq_some_iff_getElem] at found
      obtain ⟨inside, has, first⟩ := found
      rw [Field.lower_eq_of_hasKey has, lookup_nameIndex, eq_comm]
      exact List.findIdx?_eq_some_iff_getElem.mpr ⟨inside, has, first⟩

namespace Shape

/-- Names that agree up to case find the same field. -/
theorem find?_congr
    (shape : Shape)
    {name other : String}
    (same : Ascii.same name other = true) :
    shape.find? name = shape.find? other := by
  have lowered : Ascii.lower name = Ascii.lower other := (Ascii.same_iff name other).mp same
  simp only [find?_eq_findIdx?, Field.isNamed, Ascii.same, lowered]

/-- The column of each field finds that field. -/
def OwnColumns (shape : Shape) : Prop :=
  ∀ (position : Nat) field, shape.fields[position]? = some field →
    shape.find? field.column = some position

theorem ownColumns_iff {shape : Shape} :
    shape.OwnColumns ↔
      ∀ entry ∈ shape.fields.zipIdx, shape.find? entry.1.column = some entry.2 := by
  constructor
  · rintro own ⟨field, position⟩ listed
    exact own position field (List.mem_zipIdx_iff_getElem?.mp listed)
  · intro each position field present
    exact each (field, position) (List.mem_zipIdx_iff_getElem?.mpr present)

instance (shape : Shape) : Decidable shape.OwnColumns :=
  decidable_of_iff _ ownColumns_iff.symm

/-! ## The first field that bears a name -/

section First

variable {shape : Shape} {name : String}

theorem find?_eq_some_iff {position : Nat} :
    shape.find? name = some position ↔
      IsLeast {place | ∃ field, shape.fields[place]? = some field ∧ field.Bears name}
        position := by
  rw [find?_eq_findIdx?, List.findIdx?_eq_some_iff_getElem]
  constructor
  · rintro ⟨inside, named, first⟩
    refine ⟨⟨_, List.getElem?_eq_getElem inside, Field.isNamed_iff.mp named⟩, ?_⟩
    rintro place ⟨field, present, bears⟩
    by_contra before
    obtain ⟨_, rfl⟩ := List.getElem?_eq_some_iff.mp present
    exact first place (Nat.lt_of_not_le before) (Field.isNamed_iff.mpr bears)
  · rintro ⟨⟨field, present, bears⟩, least⟩
    obtain ⟨inside, rfl⟩ := List.getElem?_eq_some_iff.mp present
    refine ⟨inside, Field.isNamed_iff.mpr bears, fun place before named => ?_⟩
    have within : place < shape.fields.length := Nat.lt_trans before inside
    have after := least ⟨_, List.getElem?_eq_getElem within, Field.isNamed_iff.mp named⟩
    exact absurd before (Nat.not_lt_of_le after)

theorem find?_eq_none_iff :
    shape.find? name = none ↔ ∀ field ∈ shape.fields, ¬ field.Bears name := by
  simp only [find?_eq_findIdx?, List.findIdx?_eq_none_iff, ← Field.isNamed_iff,
    Bool.not_eq_true]

end First

/--
A name finds the first field that has it as its name or as its column, up to the case of ASCII
letters, and no field if none has it. So it finds the same field in whatever case its letters
are written, and a restriction to the name leaves that field in.
-/
theorem finds_first (shape : Shape) (name : String) :
    (∀ position, shape.find? name = some position ↔
      IsLeast {place | ∃ field, shape.fields[place]? = some field ∧ field.Bears name}
        position) ∧
    (shape.find? name = none ↔ ∀ field ∈ shape.fields, ¬ field.Bears name) ∧
    (∀ other, Ascii.Variant name other → shape.find? other = shape.find? name) ∧
    ∀ position, shape.find? name = some position →
      ∃ field, shape.fields[position]? = some field ∧
        Restriction.allows (some [name]) field = true := by
  refine ⟨fun position => find?_eq_some_iff, find?_eq_none_iff, fun other variant => ?_,
    fun position found => ?_⟩
  · exact (find?_congr shape (Ascii.same_iff_variant.mpr variant)).symm
  · obtain ⟨⟨field, present, bears⟩, _⟩ := find?_eq_some_iff.mp found
    refine ⟨field, present, ?_⟩
    simpa [Restriction.allows] using Field.isNamed_iff.mpr bears

end Shape

/-- The columns of the first two fields are the names of the other, and the third is last. -/
def Sample.crossed : Shape :=
  ⟨"parts", [⟨"id", "code", ⟨.integer .signed64, false⟩⟩, ⟨"Code", "ID", ⟨.text, false⟩⟩,
    ⟨"größe", "size", ⟨.double, true⟩⟩]⟩

/-- A column of the first field hides the name of the second; other letters keep their case. -/
theorem Shape.finds_first_crossed :
    Ascii.Variant "CODE" "coDE" ∧
      Sample.crossed.find? "coDE" = some 0 ∧
      IsLeast {place | ∃ field, Sample.crossed.fields[place]? = some field ∧ field.Bears "CODE"}
        0 ∧
      (∃ field, Sample.crossed.fields[0]? = some field ∧
        Restriction.allows (some ["CODE"]) field = true) ∧
      Sample.crossed.find? "GRößE" = some 2 ∧
      ∀ field ∈ Sample.crossed.fields, ¬ field.Bears "GRÖßE" := by
  have variant : Ascii.Variant "CODE" "coDE" := Ascii.same_iff_variant.mp (by decide)
  have found : Sample.crossed.find? "CODE" = some 0 := by decide +kernel
  have last : Sample.crossed.find? "GRößE" = some 2 := by decide +kernel
  have missing : Sample.crossed.find? "GRÖßE" = none := by decide +kernel
  obtain ⟨least, _, same, left⟩ := Shape.finds_first Sample.crossed "CODE"
  exact ⟨variant, (same _ variant).trans found, (least 0).mp found, left 0 found, last,
    (Shape.finds_first Sample.crossed "GRÖßE").2.1.mp missing⟩

end TypedSql
