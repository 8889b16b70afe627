import TypedSql.Proofs.Relation.Loading

/-!
# What attaching joins

Attaching children to parents is a join by key value: each parent is given all the children
whose key field has the value of its own key field, in the order of the rows. The grouping by
key that it goes through leaves no child out and mixes no two keys, so parents with one key
are each given all of its children. A row that does not convert is found before any parent is
given anything.
-/

namespace TypedSql

namespace Value

/-- Whether two values are of one kind and have one content, reals by their bits. -/
def agrees : Value → Value → Bool
  | .null, .null => true
  | .boolean first, .boolean second => first == second
  | .integer first, .integer second => first == second
  | .real first, .real second => first.bits == second.bits
  | .text first, .text second => first == second
  | .blob first, .blob second => first.data == second.data
  | _, _ => false

theorem agrees_iff {first second : Value} : first.agrees second = true ↔ first = second := by
  have sameBits (first second : Binary64) : first.bits = second.bits ↔ first = second := by
    rw [Binary64.mk.injEq]
  cases first <;> cases second <;> simp [agrees, sameBits, ByteArray.ext_iff]

/-- Zeros of different signs do not agree. -/
example : (real ⟨0⟩).agrees (real ⟨0x8000000000000000⟩) = false := rfl

end Value

namespace Relation

/-- The child that a row stands for. -/
def readChild
    (relation : Relation)
    (dialect : Dialect)
    (columns : List String)
    (row : Row) :
    Except Error Record :=
  (Mapper.ofColumns relation.child columns none).read dialect row

/-- The children whose field at a position agrees with a key, in their order. -/
def matching (position : Nat) (children : List Record) (key : Value) : List Record :=
  children.filter fun child => (child.get position).agrees key

/-- The children that are grouped under a key are those whose key agrees with it. -/
theorem children_eq_matching (position : Nat) (children : List Record) (key : Value) :
    (ChildGroups.ofRecords position children).children key = matching position children key := by
  rw [ChildGroups.children_ofRecords, matching]
  refine List.filter_congr fun child _ => ?_
  rw [Bool.eq_iff_iff, decide_eq_true_iff, Value.agrees_iff]

/--
A parent before and after it is given the children with the key at a position of its own:
nothing but the slot is changed, and the slot holds all of them or the first.
-/
structure Joined
    (relation : Relation)
    (slot position childPosition : Nat)
    (children : List Record)
    (before after : Parent) : Prop where
  record : after.record = before.record
  width : after.slots.length = before.slots.length
  others : ∀ other, other ≠ slot → after.slots[other]? = before.slots[other]?
  many :
    relation.cardinality = .many → slot < before.slots.length →
      after.slots[slot]? =
        some (some (.many (matching childPosition children (before.record.get position))))
  one :
    relation.cardinality = .one → slot < before.slots.length →
      after.slots[slot]? =
        some (some (.one (matching childPosition children (before.record.get position)).head?))

theorem joined_fill
    (relation : Relation)
    (slot position childPosition : Nat)
    (children : List Record)
    (parent : Parent) :
    relation.Joined slot position childPosition children parent
      (parent.fill slot (relation.cardinality.relate
        ((ChildGroups.ofRecords childPosition children).children
          (parent.record.get position)))) := by
  rw [children_eq_matching]
  refine ⟨rfl, List.length_set, fun other different =>
    parent.slot_fill_of_ne _ (Ne.symm different), ?_, ?_⟩
  · intro many inRange
    rw [many, Parent.fill, List.getElem?_set_self inRange]
    rfl
  · intro one inRange
    rw [one, Parent.fill, List.getElem?_set_self inRange]
    rfl

section Attaching

variable {relation : Relation} {slot : Nat} {shape : Shape} {dialect : Dialect}
  {columns : List String} {rows : List Row} {parents : List Parent}
  {position childPosition : Nat} {field childField : Field}

/-- Rows are grouped as the children that they stand for, or fail as one of them does. -/
theorem groupRows_of_located
    (childLocated : relation.child.locate relation.childKey = .ok (childPosition, childField)) :
    relation.groupRows dialect columns rows =
      rows.mapM (relation.readChild dialect columns) >>= fun children =>
        .ok (ChildGroups.ofRecords childPosition children) := by
  rw [groupRows, childLocated]
  rfl

theorem attach_of_children
    {children : List Record}
    (childLocated : relation.child.locate relation.childKey = .ok (childPosition, childField))
    (located : shape.locate relation.parentKey = .ok (position, field))
    (read : rows.mapM (relation.readChild dialect columns) = .ok children) :
    relation.attach slot shape dialect columns rows parents =
      (.ok (), parents.map fun parent =>
        parent.fill slot (relation.cardinality.relate
          ((ChildGroups.ofRecords childPosition children).children
            (parent.record.get position)))) := by
  rw [attach, groupRows_of_located childLocated, read, located]
  rfl

/-- Where a row is not read, every parent is left as it was. -/
theorem attach_of_unread
    {error : Error}
    (childLocated : relation.child.locate relation.childKey = .ok (childPosition, childField))
    (unread : rows.mapM (relation.readChild dialect columns) = .error error) :
    relation.attach slot shape dialect columns rows parents = (.error error, parents) := by
  rw [attach, groupRows_of_located childLocated, unread]
  rfl

end Attaching

end Relation

namespace Database

/-- The statement of a relation has been drained, and these are its rows. -/
structure Brings
    (database : Database)
    (shape : Shape)
    (query : Query)
    (relation : Relation)
    (parents : List Parent)
    (session : Session)
    (rows : List Row)
    (after : Session) : Prop where
  unfired : session.fired = false
  drained : ∃ statement, relation.Asks database.dialect shape query parents statement ∧
    database.drain statement none rowStep [] (relation.announced parents session) =
      (.ok rows, after)

/-- What becomes of the rows of a relation is what attaching makes of them. -/
theorem Brings.loadRelation
    {database : Database}
    {shape : Shape}
    {query : Query}
    {relation : Relation}
    {parents : List Parent}
    {session after : Session}
    {rows : List Row}
    (brings : database.Brings shape query relation parents session rows after)
    (slot : Nat) :
    database.loadRelation shape query relation slot parents session =
      (relation.attach slot shape database.dialect (columnsOf rows) rows parents, after) := by
  obtain ⟨unfired, statement, asks, drained⟩ := brings
  exact loadRelation_of_drained unfired asks drained slot

/--
Attaching children is a join by key value. If all rows convert, every parent is given, in the
order of the rows, all the children whose key agrees with its own, or the first of them if the
relation is to one child; nothing else of a parent is changed. If a row does not convert, the
first such row says why, and a loading that reads these rows ends with the parents as they
were.
-/
theorem attach_joins
    (database : Database)
    (relation : Relation)
    (slot : Nat)
    (shape : Shape)
    (columns : List String)
    (rows : List Row)
    (parents : List Parent)
    (childPosition : Nat)
    (childField : Field)
    (childLocated : relation.child.locate relation.childKey = .ok (childPosition, childField)) :
    (∀ position field children,
      shape.locate relation.parentKey = .ok (position, field) →
      List.Forall₂
        (fun row child => relation.readChild database.dialect columns row = .ok child)
        rows children →
      ∃ loaded,
        relation.attach slot shape database.dialect columns rows parents = (.ok (), loaded) ∧
        List.Forall₂ (relation.Joined slot position childPosition children) parents loaded) ∧
    ∀ front row back converted error,
      rows = front ++ row :: back →
      List.Forall₂
        (fun row child => relation.readChild database.dialect columns row = .ok child)
        front converted →
      relation.readChild database.dialect columns row = .error error →
      relation.attach slot shape database.dialect columns rows parents =
        (.error error, parents) ∧
      ∀ query later session after,
        columns = columnsOf rows →
        database.Brings shape query relation parents session rows after →
        database.loadRelations shape query ((relation, slot) :: later) parents session =
          ((.error error, parents), after) := by
  constructor
  · intro position field children located read
    refine ⟨_, Relation.attach_of_children childLocated located (mapM_eq_ok.mpr read), ?_⟩
    rw [List.forall₂_map_right_iff]
    exact List.forall₂_same.mpr fun parent _ =>
      relation.joined_fill slot position childPosition children parent
  · intro front row back converted error split read refused
    have unread : rows.mapM (relation.readChild database.dialect columns) = .error error :=
      mapM_eq_error.mpr ⟨front, row, back, converted, split, read, refused⟩
    have failed : relation.attach slot shape database.dialect columns rows parents =
        (.error error, parents) :=
      Relation.attach_of_unread childLocated unread
    refine ⟨failed, ?_⟩
    rintro query later session after rfl brings
    rw [loadRelations, brings.loadRelation slot, failed]

end Database

namespace Sample

/-- Pieces of music, each on a disc or on none. -/
def pieces : Shape :=
  ⟨"pieces", [⟨"id", "id", ⟨.integer .signed64, false⟩⟩,
    ⟨"disc", "disc_code", ⟨.integer .signed64, true⟩⟩]⟩

/-- A piece. -/
def piece (number : Int64) (code : Value) : Record := ⟨pieces, [.integer number, code]⟩

/-- A row with the cells of a piece. -/
def pieceRow (id code : Value) : Row := ⟨["disc_code", "id"], [code, id]⟩

/-- Some pieces: the first and the third are on discs of one code, the second is on none. -/
def recorded : List Record :=
  [piece 1 (.integer 7), piece 2 .null, piece 3 (.integer 7), piece 4 (.integer 8)]

/-- Discs, with a code that need be neither unique nor there. -/
def discs : Shape :=
  ⟨"discs", [⟨"code", "code", ⟨.integer .signed64, true⟩⟩, ⟨"title", "title", ⟨.text, false⟩⟩]⟩

/-- A disc with the pieces that it was given, if it was given any. -/
def disc (code : Value) (title : String) (given : Option (List Record)) : Parent :=
  ⟨⟨discs, [code, .text title]⟩, [given.map .many]⟩

/-- The pieces of a disc, by its code. -/
def onDisc : Relation := ⟨"pieces", .many, pieces, "code", "disc"⟩

/-- A session in which the second piece has a word for its number. -/
def mislabelled : Session :=
  .start false
    [.cursor ⟨["disc_code", "id"],
      [.row [.integer 7, .integer 1] false, .row [.null, .text "two"] false], false, none⟩ false]

end Sample

namespace Database

/--
Two discs with one code are given the same pieces, and one without a code those without. With
a word for the number of a piece, no disc is given any.
-/
theorem attach_joins_discs :
    Sample.onDisc.child.locate Sample.onDisc.childKey =
        .ok (1, ⟨"disc", "disc_code", ⟨.integer .signed64, true⟩⟩) ∧
      List.Forall₂ (Sample.onDisc.Joined 0 0 1 Sample.recorded)
        [Sample.disc (.integer 7) "north" none, Sample.disc .null "east" none,
          Sample.disc (.integer 7) "south" none]
        [Sample.disc (.integer 7) "north"
            (some [Sample.piece 1 (.integer 7), Sample.piece 3 (.integer 7)]),
          Sample.disc .null "east" (some [Sample.piece 2 .null]),
          Sample.disc (.integer 7) "south"
            (some [Sample.piece 1 (.integer 7), Sample.piece 3 (.integer 7)])] ∧
      (Sample.database.loadRelations Sample.discs (Sample.database.source Sample.discs)
          [(Sample.onDisc, 0)] [Sample.disc (.integer 7) "north" none] Sample.mislabelled).1 =
        (.error (.conversion ⟨"id", "id", .unreadable "two" .integer⟩),
          [Sample.disc (.integer 7) "north" none]) := by
  have childLocated : Sample.onDisc.child.locate Sample.onDisc.childKey =
      .ok (1, ⟨"disc", "disc_code", ⟨.integer .signed64, true⟩⟩) := rfl
  refine ⟨childLocated, ?_, ?_⟩
  · have joins := (attach_joins Sample.database Sample.onDisc 0 Sample.discs ["disc_code", "id"]
      [Sample.pieceRow (.integer 1) (.integer 7), Sample.pieceRow (.integer 2) .null,
        Sample.pieceRow (.integer 3) (.integer 7), Sample.pieceRow (.integer 4) (.integer 8)]
      [Sample.disc (.integer 7) "north" none, Sample.disc .null "east" none,
        Sample.disc (.integer 7) "south" none] 1 _ childLocated).1
    obtain ⟨loaded, attached, joined⟩ :=
      joins 0 _ Sample.recorded rfl (mapM_eq_ok.mp (by decide +kernel))
    cases attached
    exact joined
  · have refusal := (attach_joins Sample.database Sample.onDisc 0 Sample.discs
      ["disc_code", "id"]
      [Sample.pieceRow (.integer 1) (.integer 7), Sample.pieceRow (.text "two") .null]
      [Sample.disc (.integer 7) "north" none] 1 _ childLocated).2
    have read : List.Forall₂
        (fun row child => Sample.onDisc.readChild Sample.database.dialect ["disc_code", "id"] row =
          .ok child)
        [Sample.pieceRow (.integer 1) (.integer 7)] [Sample.piece 1 (.integer 7)] :=
      mapM_eq_ok.mp (by decide +kernel)
    have brings : Sample.database.Brings Sample.discs (Sample.database.source Sample.discs)
        Sample.onDisc [Sample.disc (.integer 7) "north" none] Sample.mislabelled
        [Sample.pieceRow (.integer 1) (.integer 7), Sample.pieceRow (.text "two") .null] _ :=
      ⟨rfl, _, ⟨rfl, rfl⟩, rfl⟩
    have refused : Sample.onDisc.readChild Sample.database.dialect ["disc_code", "id"]
        (Sample.pieceRow (.text "two") .null) =
          .error (.conversion ⟨"id", "id", .unreadable "two" .integer⟩) := by decide +kernel
    obtain ⟨_, loading⟩ := refusal _ _ _ _ _ rfl read refused
    rw [loading _ [] _ _ rfl brings]

end Database
end TypedSql
