import TypedSql.Proofs.Relation.Loading

/-!
# What loading relations one after the other makes of parents

The first relation that fails ends the loading, and leaves the parents as the relations before
it made them. Those have each been loaded as a whole, one after the other and with a statement
each, unless no parent had a key to look up.
-/

namespace TypedSql
namespace Database

/-- The relations that have something to look up, with their slots. -/
def wanted (shape : Shape) (parents : List Parent) (relations : List (Relation × Nat)) :
    List (Relation × Nat) :=
  relations.filter fun entry => entry.1.isWanted shape parents

/-- What comes of attaching relations, each with the rows of one reply, and the parents. -/
def attachAll (dialect : Dialect) (shape : Shape) :
    List (Relation × Nat) → List OpenReply → List Parent → Except Error Unit × List Parent
  | [], _, parents => (.ok (), parents)
  | (relation, slot) :: rest, replies, parents =>
      let rows := (Cursor.answering replies).rows
      match relation.attach slot shape dialect (columnsOf rows) rows parents with
      | (.ok (), loaded) => attachAll dialect shape rest replies.tail loaded
      | (.error error, left) => (.error error, left)

/--
How relations are loaded one after the other, in a session with which nothing goes wrong: the
statements that are opened, the parents with the relations, and the session thereafter.
-/
inductive LoadsAll (database : Database) (shape : Shape) (query : Query) :
    List (Relation × Nat) → List Parent → Session → List Statement → List Parent → Session → Prop
  | nil (parents : List Parent) (session : Session) :
      LoadsAll database shape query [] parents session [] parents session
  | cons {relation : Relation} {slot : Nat} {rest : List (Relation × Nat)}
      {parents middle loaded : List Parent} {session between after : Session}
      {opened statements : List Statement} :
      Loads database shape query relation slot parents session opened middle between →
      LoadsAll database shape query rest middle between statements loaded after →
      LoadsAll database shape query ((relation, slot) :: rest) parents session
        (opened ++ statements) loaded after

section Running

variable {database : Database} {shape : Shape} {query : Query} {relation : Relation}
  {slot : Nat} {relations done rest : List (Relation × Nat)} {parents loaded : List Parent}
  {session after : Session} {outcome : Except Error Unit} {statements : List Statement}

theorem wanted_congr
    {others : List Parent}
    (same : parents.map Parent.record = others.map Parent.record) :
    wanted shape parents relations = wanted shape others relations :=
  List.filter_congr fun entry _ => entry.1.isWanted_congr shape same

/-- Relations succeed exactly when each of them loads, one after the other. -/
theorem loadRelations_eq_ok_iff :
    database.loadRelations shape query relations parents session =
        ((.ok (), loaded), after) ↔
      ∃ statements,
        LoadsAll database shape query relations parents session statements loaded after := by
  induction relations generalizing parents session with
  | nil =>
      constructor
      · intro loading
        cases loading
        exact ⟨[], .nil loaded after⟩
      · rintro ⟨statements, ⟨⟩⟩
        rfl
  | cons entry rest inductionHypothesis =>
      obtain ⟨relation, slot⟩ := entry
      rw [loadRelations]
      constructor
      · intro loading
        rcases loads_or_fails database shape query relation slot parents session with
          ⟨opened, middle, between, loads⟩ | ⟨error, _, fails⟩
        · rw [loads.loadRelation_eq] at loading
          obtain ⟨statements, later⟩ := inductionHypothesis.mp loading
          exact ⟨opened ++ statements, .cons loads later⟩
        · obtain ⟨_, failed, _⟩ := fails.loadRelation_eq
          rw [failed] at loading
          cases loading
      · rintro ⟨statements, all⟩
        cases all with
        | cons loads later =>
            rw [loads.loadRelation_eq]
            exact inductionHypothesis.mpr ⟨_, later⟩

/-- Behind relations that load, the others are loaded as they are alone. -/
theorem LoadsAll.loadRelations_append
    (all : LoadsAll database shape query done parents session statements loaded after)
    (rest : List (Relation × Nat)) :
    database.loadRelations shape query (done ++ rest) parents session =
      database.loadRelations shape query rest loaded after := by
  induction all with
  | nil => rfl
  | cons loads _ inductionHypothesis =>
      rw [List.cons_append, loadRelations, loads.loadRelation_eq]
      exact inductionHypothesis

/-- The first relation that fails ends the loading. -/
theorem LoadsAll.loadRelations_of_fails
    {later : List (Relation × Nat)}
    {error : Error}
    {opened : List Statement}
    (all : LoadsAll database shape query done parents session statements loaded after)
    (fails : Fails database shape query relation slot loaded after error opened) :
    ∃ last,
      database.loadRelations shape query (done ++ (relation, slot) :: later) parents session =
        ((.error error, loaded), last) ∧
      last.statements = after.statements ++ opened := by
  obtain ⟨last, failed, grown⟩ := fails.loadRelation_eq
  refine ⟨last, ?_, grown⟩
  rw [all.loadRelations_append, loadRelations, failed]

/-- Relations all load, or they load up to the first one that fails. -/
theorem exists_loadsAll
    (database : Database)
    (shape : Shape)
    (query : Query)
    (relations : List (Relation × Nat))
    (parents : List Parent)
    (session : Session) :
    ∃ done rest statements loaded before,
      relations = done ++ rest ∧
      LoadsAll database shape query done parents session statements loaded before ∧
      (rest = [] ∨ ∃ relation slot later error opened,
        rest = (relation, slot) :: later ∧
        Fails database shape query relation slot loaded before error opened) := by
  induction relations generalizing parents session with
  | nil => exact ⟨[], [], [], parents, session, rfl, .nil parents session, .inl rfl⟩
  | cons entry others inductionHypothesis =>
      obtain ⟨relation, slot⟩ := entry
      rcases loads_or_fails database shape query relation slot parents session with
        ⟨opened, middle, between, loads⟩ | ⟨error, opened, fails⟩
      · obtain ⟨done, rest, statements, loaded, before, rfl, all, ending⟩ :=
          inductionHypothesis middle between
        exact ⟨(relation, slot) :: done, rest, opened ++ statements, loaded, before, rfl,
          .cons loads all, ending⟩
      · exact ⟨[], (relation, slot) :: others, [], parents, session, rfl, .nil parents session,
          .inr ⟨relation, slot, others, error, opened, rfl, fails⟩⟩

/-- Either way the parents are what the relations that load make of them. -/
theorem loadRelations_split
    (loading : database.loadRelations shape query relations parents session =
      ((outcome, loaded), after)) :
    ∃ done rest statements before,
      relations = done ++ rest ∧
      LoadsAll database shape query done parents session statements loaded before ∧
      (outcome = .ok () → rest = [] ∧ after = before) ∧
      (∀ error, outcome = .error error → ∃ relation slot later opened,
        rest = (relation, slot) :: later ∧
        Fails database shape query relation slot loaded before error opened ∧
        after.statements = before.statements ++ opened) := by
  obtain ⟨done, rest, statements, reached, before, rfl, all, ending⟩ :=
    exists_loadsAll database shape query relations parents session
  refine ⟨done, rest, statements, before, rfl, ?_⟩
  rcases ending with rfl | ⟨relation, slot, later, error, opened, rfl, fails⟩
  · rw [all.loadRelations_append] at loading
    cases loading
    exact ⟨all, fun _ => ⟨rfl, rfl⟩, fun error isError => nomatch isError⟩
  · obtain ⟨last, failed, grown⟩ := all.loadRelations_of_fails fails
    rw [failed] at loading
    cases loading
    refine ⟨all, fun isOk => (nomatch isOk), ?_⟩
    intro cause isCause
    obtain rfl := Except.error.inj isCause
    exact ⟨relation, slot, later, opened, rfl, fails, grown⟩

/-- What relations that all load make of the parents and of the session. -/
structure Attached
    (database : Database)
    (shape : Shape)
    (query : Query)
    (relations : List (Relation × Nat))
    (parents : List Parent)
    (session : Session)
    (loaded : List Parent)
    (after : Session)
    (statements : List Statement) : Prop where
  lookups :
    (wanted shape parents relations).map
        (fun entry => entry.1.lookup database.dialect shape query) =
      statements.map .ok
  opened : after.statements = session.statements ++ statements
  replies : after.replies = session.replies.drop statements.length
  attached :
    attachAll database.dialect shape (wanted shape parents relations) session.replies parents =
      (.ok (), loaded)

/-- Relations that all load are attached in order, each with a statement of its own. -/
theorem LoadsAll.attached
    (all : LoadsAll database shape query relations parents session statements loaded after) :
    Attached database shape query relations parents session loaded after statements := by
  -- A relation that is skipped leaves the session alone. One that is attached takes one reply,
  -- and leaves the records of the parents alone, so the same relations are wanted behind it.
  induction all with
  | nil => exact ⟨rfl, (List.append_nil _).symm, rfl, rfl⟩
  | @cons relation slot rest parents middle _ session between last opened statements loads _
      inductionHypothesis =>
      obtain ⟨lookups, laterOpened, laterReplies, laterAttached⟩ := inductionHypothesis
      obtain ⟨sameRecords, grown, replies, _⟩ := loads.frame
      rw [wanted_congr sameRecords] at lookups laterAttached
      have opened : last.statements = session.statements ++ (opened ++ statements) := by
        rw [laterOpened, grown, List.append_assoc]
      cases loads with
      | skipped _ _ _ _ idle =>
          have same : wanted shape parents ((relation, slot) :: rest) =
              wanted shape parents rest :=
            List.filter_cons_of_neg (by simpa using idle)
          exact ⟨same ▸ lookups, opened, laterReplies, same ▸ laterAttached⟩
      | attached statement cursor _ _ asks serves _ attached =>
          have same : wanted shape parents ((relation, slot) :: rest) =
              (relation, slot) :: wanted shape parents rest :=
            List.filter_cons_of_pos asks.wanted
          rw [List.length_singleton, List.drop_one] at replies
          refine ⟨?_, opened, ?_, ?_⟩
          · rw [same, List.map_cons, lookups, asks.lookup]
            rfl
          · rw [laterReplies, replies, List.drop_tail, List.singleton_append, List.length_cons]
          · rw [replies] at laterAttached
            rw [same, attachAll, ← serves.answering, attached]
            exact laterAttached

/-- Only the relations' own statements are opened, whatever comes of them. -/
theorem statements_loadRelations
    (database : Database)
    (shape : Shape)
    (query : Query)
    (relations : List (Relation × Nat))
    (parents : List Parent)
    (session : Session) :
    ∃ asked,
      (database.loadRelations shape query relations parents session).2.statements =
        session.statements ++ asked ∧
      ∀ statement ∈ asked, ∃ entry ∈ relations,
        entry.1.Asks database.dialect shape query parents statement := by
  induction relations generalizing parents session with
  | nil => exact ⟨[], (List.append_nil _).symm, by simp⟩
  | cons entry rest inductionHypothesis =>
      obtain ⟨relation, slot⟩ := entry
      rw [loadRelations]
      rcases loads_or_fails database shape query relation slot parents session with
        ⟨opened, middle, between, loads⟩ | ⟨error, opened, fails⟩
      · rw [loads.loadRelation_eq]
        obtain ⟨sameRecords, grown, _, asks⟩ := loads.frame
        obtain ⟨asked, laterGrown, each⟩ := inductionHypothesis middle between
        refine ⟨opened ++ asked, ?_, fun statement member => ?_⟩
        · rw [laterGrown, grown, List.append_assoc]
        rcases List.mem_append.mp member with first | later
        · exact ⟨_, List.mem_cons_self, asks statement first⟩
        · obtain ⟨entry, listed, otherAsks⟩ := each statement later
          exact ⟨entry, List.mem_cons_of_mem _ listed, otherAsks.congr sameRecords⟩
      · obtain ⟨after, failed, grown⟩ := fails.loadRelation_eq
        rw [failed]
        exact ⟨opened, grown, fun statement member =>
          ⟨_, List.mem_cons_self, fails.asks statement member⟩⟩

theorem statements_loadOnto
    (database : Database)
    (model : Model)
    (query : Query)
    (relations : List (Relation × Nat))
    (records : List Record)
    (session : Session) :
    ∃ asked,
      (database.loadOnto model query relations records session).2.statements =
        session.statements ++ asked ∧
      ∀ statement ∈ asked, ∃ entry ∈ relations,
        entry.1.Asks database.dialect model.shape query
          (records.map (Parent.ofRecord model)) statement := by
  have sameSession : (database.loadOnto model query relations records session).2 =
      (database.loadReferences model.shape query relations
        (records.map (Parent.ofRecord model)) session).2 :=
    congrArg Prod.snd (congrFun (database.loadOnto_eq query model relations records) session)
  rw [sameSession, loadReferences]
  split
  · exact ⟨[], (List.append_nil _).symm, by simp⟩
  · exact database.statements_loadRelations model.shape query relations _ session

/-! ## All relations attached -/

section Attaching

variable {dialect : Dialect} {replies : List OpenReply}

/-- Relations are all attached if the first one is and then the others are. -/
theorem attachAll_cons_eq_ok
    (attached : attachAll dialect shape ((relation, slot) :: rest) replies parents =
      (.ok (), loaded)) :
    ∃ columns rows middle,
      relation.attach slot shape dialect columns rows parents = (.ok (), middle) ∧
      attachAll dialect shape rest replies.tail middle = (.ok (), loaded) := by
  rw [attachAll] at attached
  split at attached
  · next middle filling => exact ⟨_, _, middle, filling, attached⟩
  · cases attached

theorem records_of_attachAll
    (attached : attachAll dialect shape relations replies parents = (.ok (), loaded)) :
    loaded.map Parent.record = parents.map Parent.record := by
  induction relations generalizing replies parents with
  | nil =>
      cases attached
      rfl
  | cons entry rest inductionHypothesis =>
      obtain ⟨_, _, middle, filling, others⟩ := attachAll_cons_eq_ok attached
      exact (inductionHypothesis others).trans (Relation.records_of_attach filling)

theorem slots_of_attachAll
    (others : ∀ entry ∈ relations, entry.2 ≠ slot)
    (attached : attachAll dialect shape relations replies parents = (.ok (), loaded)) :
    loaded.map (·.slots[slot]?) = parents.map (·.slots[slot]?) := by
  induction relations generalizing replies parents with
  | nil =>
      cases attached
      rfl
  | cons entry rest inductionHypothesis =>
      obtain ⟨_, _, middle, filling, later⟩ := attachAll_cons_eq_ok attached
      obtain ⟨different, othersLater⟩ := List.forall_mem_cons.mp others
      exact (inductionHypothesis othersLater later).trans
        (Relation.slots_of_attach different filling)

theorem keepsFilled_of_attachAll
    (filled : Parent.Filled slot parents)
    (attached : attachAll dialect shape relations replies parents = (.ok (), loaded)) :
    Parent.Filled slot loaded := by
  induction relations generalizing replies parents with
  | nil =>
      cases attached
      exact filled
  | cons entry rest inductionHypothesis =>
      obtain ⟨_, _, middle, filling, later⟩ := attachAll_cons_eq_ok attached
      exact inductionHypothesis (Relation.keepsFilled_of_attach filled filling) later

theorem filled_of_attachAll
    (member : (relation, slot) ∈ relations)
    (attached : attachAll dialect shape relations replies parents = (.ok (), loaded)) :
    Parent.Filled slot loaded := by
  induction relations generalizing replies parents with
  | nil => cases member
  | cons entry rest inductionHypothesis =>
      obtain ⟨_, _, middle, filling, later⟩ := attachAll_cons_eq_ok attached
      cases member with
      | head => exact keepsFilled_of_attachAll (Relation.filled_of_attach filling) later
      | tail _ isLater => exact inductionHypothesis isLater later

end Attaching

end Running

/--
Relations are loaded as wholes. Without parents nothing is done. Otherwise the relations up to
the first one that fails have each loaded: the token had not fired, and where some parent has a
key, the relation was looked up with one statement, in order, which was served to its end, and
was attached to every parent; the others are as they were. The failing relation and all later
ones give the parents nothing, so that the parents are what the relations before the failing one
make of them. A relation that fails behind relations that load is where the loading ends, and
with its error. The records of the parents never change.
-/
theorem loadReferences_progress
    (database : Database)
    (shape : Shape)
    (query : Query)
    (relations : List (Relation × Nat))
    (parents loaded : List Parent)
    (session after : Session)
    (outcome : Except Error Unit)
    (loading : database.loadReferences shape query relations parents session =
      ((outcome, loaded), after)) :
    (parents = [] → outcome = .ok () ∧ loaded = [] ∧ after = session) ∧
    loaded.map Parent.record = parents.map Parent.record ∧
    (parents ≠ [] →
      (∃ done rest before statements,
        relations = done ++ rest ∧
        LoadsAll database shape query done parents session statements loaded before ∧
        database.loadReferences shape query done parents session =
          ((.ok (), loaded), before) ∧
        (wanted shape parents done).map
            (fun entry => entry.1.lookup database.dialect shape query) =
          statements.map .ok ∧
        before.statements = session.statements ++ statements ∧
        before.replies = session.replies.drop statements.length ∧
        attachAll database.dialect shape (wanted shape parents done) session.replies parents =
          (.ok (), loaded) ∧
        (∀ entry ∈ wanted shape parents done, Parent.Filled entry.2 loaded) ∧
        (∀ slot, (∀ entry ∈ wanted shape parents done, entry.2 ≠ slot) →
          loaded.map (·.slots[slot]?) = parents.map (·.slots[slot]?)) ∧
        (outcome = .ok () → rest = [] ∧ after = before) ∧
        (∀ error, outcome = .error error →
          ∃ relation slot later opened,
            rest = (relation, slot) :: later ∧
            Fails database shape query relation slot loaded before error opened ∧
            after.statements = before.statements ++ opened)) ∧
      ∀ done relation slot later statements middle before error opened,
        relations = done ++ (relation, slot) :: later →
        LoadsAll database shape query done parents session statements middle before →
        Fails database shape query relation slot middle before error opened →
        outcome = .error error ∧ loaded = middle ∧
          after.statements = before.statements ++ opened) := by
  cases parents with
  | nil =>
      cases loading
      exact ⟨fun _ => ⟨rfl, rfl, rfl⟩, rfl, fun absent => absurd rfl absent⟩
  | cons first others =>
      have running : database.loadRelations shape query relations (first :: others) session =
          ((outcome, loaded), after) := loading
      obtain ⟨done, rest, statements, before, split, all, success, failure⟩ :=
        loadRelations_split running
      have attached := all.attached
      refine ⟨fun absent => (nomatch absent), records_of_attachAll attached.attached,
        fun _ => ⟨⟨done, rest, before, statements, split, all,
          loadRelations_eq_ok_iff.mpr ⟨statements, all⟩, attached.lookups, attached.opened,
          attached.replies, attached.attached, ?_, ?_, success, failure⟩, ?_⟩⟩
      · intro entry member
        exact filled_of_attachAll member attached.attached
      · intro slot untouched
        exact slots_of_attachAll untouched attached.attached
      · rintro front relation slot later statements middle last error opened rfl loads fails
        obtain ⟨ended, failed, grown⟩ := loads.loadRelations_of_fails fails
        rw [failed] at running
        cases running
        exact ⟨rfl, rfl, grown⟩

end Database

namespace Sample

/-- The members of clubs. -/
def members : Shape := ⟨"members", [⟨"club", "club_id", ⟨.integer .signed64, false⟩⟩]⟩

/-- The sponsors of clubs. -/
def sponsors : Shape := ⟨"sponsors", [⟨"id", "id", ⟨.integer .signed64, false⟩⟩]⟩

/-- Clubs, each of which may have a sponsor. -/
def clubs : Shape :=
  ⟨"clubs", [⟨"id", "id", ⟨.integer .signed64, false⟩⟩,
    ⟨"sponsor", "sponsor_id", ⟨.integer .signed64, true⟩⟩]⟩

/-- The relation of clubs to their members. -/
def membership : Relation := ⟨"members", .many, members, "id", "club"⟩

/-- The relation of clubs to their sponsors. -/
def sponsorship : Relation := ⟨"sponsor", .one, sponsors, "sponsor", "id"⟩

/-- The relation of clubs to the member listed first. -/
def chair : Relation := ⟨"chair", .one, members, "id", "club"⟩

/-- A club without a sponsor, with a slot for each relation. -/
def club (slots : List (Option Related)) : Parent :=
  ⟨⟨clubs, [.integer 1, .null]⟩, slots⟩

/-- A member of the club. -/
def member : Record := ⟨members, [.integer 1]⟩

/-- A session in which the members are read, and the chair is not. -/
def meeting : Session :=
  .start false
    [.cursor ⟨["club_id"], [.row [.integer 1] false], false, none⟩ false,
      .cursor ⟨["club_id"], [.failure "lost"], false, none⟩ false]

/-- The statement for members of the clubs. -/
def roll : Statement :=
  (membership.lookup database.dialect clubs (database.source clubs)).toOption.getD ⟨"", []⟩

/-- What is left of the meeting. -/
def adjourned : Session :=
  ⟨false, [],
    [.open roll, .fetch true, .fetch false, .close, .open roll, .fetch false, .close],
    [.loading "members" 1, .executing roll.sql 0, .loading "chair" 1, .executing roll.sql 0]⟩

end Sample

namespace Database

/-- A club has its members; it has no sponsor to look up, and no chair could be read. -/
theorem loadReferences_progress_clubs :
    Sample.database.loadReferences Sample.clubs (Sample.database.source Sample.clubs)
        [(Sample.membership, 0), (Sample.sponsorship, 1), (Sample.chair, 2)]
        [Sample.club [none, none, none]] Sample.meeting =
      ((.error (.execution (.reported "lost")),
        [Sample.club [some (.many [Sample.member]), none, none]]), Sample.adjourned) ∧
      Sample.adjourned.statements = [Sample.roll, Sample.roll] ∧
      ∃ done relation slot later statements before opened,
        [(Sample.membership, 0), (Sample.sponsorship, 1), (Sample.chair, 2)] =
          done ++ (relation, slot) :: later ∧
        LoadsAll Sample.database Sample.clubs (Sample.database.source Sample.clubs) done
          [Sample.club [none, none, none]] Sample.meeting statements
          [Sample.club [some (.many [Sample.member]), none, none]] before ∧
        Fails Sample.database Sample.clubs (Sample.database.source Sample.clubs) relation slot
          [Sample.club [some (.many [Sample.member]), none, none]] before
          (.execution (.reported "lost")) opened ∧
        Sample.adjourned.statements = before.statements ++ opened := by
  have loading : Sample.database.loadReferences Sample.clubs
      (Sample.database.source Sample.clubs)
      [(Sample.membership, 0), (Sample.sponsorship, 1), (Sample.chair, 2)]
      [Sample.club [none, none, none]] Sample.meeting =
        ((.error (.execution (.reported "lost")),
          [Sample.club [some (.many [Sample.member]), none, none]]), Sample.adjourned) := by
    decide +kernel
  obtain ⟨-, -, progress⟩ := loadReferences_progress _ _ _ _ _ _ _ _ _ loading
  obtain ⟨⟨done, rest, before, statements, split, all, -, -, -, -, -, -, -, -, failure⟩, -⟩ :=
    progress (List.cons_ne_nil _ _)
  obtain ⟨relation, slot, later, opened, rfl, fails, grown⟩ := failure _ rfl
  exact ⟨loading, rfl, done, relation, slot, later, statements, before, opened, split, all,
    fails, grown⟩

/-- A token that has fired ends the loading, even of a relation with nothing to look up. -/
example :
    (Sample.database.loadReferences Sample.clubs (Sample.database.source Sample.clubs)
        [(Sample.sponsorship, 1)] [Sample.club [none, none, none]] (.start true [])).1 =
      (.error .cancelled, [Sample.club [none, none, none]]) := rfl

end Database
end TypedSql
