import TypedSql.Proofs.Sql.Nesting

/-!
# Cutting fragments

A fragment is cut at the chunks of a kind that stand outside of parentheses. What was put
together from whole parts, with such a chunk before each of them, is cut into these parts
again. A list is cut at its commas, a name and a direction are cut off at the end.
-/

namespace TypedSql
namespace Fragment

variable {cuts : Chunk → Bool} {fragment front back : Fragment}

/-! ## Cutting -/

/-- A chunk, and what stands behind it. -/
abbrev Segment := Chunk × Fragment

/--
A fragment that starts at a depth, cut at chunks outside of parentheses: what stands before
the first of them, and each of them with what stands behind it.
-/
def cutFrom (cuts : Chunk → Bool) : Int → Fragment → Fragment × List Segment
  | _, [] => ([], [])
  | depth, chunk :: rest =>
      let later := cutFrom cuts (depth + chunk.nesting) rest
      if depth = 0 ∧ cuts chunk = true then ([], (chunk, later.1) :: later.2)
      else (chunk :: later.1, later.2)

/-- A fragment cut at chunks outside of parentheses. -/
def cut (cuts : Chunk → Bool) (fragment : Fragment) : Fragment × List Segment :=
  cutFrom cuts 0 fragment

/-- Fragments in a row, each behind a chunk. -/
def ofSegments (segments : List Segment) : Fragment :=
  segments.flatMap fun segment => segment.1 :: segment.2

/-- A chunk behind which a fragment is cut, and a fragment that is not cut. -/
structure IsSegment (cuts : Chunk → Bool) (segment : Segment) : Prop where
  cut : cuts segment.1 = true
  flat : segment.1.nesting = 0
  plain : segment.1.isRaw = false
  part : Sealed cuts segment.2

theorem ofSegments_cons (segment : Segment) (segments : List Segment) :
    ofSegments (segment :: segments) = segment.1 :: (segment.2 ++ ofSegments segments) := rfl

theorem ofSegments_append (front back : List Segment) :
    ofSegments (front ++ back) = ofSegments front ++ ofSegments back :=
  List.flatMap_append

/-- Where nothing is cut before some place, cutting goes on there. -/
theorem cutFrom_append
    {depth : Int}
    (uncut : ∀ (start : Fragment) (chunk : Chunk) (rest : Fragment),
      start ++ chunk :: rest = front → depth + start.depth = 0 → cuts chunk = false)
    (back : Fragment) :
    cutFrom cuts depth (front ++ back) =
      (front ++ (cutFrom cuts (depth + front.depth) back).1,
        (cutFrom cuts (depth + front.depth) back).2) := by
  induction front generalizing depth with
  | nil => simp
  | cons chunk front inductionHypothesis =>
      have first : ¬ (depth = 0 ∧ cuts chunk = true) := by
        rintro ⟨atTop, cut⟩
        have := uncut [] chunk front rfl (by simpa using atTop)
        rw [cut] at this
        cases this
      have others : ∀ (start : Fragment) (other : Chunk) (rest : Fragment),
          start ++ other :: rest = front → depth + chunk.nesting + start.depth = 0 →
            cuts other = false := by
        intro start other rest split atTop
        refine uncut (chunk :: start) other rest (by rw [← split]; rfl) ?_
        rwa [depth_cons, ← Int.add_assoc]
      rw [List.cons_append, cutFrom, inductionHypothesis others]
      simp only [if_neg first, depth_cons, Int.add_assoc, List.cons_append]

theorem cut_append (whole : Whole cuts front) (back : Fragment) :
    cut cuts (front ++ back) = (front ++ (cut cuts back).1, (cut cuts back).2) := by
  have uncut : ∀ (start : Fragment) (chunk : Chunk) (rest : Fragment),
      start ++ chunk :: rest = front → 0 + start.depth = 0 → cuts chunk = false := by
    intro start chunk rest split atTop
    rw [Int.zero_add] at atTop
    exact (whole.outside start chunk rest split).2 atTop
  have result := cutFrom_append uncut back
  rw [whole.total, Int.add_zero] at result
  exact result

/-- What was put together from segments is cut into them again. -/
theorem cut_ofSegments
    {segments : List Segment}
    (each : ∀ segment ∈ segments, IsSegment cuts segment) :
    cut cuts (ofSegments segments) = ([], segments) := by
  induction segments with
  | nil => rfl
  | cons segment segments inductionHypothesis =>
      obtain ⟨first, others⟩ := List.forall_mem_cons.mp each
      have later := cut_append first.part.whole (ofSegments segments)
      rw [inductionHypothesis others, List.append_nil] at later
      rw [cut] at later ⊢
      simp only [ofSegments_cons, cutFrom, first.flat, Int.add_zero, later, first.cut, and_self,
        if_true]

theorem cut_append_ofSegments
    {segments : List Segment}
    (whole : Whole cuts front)
    (each : ∀ segment ∈ segments, IsSegment cuts segment) :
    cut cuts (front ++ ofSegments segments) = (front, segments) := by
  rw [cut_append whole, cut_ofSegments each, List.append_nil]

/-- Segments in a row are balanced, and end like segments. -/
theorem sealed_ofSegments
    {segments : List Segment}
    (each : ∀ segment ∈ segments, IsSegment cuts segment) :
    Sealed (fun _ => false) (ofSegments segments) := by
  induction segments with
  | nil => exact sealed_nil
  | cons segment segments inductionHypothesis =>
      obtain ⟨first, others⟩ := List.forall_mem_cons.mp each
      rw [ofSegments_cons]
      have part := (first.part.mono (by simp)).append (inductionHypothesis others)
      exact (sealed_chunk first.flat rfl first.plain).append part

/-! ## Lists -/

/-- Whether a chunk is a comma. -/
def isComma : Chunk → Bool
  | .token (.mark .comma) => true
  | _ => false

theorem isSeparator_of_isComma (chunk : Chunk) (comma : isComma chunk = true) :
    chunk.isSeparator = true := by
  unfold isComma at comma
  split at comma
  · rfl
  · cases comma

/-- The parts of a list. -/
def splitCommas (fragment : Fragment) : List Fragment :=
  let (first, others) := fragment.cut isComma
  first :: others.map Prod.snd

theorem commas_cons (first : Fragment) (others : List Fragment) :
    commas (first :: others) =
      first ++ ofSegments (others.map fun part => (.mark .comma, part)) := by
  induction others generalizing first with
  | nil => simp [commas, ofSegments]
  | cons second others inductionHypothesis =>
      rw [List.map_cons, ofSegments_cons, ← inductionHypothesis second]
      exact join_cons_cons _ first second others

/-- Fragments with commas between them are the parts of their list. -/
theorem splitCommas_commas
    {parts : List Fragment}
    (nonempty : parts ≠ [])
    (each : ∀ part ∈ parts, Sealed isComma part) :
    splitCommas (commas parts) = parts := by
  obtain ⟨first, others, rfl⟩ := List.exists_cons_of_ne_nil nonempty
  obtain ⟨firstSealed, othersSealed⟩ := List.forall_mem_cons.mp each
  have segments : ∀ segment ∈ others.map fun part => ((.mark .comma : Chunk), part),
      IsSegment isComma segment := by
    intro segment member
    obtain ⟨part, isPart, rfl⟩ := List.mem_map.mp member
    exact ⟨rfl, rfl, rfl, othersSealed part isPart⟩
  rw [splitCommas, commas_cons, cut_append_ofSegments firstSealed.whole segments]
  simp [Function.comp_def]

/-! ## What stands at the end -/

/-- A fragment, and the raw text behind it if it ends with one. -/
def splitRaw (fragment : Fragment) : Fragment × Option String :=
  match fragment.getLast? with
  | some (.raw text) => (fragment.dropLast, some text)
  | _ => (fragment, none)

/-- A fragment under a name, or under none. -/
def aliased (item : Fragment × Option String) : Fragment :=
  item.2.elim item.1 item.1.named

/-- A fragment, and the name behind it if it has one. -/
def splitName (fragment : Fragment) : Fragment × Option String :=
  match fragment.getLast?, fragment.dropLast.getLast? with
  | some (.identifier name), some (.token (.keyword .asKw)) =>
      (fragment.dropLast.dropLast, some name)
  | _, _ => (fragment, none)

/-- A fragment before a direction. -/
def directed (item : Fragment × Direction) : Fragment :=
  item.1 ++ [.keyword item.2.keyword]

/-- A fragment and the direction behind it. -/
def splitDirection? (fragment : Fragment) : Option (Fragment × Direction) :=
  match fragment.getLast? with
  | some (.token (.keyword .ascKw)) => some (fragment.dropLast, .ascending)
  | some (.token (.keyword .descKw)) => some (fragment.dropLast, .descending)
  | _ => none

theorem Sealed.aliased
    {item : Fragment × Option String}
    (isSealed : Sealed cuts item.1)
    (uncutAs : cuts (.keyword .asKw) = false)
    (uncutName : ∀ name, cuts (.identifier name) = false) :
    Sealed cuts (aliased item) := by
  obtain ⟨fragment, _ | name⟩ := item
  · exact isSealed
  · have ending := (sealed_chunk rfl uncutAs rfl).append (sealed_chunk rfl (uncutName name) rfl)
    exact isSealed.append ending

theorem Sealed.directed
    {item : Fragment × Direction}
    (isSealed : Sealed cuts item.1)
    (uncut : ∀ direction : Direction, cuts (.keyword direction.keyword) = false) :
    Sealed cuts (directed item) :=
  isSealed.append (sealed_chunk rfl (uncut item.2) rfl)

theorem splitRaw_append_raw (fragment : Fragment) (text : String) :
    splitRaw (fragment ++ [.raw text]) = (fragment, some text) := by
  simp [splitRaw]

theorem EndsPlain.splitRaw_eq (ends : EndsPlain fragment) :
    splitRaw fragment = (fragment, none) := by
  unfold splitRaw
  split
  · next text last => exact absurd last (ends text)
  · rfl

/-- A name is told from a sealed fragment that has none. -/
theorem splitName_aliased
    {item : Fragment × Option String}
    (isSealed : Sealed Chunk.isSeparator item.1) :
    splitName (aliased item) = item := by
  obtain ⟨fragment, _ | name⟩ := item
  · show splitName fragment = (fragment, none)
    unfold splitName
    split
    · next name last before =>
      obtain ⟨others, rfl⟩ := List.getLast?_eq_some_iff.mp last
      rw [List.dropLast_concat] at before
      obtain ⟨front, rfl⟩ := List.getLast?_eq_some_iff.mp before
      have total := isSealed.whole.total
      rw [List.append_assoc] at isSealed total
      simp only [depth_append, List.singleton_append, depth_cons, depth_nil, Chunk.nesting]
        at total
      cases (isSealed.whole.outside front _ _ rfl).2 (by omega)
    · rfl
  · simp [splitName, aliased, named]

theorem splitDirection?_directed (item : Fragment × Direction) :
    splitDirection? (directed item) = some item := by
  obtain ⟨fragment, _ | _⟩ := item <;> simp [splitDirection?, directed, Direction.keyword]

/-! ## Lists with names and directions -/

/-- The parts of a projection and their names are found again. -/
theorem map_splitName_splitCommas
    {items : List (Fragment × Option String)}
    (nonempty : items ≠ [])
    (each : ∀ item ∈ items, Sealed Chunk.isSeparator item.1) :
    (splitCommas (commas (items.map aliased))).map splitName = items := by
  have parts : ∀ part ∈ items.map aliased, Sealed isComma part := by
    intro part member
    obtain ⟨item, isItem, rfl⟩ := List.mem_map.mp member
    exact ((each item isItem).mono isSeparator_of_isComma).aliased rfl fun _ => rfl
  rw [splitCommas_commas (by simpa using nonempty) parts, List.map_map]
  refine (List.map_congr_left fun item member => ?_).trans (List.map_id items)
  exact splitName_aliased (each item member)

theorem sealed_of_mem_map_directed
    {items : List (Fragment × Direction)}
    (each : ∀ item ∈ items, Sealed Chunk.isSeparator item.1) :
    ∀ part ∈ items.map directed, Sealed isComma part := by
  intro part member
  obtain ⟨item, isItem, rfl⟩ := List.mem_map.mp member
  exact ((each item isItem).mono isSeparator_of_isComma).directed fun _ => rfl

theorem mapM_splitDirection? (items : List (Fragment × Direction)) :
    (items.map directed).mapM splitDirection? = some items := by
  induction items with
  | nil => rfl
  | cons item items inductionHypothesis =>
      rw [List.map_cons, List.mapM_cons, splitDirection?_directed, inductionHypothesis]
      rfl

end Fragment
end TypedSql
