import TypedSql.Proofs.Query.Built

/-!
# Parentheses in fragments

A fragment is balanced if no parenthesis is closed before it was opened and none is left
open. Compiled expressions are balanced, and whatever separates the parts of statements from
each other stands in them in parentheses only: the keywords of clauses, and commas.
-/

namespace TypedSql

namespace Chunk

/-- By how much a chunk changes the number of open parentheses. -/
def nesting : Chunk → Int
  | .token (.mark .openParen) => 1
  | .token (.mark .closeParen) => -1
  | _ => 0

/-- Whether a chunk separates parts of a statement: a comma, or a word of its clauses. -/
def isSeparator : Chunk → Bool
  | .token (.mark .comma) => true
  | .token (.keyword word) => !word.isOfExpressions
  | _ => false

/-- Whether a chunk is text that is rendered as it is. -/
def isRaw : Chunk → Bool
  | .raw _ => true
  | _ => false

end Chunk

namespace Fragment

/-! ## Depth -/

/-- The number of parentheses that a fragment opens and does not close. -/
def depth : Fragment → Int
  | [] => 0
  | chunk :: fragment => chunk.nesting + depth fragment

@[simp] theorem depth_nil : depth [] = 0 := rfl

@[simp] theorem depth_cons (chunk : Chunk) (fragment : Fragment) :
    depth (chunk :: fragment) = chunk.nesting + depth fragment := rfl

@[simp] theorem depth_append (front back : Fragment) :
    depth (front ++ back) = depth front + depth back := by
  induction front with
  | nil => simp
  | cons chunk front inductionHypothesis => simp [inductionHypothesis, Int.add_assoc]

/-- No parenthesis is closed before it was opened, and none is left open. -/
structure Balanced (fragment : Fragment) : Prop where
  nonneg : ∀ front : Fragment, front <+: fragment → 0 ≤ front.depth
  total : fragment.depth = 0

/--
A fragment is balanced, and stays whole when statements are cut at some chunks outside of
parentheses.
-/
structure Whole (cuts : Chunk → Bool) (fragment : Fragment) : Prop where
  outside : ∀ (front : Fragment) (chunk : Chunk) (back : Fragment),
    front ++ chunk :: back = fragment →
      0 ≤ front.depth ∧ (front.depth = 0 → cuts chunk = false)
  total : fragment.depth = 0

variable {fragment front back inner : Fragment} {cuts more : Chunk → Bool} {chunk : Chunk}

theorem Whole.balanced (whole : Whole cuts fragment) : Balanced fragment where
  nonneg := by
    rintro front ⟨rest, rfl⟩
    cases rest with
    | nil =>
        rw [List.append_nil] at whole
        exact Int.le_of_eq whole.total.symm
    | cons chunk rest => exact (whole.outside front chunk rest rfl).1
  total := whole.total

/-- What stays whole stays whole when there are fewer cuts. -/
theorem Whole.mono
    (whole : Whole more fragment)
    (fewer : ∀ chunk, cuts chunk = true → more chunk = true) :
    Whole cuts fragment where
  outside := by
    intro front chunk back split
    obtain ⟨nonneg, uncut⟩ := whole.outside front chunk back split
    refine ⟨nonneg, fun atTop => Bool.eq_false_iff.mpr fun cut => ?_⟩
    rw [fewer chunk cut] at uncut
    cases uncut atTop
  total := whole.total

theorem whole_nil : Whole cuts [] where
  outside := by
    intro front chunk back split
    cases front <;> cases split
  total := rfl

theorem whole_chunk (flat : chunk.nesting = 0) (uncut : cuts chunk = false) :
    Whole cuts [chunk] where
  outside := by
    intro front other back split
    cases front with
    | nil =>
        obtain ⟨rfl, _⟩ := List.cons.inj split
        exact ⟨Int.le_refl 0, fun _ => uncut⟩
    | cons first front =>
        obtain ⟨_, split⟩ := List.cons.inj split
        cases front <;> cases split
  total := by rw [depth_cons, flat, depth_nil, Int.add_zero]

theorem Whole.append (frontWhole : Whole cuts front) (backWhole : Whole cuts back) :
    Whole cuts (front ++ back) where
  outside := by
    intro start chunk rest split
    rcases List.append_eq_append_iff.mp split with ⟨shared, frontShape, backShape⟩ |
        ⟨shared, rfl, backShape⟩
    · cases shared with
      | nil =>
          rw [List.append_nil] at frontShape
          rw [List.nil_append] at backShape
          subst frontShape
          have top := backWhole.outside [] chunk rest backShape
          rw [frontWhole.total]
          exact top
      | cons first shared =>
          obtain ⟨rfl, _⟩ := List.cons.inj backShape
          exact frontWhole.outside start chunk shared frontShape.symm
    · have inBack := backWhole.outside shared chunk rest backShape.symm
      rw [depth_append, frontWhole.total, Int.zero_add]
      exact inBack
  total := by rw [depth_append, frontWhole.total, backWhole.total, Int.add_zero]

/-- What is in parentheses is cut nowhere, if it is balanced. -/
theorem Whole.parens
    (whole : Whole more inner)
    (uncut : cuts (.mark .openParen) = false) :
    Whole cuts inner.parens where
  outside := by
    intro start chunk rest split
    cases start with
    | nil =>
        obtain ⟨rfl, _⟩ := List.cons.inj split
        exact ⟨Int.le_refl 0, fun _ => uncut⟩
    | cons first start =>
        obtain ⟨rfl, later⟩ := List.cons.inj split
        have within : start <+: inner := by
          rcases List.append_eq_append_iff.mp later with ⟨shared, shape, _⟩ |
              ⟨shared, rfl, closing⟩
          · exact ⟨shared, shape.symm⟩
          · cases shared with
            | nil => exact ⟨[], by simp⟩
            | cons => simp at closing
        have nonneg := whole.balanced.nonneg start within
        have opened : depth (.mark .openParen :: start) = 1 + depth start := depth_cons _ _
        constructor <;> omega
  total := by
    rw [Fragment.parens, depth_append, depth_cons, whole.total]
    rfl

/-- The fragment does not end with raw text. -/
def EndsPlain (fragment : Fragment) : Prop :=
  ∀ text, fragment.getLast? ≠ some (.raw text)

theorem endsPlain_nil : EndsPlain [] := by
  intro text
  simp

theorem endsPlain_concat (front : Fragment) (plain : chunk.isRaw = false) :
    EndsPlain (front ++ [chunk]) := by
  intro text last
  rw [List.getLast?_concat] at last
  obtain rfl := Option.some.inj last
  cases plain

theorem EndsPlain.append (frontEnds : EndsPlain front) (backEnds : EndsPlain back) :
    EndsPlain (front ++ back) := by
  intro text last
  rw [List.getLast?_append] at last
  rcases Option.or_eq_some_iff.mp last with inBack | ⟨_, inFront⟩
  · exact backEnds text inBack
  · exact frontEnds text inFront

/-! ## Sealed fragments -/

/-- A fragment that can be told from what it is cut off from, and from raw text behind it. -/
structure Sealed (cuts : Chunk → Bool) (fragment : Fragment) : Prop where
  whole : Whole cuts fragment
  ends : EndsPlain fragment

theorem Sealed.mono
    (isSealed : Sealed more fragment)
    (fewer : ∀ chunk, cuts chunk = true → more chunk = true) :
    Sealed cuts fragment :=
  ⟨isSealed.whole.mono fewer, isSealed.ends⟩

theorem sealed_nil : Sealed cuts [] :=
  ⟨whole_nil, endsPlain_nil⟩

theorem sealed_chunk
    (flat : chunk.nesting = 0)
    (uncut : cuts chunk = false)
    (plain : chunk.isRaw = false) :
    Sealed cuts [chunk] :=
  ⟨whole_chunk flat uncut, endsPlain_concat [] plain⟩

theorem Sealed.append (frontSealed : Sealed cuts front) (backSealed : Sealed cuts back) :
    Sealed cuts (front ++ back) :=
  ⟨frontSealed.whole.append backSealed.whole, frontSealed.ends.append backSealed.ends⟩

/-- Fragments in a row are sealed if each is and nothing is cut at their separator. -/
theorem Sealed.join
    {separator : Token}
    {parts : List Fragment}
    (flat : Chunk.nesting (.token separator) = 0)
    (uncut : cuts (.token separator) = false)
    (each : ∀ part ∈ parts, Sealed cuts part) :
    Sealed cuts (join separator parts) := by
  by_cases nonempty : parts = []
  · rw [nonempty]
    exact sealed_nil
  · exact holds_join (fun _ _ => Sealed.append) (sealed_chunk flat uncut rfl) nonempty each

/-- What is in parentheses is sealed, if it is balanced. -/
theorem Whole.sealed_parens
    (whole : Whole more inner)
    (uncut : cuts (.mark .openParen) = false) :
    Sealed cuts inner.parens where
  whole := whole.parens uncut
  ends := endsPlain_concat (.mark .openParen :: inner) rfl

/-! ## Compiled expressions -/

theorem sealed_qualified (table column : String) :
    Sealed Chunk.isSeparator (qualified table column) :=
  (sealed_chunk rfl rfl rfl).append
    ((sealed_chunk rfl rfl rfl).append (sealed_chunk rfl rfl rfl) : Sealed _ [_, _])

/-- The pieces of compiled expressions are sealed. -/
theorem sealed_compositional (scope : Scope) :
    Compositional scope (Sealed Chunk.isSeparator) where
  place _ place _ := sealed_qualified place.table place.column
  parameter _ := sealed_chunk rfl rfl rfl
  number _ := sealed_chunk rfl rfl rfl
  operator _ := sealed_chunk rfl rfl rfl
  keyword word ofExpressions :=
    sealed_chunk rfl (by rw [Chunk.isSeparator, ofExpressions]; rfl) rfl
  function rule _ inner held :=
    ⟨(whole_chunk rfl rfl).append held.whole,
      endsPlain_concat (.raw rule.name :: .mark .openParen :: inner) rfl⟩
  star := sealed_chunk rfl rfl rfl
  append _ _ := Sealed.append
  parens _ held := held.whole.sealed_parens rfl
  list parts each :=
    have listed : Sealed (fun _ => false) (commas parts) :=
      .join rfl rfl fun part member => (each part member).mono (by simp)
    listed.whole.sealed_parens rfl

theorem sealed_stable : Stable fun _ => Sealed Chunk.isSeparator where
  pieces := sealed_compositional
  grows _ _ _ held := held

end Fragment
end TypedSql
