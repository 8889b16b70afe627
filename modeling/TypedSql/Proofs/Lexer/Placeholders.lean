import TypedSql.Proofs.Expr.Literals
import TypedSql.Proofs.Lexer.Render

/-!
# Placeholders in texts

The text of a fragment numbers its parameters from one, without a gap: each parameter
is written as the placeholder of its position, and a database that reads the text finds
these placeholders and no others.
-/

namespace TypedSql

/-- The number in a placeholder, if the lexeme is one. -/
def Lexeme.placeholder? : Lexeme → Option (Option Nat)
  | .placeholder written => some written
  | _ => none

/-- The placeholders in a text outside of quoted names, unless a part of it is no lexeme. -/
def Lexer.placeholders (vendor : Vendor) (text : String) : Option (List (Option Nat)) :=
  (lex vendor text).map (List.filterMap Lexeme.placeholder?)

namespace Fragment

/-! ## Fragments in a row -/

/-- The blank between two fragments. -/
def gap (front back : Fragment) : String :=
  match front.getLast? with
  | none => ""
  | some last => blankBefore last back

theorem gap_cons_cons (first second : Chunk) (rest back : Fragment) :
    gap (first :: second :: rest) back = gap (second :: rest) back := by
  rw [gap, gap, List.getLast?_cons_cons]

theorem nextIndex_eq (index : Nat) (chunk : Chunk) (rest : Fragment) :
    nextIndex index chunk + rest.parameters.length =
      index + (parameters (chunk :: rest)).length := by
  cases chunk <;> simp [nextIndex]
  omega

/-- In two fragments in a row, the second counts on where the first ends. -/
theorem renderFrom_append
    (dialect : Dialect)
    (index : Nat)
    (front back : Fragment) :
    renderFrom dialect index (front ++ back) =
      renderFrom dialect index front ++ gap front back ++
        renderFrom dialect (index + front.parameters.length) back := by
  induction front generalizing index with
  | nil => simp [renderFrom, gap]
  | cons first rest inductionHypothesis =>
      rw [List.cons_append, renderFrom, renderFrom, inductionHypothesis, nextIndex_eq]
      cases rest with
      | nil => simp [renderFrom, gap, blankBefore]
      | cons second others =>
          have sameBlank : blankBefore first (second :: others ++ back) =
              blankBefore first (second :: others) := rfl
          simp only [sameBlank, gap_cons_cons, String.append_assoc]

/-- A part of a fragment may be replaced by one with the same text and as many parameters. -/
theorem render_replace
    (dialect : Dialect)
    {front old new back : Fragment}
    (start : gap front old = gap front new)
    (sameText : ∀ index, renderFrom dialect index old = renderFrom dialect index new)
    (finish : gap (front ++ old) back = gap (front ++ new) back)
    (sameLength : old.parameters.length = new.parameters.length) :
    render dialect (front ++ old ++ back) = render dialect (front ++ new ++ back) := by
  simp only [render, renderFrom_append, parameters_append, List.length_append, start, sameText,
    finish, sameLength]

/-- A parameter is written as the placeholder of its position among the parameters. -/
theorem render_parameter (dialect : Dialect) (front : Fragment) (value : Value) (back : Fragment) :
    render dialect (front ++ .parameter value :: back) =
      front.render dialect ++ gap front (.parameter value :: back) ++
        dialect.placeholder (front.parameters.length + 1) ++
          blankBefore (.parameter value) back ++
            back.renderFrom dialect (front.parameters.length + 2) := by
  have next : 1 + front.parameters.length = front.parameters.length + 1 := Nat.add_comm _ _
  simp only [render, renderFrom_append, renderFrom, chunkText, nextIndex, next,
    String.append_assoc]

/-- The blank before a raw chunk depends on whether the chunk brings one. -/
theorem gap_raw
    (front : Fragment)
    {word other : String}
    (wordVisible : (Chunk.raw word).startsBlank = false)
    (otherVisible : (Chunk.raw other).startsBlank = false)
    (rest others : Fragment) :
    gap front (.raw word :: rest) = gap front (.raw other :: others) := by
  unfold gap
  cases front.getLast? with
  | none => rfl
  | some last =>
      simp only [blankBefore, Chunk.needsBlank, wordVisible, otherVisible]
      rcases last with (_ | (_ | _ | _ | _ | _) | _) | _ | _ | _ | _ <;> rfl

/-- No blank stands before a closing parenthesis, nor at the end. -/
theorem gap_closed
    (front : Fragment)
    {back : Fragment}
    (closed : ∀ next ∈ back.head?, next = .mark .closeParen) :
    gap front back = "" := by
  unfold gap
  cases front.getLast? with
  | none => rfl
  | some last =>
      cases back with
      | nil => rfl
      | cons next rest =>
          obtain rfl := closed next rfl
          simp [blankBefore, Chunk.needsBlank, Chunk.separated]

/-! ## Placeholders that are read -/

/-- The placeholders among the lexemes of a fragment are those of its parameters. -/
theorem placeholders_lexemesFrom (vendor : Vendor) (index : Nat) (fragment : Fragment) :
    (fragment.lexemesFrom vendor index).filterMap Lexeme.placeholder? =
      (List.range' index fragment.parameters.length).map vendor.placeholderNumber? := by
  induction fragment generalizing index with
  | nil => rfl
  | cons chunk rest inductionHypothesis =>
      rw [lexemesFrom, List.filterMap_cons, inductionHypothesis]
      cases chunk with
      | token symbol => cases symbol <;> rfl
      | parameter value =>
          rw [parameters_parameter, List.length_cons, List.range'_succ, List.map_cons]
          rfl
      | _ => rfl

/-- The text of a fragment whose raw chunks are words has a placeholder for each parameter. -/
theorem placeholders_render
    {vendor : Vendor}
    {fragment : Fragment}
    (words : Lexer.WordsOnly fragment) :
    Lexer.placeholders vendor (fragment.render vendor.dialect) =
      some ((List.range' 1 fragment.parameters.length).map vendor.placeholderNumber?) := by
  have read : Lexer.lex vendor (fragment.render vendor.dialect) =
      some (fragment.lexemesFrom vendor 1) := Lexer.lexemes_renderFrom vendor fragment 1 words
  rw [Lexer.placeholders, read, Option.map_some, placeholders_lexemesFrom]

end Fragment
end TypedSql
