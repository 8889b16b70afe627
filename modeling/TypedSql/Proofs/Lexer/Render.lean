import TypedSql.Proofs.Lexer.Spelling
import TypedSql.Sql.Fragment

/-!
# Rendered fragments are split into their chunks

The text of a fragment has one lexeme for each chunk. Where no blank is written,
one of the two neighbours is a punctuation mark other than the star, and such a
mark neither goes on with the lexeme before it nor is gone on with.
-/

namespace TypedSql

/-! ## Chunks -/

/-- The lexeme of a keyword, a punctuation mark or an operator. -/
def Token.lexeme : Token → Lexeme
  | .keyword word => .word word.text
  | .mark symbol => .symbol symbol.text
  | .operator symbol => .symbol symbol.text

/-- The lexeme of a chunk when `index` is the number of the next placeholder. -/
def Chunk.lexeme (vendor : Vendor) (index : Nat) : Chunk → Lexeme
  | .token symbol => symbol.lexeme
  | .identifier name => .name name
  | .raw content => .word content
  | .number count => .number count.toNat
  | .parameter _ => .placeholder (vendor.placeholderNumber? index)

/-- The lexemes of a fragment whose first placeholder has the number `index`. -/
def Fragment.lexemesFrom (vendor : Vendor) (index : Nat) : Fragment → List Lexeme
  | [] => []
  | chunk :: rest =>
      chunk.lexeme vendor index :: lexemesFrom vendor (nextIndex index chunk) rest

/-- The lexemes of a fragment, its placeholders counted from one. -/
def Fragment.lexemes (vendor : Vendor) (fragment : Fragment) : List Lexeme :=
  fragment.lexemesFrom vendor 1

/-- Whether a chunk is a punctuation mark other than the star. -/
def Chunk.isDelimiter : Chunk → Bool
  | .token (.mark .star) => false
  | .token (.mark _) => true
  | _ => false

namespace Lexer

theorem isWord_keyword (word : Keyword) : isWord word.text = true := by
  cases word <;> decide

/-- An operator is written with operator characters that begin no comment. -/
theorem exists_run (symbol : Operator) :
    ∃ first rest,
      symbol.text.toList = first :: rest ∧
        (first :: rest).all isOperator = true ∧ hasComment (first :: rest) = false := by
  cases symbol with
  | eq => exact ⟨'=', [], by decide⟩
  | ne => exact ⟨'<', ['>'], by decide⟩
  | lt => exact ⟨'<', [], by decide⟩
  | le => exact ⟨'<', ['='], by decide⟩
  | gt => exact ⟨'>', [], by decide⟩
  | ge => exact ⟨'>', ['='], by decide⟩
  | plus => exact ⟨'+', [], by decide⟩
  | minus => exact ⟨'-', [], by decide⟩
  | times => exact ⟨'*', [], by decide⟩
  | divide => exact ⟨'/', [], by decide⟩

theorem spells_operator
    (vendor : Vendor)
    (symbol : Operator)
    {left : List Char}
    (delimited : Delimited left) :
    Spells vendor symbol.text.toList (.symbol symbol.text) left := by
  obtain ⟨first, rest, shape, accepted, noComment⟩ := exists_run symbol
  exact spells_run vendor shape accepted noComment delimited

/-- The star is written like an operator. -/
theorem spells_star
    (vendor : Vendor)
    {left : List Char}
    (delimited : Delimited left) :
    Spells vendor Mark.star.text.toList (.symbol Mark.star.text) left :=
  spells_operator vendor .times delimited

/-- A delimiter is a punctuation mark that is written as one character. -/
theorem exists_mark
    {chunk : Chunk}
    (delimits : chunk.isDelimiter = true) :
    ∃ symbol character,
      chunk = .mark symbol ∧
        symbol.text.toList = [character] ∧ isPunctuation character = true := by
  unfold Chunk.isDelimiter at delimits
  split at delimits
  · cases delimits
  · next symbol notStar =>
    cases symbol with
    | star => exact absurd rfl notStar
    | comma => exact ⟨.comma, ',', rfl, by decide⟩
    | dot => exact ⟨.dot, '.', rfl, by decide⟩
    | openParen => exact ⟨.openParen, '(', rfl, by decide⟩
    | closeParen => exact ⟨.closeParen, ')', rfl, by decide⟩
  · cases delimits

/-- A delimiter is one lexeme, whatever follows. -/
theorem spells_delimiter
    (vendor : Vendor)
    (index : Nat)
    {chunk : Chunk}
    (left : List Char)
    (delimits : chunk.isDelimiter = true) :
    Spells vendor (Fragment.chunkText vendor.dialect index chunk).toList
      (chunk.lexeme vendor index) left := by
  obtain ⟨symbol, character, rfl, spelled, punctuation⟩ := exists_mark delimits
  exact spells_punctuation vendor left spelled punctuation

/-- The text of a delimiter starts with a punctuation mark. -/
theorem delimited_of_isDelimiter
    (dialect : Dialect)
    (index : Nat)
    {chunk : Chunk}
    (delimits : chunk.isDelimiter = true)
    (rest : List Char) :
    Delimited ((Fragment.chunkText dialect index chunk).toList ++ rest) := by
  obtain ⟨symbol, character, rfl, spelled, punctuation⟩ := exists_mark delimits
  change Delimited (symbol.text.toList ++ rest)
  rw [spelled]
  intro first member
  cases member
  exact .inr punctuation

/-- Every chunk is one lexeme where a blank, a delimiter or nothing follows. -/
theorem spells_chunk
    (vendor : Vendor)
    (index : Nat)
    {chunk : Chunk}
    {left : List Char}
    (word : ∀ content, chunk = .raw content → isWord content = true)
    (ends : chunk.isDelimiter = true ∨ Delimited left) :
    Spells vendor (Fragment.chunkText vendor.dialect index chunk).toList
      (chunk.lexeme vendor index) left := by
  rcases ends with delimits | delimited
  · exact spells_delimiter vendor index left delimits
  cases chunk with
  | token symbol =>
      cases symbol with
      | keyword symbol => exact spells_word vendor (isWord_keyword symbol) delimited
      | mark symbol =>
          cases symbol with
          | star => exact spells_star vendor delimited
          | _ => exact spells_delimiter vendor index left rfl
      | operator symbol => exact spells_operator vendor symbol delimited
  | identifier name => exact spells_name vendor name delimited
  | raw content => exact spells_word vendor (word content rfl) delimited
  | number count => exact spells_number vendor count.toNat delimited
  | parameter value => exact spells_placeholder vendor index delimited

end Lexer

/-! ## Neighbours -/

namespace Chunk

/-- A blank stands between two chunks that are no delimiters. -/
theorem separated_of_not_isDelimiter
    {current next : Chunk}
    (currentPlain : current.isDelimiter = false)
    (nextPlain : next.isDelimiter = false) :
    separated current next = true := by
  -- Keywords, the star, operators and chunks that are no tokens are left on either side.
  rcases current with (_ | (_ | _ | _ | _ | _) | _) | _ | _ | _ | _ <;>
    rcases next with (_ | (_ | _ | _ | _ | _) | _) | _ | _ | _ | _ <;>
    first
    | rfl
    | exact Bool.noConfusion currentPlain
    | exact Bool.noConfusion nextPlain

/-- Where no blank is written between two chunks, one of them is a delimiter. -/
theorem delimiter_of_not_separated
    {current next : Chunk}
    (joined : separated current next = false) :
    current.isDelimiter = true ∨ next.isDelimiter = true := by
  cases currentPlain : current.isDelimiter with
  | true => exact .inl rfl
  | false =>
      cases nextPlain : next.isDelimiter with
      | true => exact .inr rfl
      | false =>
          rw [separated_of_not_isDelimiter currentPlain nextPlain] at joined
          cases joined

end Chunk

/-- Words bring no blanks of their own. -/
theorem isWord_visible
    {content : String}
    (word : Lexer.isWord content = true) :
    ∀ character ∈ content.toList, character.isWhitespace = false := by
  unfold Lexer.isWord at word
  split at word
  · cases word
  · next first rest shape =>
    rw [Bool.and_eq_true, List.all_eq_true] at word
    intro character member
    rw [shape] at member
    rcases List.mem_cons.mp member with rfl | inRest
    · exact Lexer.visible_of_wordPart (Lexer.wordPart_of_start word.1)
    · exact Lexer.visible_of_wordPart (word.2 character inRest)

namespace Lexer

/-- Raw chunks that are words. -/
def WordsOnly (fragment : Fragment) : Prop :=
  ∀ content, .raw content ∈ fragment → isWord content = true

theorem WordsOnly.endsBlank
    {fragment : Fragment}
    {chunk : Chunk}
    (words : WordsOnly fragment)
    (member : chunk ∈ fragment) :
    chunk.endsBlank = false := by
  cases chunk with
  | raw content =>
      rw [Chunk.endsBlank, beq_eq_false_iff_ne]
      intro last
      have visible := isWord_visible (words content member) ' ' (List.mem_of_getLast? last)
      cases visible
  | _ => rfl

theorem WordsOnly.startsBlank
    {fragment : Fragment}
    {chunk : Chunk}
    (words : WordsOnly fragment)
    (member : chunk ∈ fragment) :
    chunk.startsBlank = false := by
  cases chunk with
  | raw content =>
      rw [Chunk.startsBlank, beq_eq_false_iff_ne]
      intro first
      have visible := isWord_visible (words content member) ' ' (List.mem_of_head? first)
      cases visible
  | _ => rfl

/-- What follows a chunk is a blank, a delimiter or nothing, or the chunk is a delimiter. -/
theorem ends_chunk
    (dialect : Dialect)
    (index : Nat)
    {chunk : Chunk}
    {rest : Fragment}
    (words : WordsOnly (chunk :: rest)) :
    chunk.isDelimiter = true ∨
      Delimited
        ((Fragment.blankBefore chunk rest).toList ++
          (Fragment.renderFrom dialect index rest).toList) := by
  cases rest with
  | nil =>
      right
      intro first member
      cases member
  | cons next others =>
      have noBlankEnd := words.endsBlank List.mem_cons_self
      have noBlankStart := words.startsBlank (List.mem_cons_of_mem chunk List.mem_cons_self)
      rw [Fragment.blankBefore, Chunk.needsBlank, noBlankEnd, noBlankStart]
      cases separated : Chunk.separated chunk next with
      | true =>
          right
          intro first member
          cases member
          exact .inl rfl
      | false =>
          rcases Chunk.delimiter_of_not_separated separated with delimits | delimits
          · exact .inl delimits
          · right
            rw [Fragment.renderFrom, String.append_assoc, String.toList_append]
            exact delimited_of_isDelimiter dialect index delimits _

/-- A blank before a text adds no lexeme. -/
theorem lexemes_blankBefore
    (vendor : Vendor)
    (chunk : Chunk)
    (rest : Fragment)
    (content : List Char) :
    lexemes vendor ((Fragment.blankBefore chunk rest).toList ++ content) =
      lexemes vendor content := by
  cases rest with
  | nil => rfl
  | cons next others =>
      rw [Fragment.blankBefore]
      cases chunk.needsBlank next with
      | true => exact lexemes_blank vendor content
      | false => rfl

/-- The text of a fragment is split into the lexemes of its chunks. -/
theorem lexemes_renderFrom
    (vendor : Vendor)
    (fragment : Fragment)
    (index : Nat)
    (words : WordsOnly fragment) :
    lexemes vendor (fragment.renderFrom vendor.dialect index).toList =
      some (fragment.lexemesFrom vendor index) := by
  -- Each chunk ends the lexeme before it or is ended by what follows, so that the first
  -- lexeme can be taken off and the rest of the text is the text of the rest.
  induction fragment generalizing index with
  | nil =>
      rw [Fragment.renderFrom, Fragment.lexemesFrom, String.toList_empty, lexemes]
  | cons chunk rest inductionHypothesis =>
      have restWords : WordsOnly rest := fun content member =>
        words content (List.mem_cons_of_mem chunk member)
      have chunkWord : ∀ content, chunk = .raw content → isWord content = true := by
        rintro content rfl
        exact words content List.mem_cons_self
      have ends := ends_chunk vendor.dialect (Fragment.nextIndex index chunk) words
      have spells := spells_chunk vendor index chunkWord ends
      rw [Fragment.renderFrom, String.append_assoc, String.toList_append, String.toList_append,
        spells.lexemes, lexemes_blankBefore, inductionHypothesis _ restWords, Option.map_some,
        Fragment.lexemesFrom]

end Lexer

/--
The text of a fragment whose raw chunks are words is split into one lexeme for each
chunk, in order: what the chunk stands for, and nothing else.
-/
theorem Fragment.lex_render
    (vendor : Vendor)
    (fragment : Fragment)
    (words : ∀ content, .raw content ∈ fragment → Lexer.isWord content = true) :
    Lexer.lex vendor (fragment.render vendor.dialect) = some (fragment.lexemes vendor) :=
  Lexer.lexemes_renderFrom vendor fragment 1 words

/-- Signs in a row, names with quotes and without characters, and marks in a row. -/
def Sample.row : Fragment :=
  [.raw "f", .mark .openParen, .operator .minus, .operator .minus, .number 7, .mark .dot,
   .identifier "", .identifier "a\"b", .mark .dot, .operator .divide, .mark .star,
   .parameter .null, .parameter .null, .mark .closeParen]

theorem Fragment.lex_render_row :
    (∀ content, .raw content ∈ Sample.row → Lexer.isWord content = true) ∧
      Lexer.lex .postgresql (Sample.row.render Vendor.postgresql.dialect) =
        some [.word "f", .symbol "(", .symbol "-", .symbol "-", .number 7, .symbol ".",
          .name "", .name "a\"b", .symbol ".", .symbol "/", .symbol "*",
          .placeholder (some 1), .placeholder (some 2), .symbol ")"] := by
  have words : ∀ content, .raw content ∈ Sample.row → Lexer.isWord content = true := by
    intro content member
    simp [Sample.row] at member
    subst member
    decide
  exact ⟨words, lex_render .postgresql Sample.row words⟩

end TypedSql
