import TypedSql.Proofs.Lexer.Lexeme
import TypedSql.Proofs.Numeric.Numeral

/-!
# Texts that are one lexeme

Words, numbers, placeholders, operators and quoted names are one lexeme each
where a blank, a punctuation mark or nothing follows them. Punctuation marks are
lexemes of their own, whatever follows.
-/

namespace TypedSql
namespace Lexer

/-! ## Where lexemes end -/

/-- Whether a text starts with a blank or a punctuation mark, if it is not empty. -/
def Delimited (content : List Char) : Prop :=
  ∀ first ∈ content.head?, first.isWhitespace = true ∨ isPunctuation first = true

/-- Blanks and punctuation marks belong to no other lexeme. -/
theorem delimiter_ends
    {character : Char}
    (delimits : character.isWhitespace = true ∨ isPunctuation character = true) :
    isWordPart character = false ∧
      character.isDigit = false ∧
      isOperator character = false ∧
      ∀ vendor : Vendor, character ≠ vendor.quoteCharacter := by
  simp only [Char.isWhitespace, isPunctuation, List.contains_eq_mem, List.mem_cons,
    List.not_mem_nil, or_false, Bool.or_eq_true, decide_eq_true_eq] at delimits
  rcases delimits with (((rfl | rfl) | rfl) | rfl) | rfl | rfl | rfl | rfl <;>
    refine ⟨rfl, rfl, rfl, ?_⟩ <;>
    intro vendor <;>
    cases vendor <;>
    decide

/-- A run ends where a character does not belong to it. -/
theorem run_append
    {accepts : Char → Bool}
    {front left : List Char}
    (accepted : ∀ character ∈ front, accepts character = true)
    (ends : ∀ first ∈ left.head?, accepts first = false) :
    run accepts (front ++ left) = (front, left) := by
  have takes : left.takeWhile accepts = [] := by
    cases left with
    | nil => rfl
    | cons first rest => rw [List.takeWhile_cons_of_neg]; simp [ends first rfl]
  have drops : left.dropWhile accepts = left := by
    cases left with
    | nil => rfl
    | cons first rest => rw [List.dropWhile_cons_of_neg]; simp [ends first rfl]
  rw [run, List.takeWhile_append_of_pos accepted, List.dropWhile_append_of_pos accepted,
    takes, drops, List.append_nil]

/-! ## Texts of lexemes -/

/-- A text before others is one lexeme. -/
def Spells
    (vendor : Vendor)
    (text : List Char)
    (found : Lexeme)
    (left : List Char) : Prop :=
  ∃ first rest, text = first :: rest ∧ first.isWhitespace = false ∧
    lexeme vendor first (rest ++ left) = some (found, left)

theorem lexemes_blank (vendor : Vendor) (rest : List Char) :
    lexemes vendor (' ' :: rest) = lexemes vendor rest := by
  rw [lexemes]
  rfl

theorem Spells.lexemes
    {vendor : Vendor}
    {text left : List Char}
    {found : Lexeme}
    (spells : Spells vendor text found left) :
    lexemes vendor (text ++ left) = (lexemes vendor left).map (found :: ·) := by
  obtain ⟨first, rest, rfl, visible, read⟩ := spells
  have shorter : left.length ≤ (rest ++ left).length := by
    rw [List.length_append]
    exact Nat.le_add_left _ _
  rw [List.cons_append, Lexer.lexemes, visible, read]
  simp only [Bool.false_eq_true, if_false, shorter, dite_true]

theorem wordPart_of_start
    {character : Char}
    (starts : isWordStart character = true) :
    isWordPart character = true := by
  rw [isWordPart, starts, Bool.true_or, Bool.true_or]

theorem wordPart_of_digit
    {character : Char}
    (digit : character.isDigit = true) :
    isWordPart character = true := by
  rw [isWordPart, digit, Bool.or_true, Bool.true_or]

theorem visible_of_wordPart
    {character : Char}
    (part : isWordPart character = true) :
    character.isWhitespace = false := by
  rw [Bool.eq_false_iff]
  intro white
  rw [(delimiter_ends (.inl white)).1] at part
  cases part

theorem spells_word
    (vendor : Vendor)
    {content : String}
    {left : List Char}
    (word : isWord content = true)
    (delimited : Delimited left) :
    Spells vendor content.toList (.word content) left := by
  unfold isWord at word
  split at word
  · cases word
  · next first rest shape =>
    rw [Bool.and_eq_true, List.all_eq_true] at word
    obtain ⟨starts, parts⟩ := word
    have visible := visible_of_wordPart (wordPart_of_start starts)
    have unquoted : first ≠ vendor.quoteCharacter := by
      rintro rfl
      cases vendor <;> cases starts
    have read : run isWordPart (rest ++ left) = (rest, left) :=
      run_append parts fun next member => (delimiter_ends (delimited next member)).1
    have whole : String.ofList (first :: rest) = content := by
      rw [← shape, String.ofList_toList]
    refine ⟨first, rest, shape, visible, ?_⟩
    rw [lexeme, if_neg unquoted, if_pos starts]
    simp only [read, whole]

/-- No word starts with one of the ten digits. -/
theorem digits_start_no_word :
    ∀ value : Fin 10, isWordStart (Char.ofNat (48 + value)) = false := by
  decide

theorem digit_starts_no_word
    {first : Char}
    (digit : first.isDigit = true) :
    isWordStart first = false := by
  have bounds : 48 ≤ first.toNat ∧ first.toNat ≤ 57 := Char.isDigit_iff_toNat.mp digit
  have small : first.toNat - 48 < 10 := by omega
  have noWord := digits_start_no_word ⟨first.toNat - 48, small⟩
  rwa [Nat.add_sub_cancel' bounds.1, Char.ofNat_toNat] at noWord

/-- A number is written in digits that stand for it. -/
theorem exists_digits (count : Nat) :
    ∃ first rest,
      (toString count).toList = first :: rest ∧
        (∀ character ∈ first :: rest, character.isDigit = true) ∧
        numberOf (first :: rest) = count := by
  obtain ⟨nonempty, digits⟩ := Decimal.isRun_toString count
  obtain ⟨first, rest, shape⟩ := List.exists_cons_of_ne_nil nonempty
  refine ⟨first, rest, shape, shape ▸ digits, ?_⟩
  rw [← shape, numberOf, Nat.toString_eq_repr, Nat.toList_repr, Nat.ofDigitChars_ten_toDigits]

theorem run_digits
    {digits left : List Char}
    (delimited : Delimited left)
    (accepted : ∀ character ∈ digits, character.isDigit = true) :
    run Char.isDigit (digits ++ left) = (digits, left) :=
  run_append accepted fun next member => (delimiter_ends (delimited next member)).2.1

theorem spells_number
    (vendor : Vendor)
    (count : Nat)
    {left : List Char}
    (delimited : Delimited left) :
    Spells vendor (toString count).toList (.number count) left := by
  obtain ⟨first, rest, shape, digits, value⟩ := exists_digits count
  have firstDigit := digits first List.mem_cons_self
  have visible := visible_of_wordPart (wordPart_of_digit firstDigit)
  have unquoted : first ≠ vendor.quoteCharacter := by
    rintro rfl
    cases vendor <;> cases firstDigit
  have read : run Char.isDigit (rest ++ left) = (rest, left) :=
    run_digits delimited fun character member => digits character (List.mem_cons_of_mem _ member)
  refine ⟨first, rest, shape, visible, ?_⟩
  rw [lexeme, if_neg unquoted, digit_starts_no_word firstDigit, if_pos firstDigit]
  simp only [read, value, Bool.false_eq_true, if_false]

theorem spells_placeholder
    (vendor : Vendor)
    (index : Nat)
    {left : List Char}
    (delimited : Delimited left) :
    Spells vendor (vendor.placeholder index).toList
      (.placeholder (vendor.placeholderNumber? index)) left := by
  cases vendor with
  | postgresql =>
      obtain ⟨first, rest, shape, digits, value⟩ := exists_digits index
      have read : run Char.isDigit (first :: rest ++ left) = (first :: rest, left) :=
        run_digits delimited digits
      refine ⟨'$', first :: rest, ?_, rfl, ?_⟩
      · rw [Vendor.placeholder, String.toList_append, shape]
        rfl
      · change placeholder .postgresql (first :: rest ++ left) = _
        unfold placeholder
        rw [read]
        simp only [value, Vendor.placeholderNumber?]
  | sqlite =>
      have shape : "?".toList = ['?'] := by decide
      have read : run Char.isDigit ([] ++ left) = ([], left) := by
        refine run_digits delimited ?_
        intro character member
        cases member
      refine ⟨'?', [], shape, rfl, ?_⟩
      change placeholder .sqlite ([] ++ left) = _
      unfold placeholder
      rw [read]
      rfl
  | mysql =>
      have shape : "?".toList = ['?'] := by decide
      exact ⟨'?', [], shape, rfl, rfl⟩

/-- Operators start none of the lexemes that are looked for before them. -/
theorem operator_visible
    {first : Char}
    (accepted : isOperator first = true) :
    first.isWhitespace = false ∧ isWordStart first = false ∧ first.isDigit = false ∧
      isPunctuation first = false ∧
      ∀ vendor : Vendor, first ≠ vendor.quoteCharacter ∧ first ≠ vendor.placeholderMark := by
  simp only [isOperator, List.contains_eq_mem, List.mem_cons, List.not_mem_nil, or_false,
    decide_eq_true_eq] at accepted
  rcases accepted with rfl | rfl | rfl | rfl | rfl | rfl | rfl <;>
    refine ⟨rfl, rfl, rfl, rfl, ?_⟩ <;>
    intro vendor <;>
    cases vendor <;>
    decide

/-- Operator characters without a comment among them are one operator. -/
theorem spells_run
    (vendor : Vendor)
    {content : String}
    {first : Char}
    {rest left : List Char}
    (shape : content.toList = first :: rest)
    (accepted : (first :: rest).all isOperator = true)
    (noComment : hasComment (first :: rest) = false)
    (delimited : Delimited left) :
    Spells vendor content.toList (.symbol content) left := by
  rw [List.all_eq_true] at accepted
  obtain ⟨visible, noWord, noDigit, noPunctuation, vendorFree⟩ :=
    operator_visible (accepted first List.mem_cons_self)
  obtain ⟨unquoted, unmarked⟩ := vendorFree vendor
  have read : run isOperator (rest ++ left) = (rest, left) := by
    refine run_append (fun next member => accepted next (List.mem_cons_of_mem _ member)) ?_
    exact fun next member => (delimiter_ends (delimited next member)).2.2.1
  have whole : String.ofList (first :: rest) = content := by
    rw [← shape, String.ofList_toList]
  refine ⟨first, rest, shape, visible, ?_⟩
  rw [lexeme, if_neg unquoted, noWord, noDigit, if_neg unmarked, noPunctuation,
    accepted first List.mem_cons_self]
  simp only [read, noComment, whole, Bool.false_eq_true, if_false, if_true]

/-- Punctuation marks are lexemes of their own, whatever follows. -/
theorem spells_punctuation
    (vendor : Vendor)
    {content : String}
    {character : Char}
    (left : List Char)
    (shape : content.toList = [character])
    (accepted : isPunctuation character = true) :
    Spells vendor content.toList (.symbol content) left := by
  have whole : String.ofList [character] = content := by
    rw [← shape, String.ofList_toList]
  simp only [isPunctuation, List.contains_eq_mem, List.mem_cons, List.not_mem_nil, or_false,
    decide_eq_true_eq] at accepted
  refine ⟨character, [], shape, ?_, ?_⟩
  · rcases accepted with rfl | rfl | rfl | rfl <;> rfl
  · rw [← whole]
    rcases accepted with rfl | rfl | rfl | rfl <;> cases vendor <;> rfl

/-- A quoted name ends at the first quote that is not doubled. -/
theorem quoted_doubled
    {quote : Char}
    {left : List Char}
    (ends : ∀ first ∈ left.head?, first ≠ quote)
    (content : List Char) :
    quoted quote
        ((content.flatMap fun character =>
          if character = quote then [quote, quote] else [character]) ++ quote :: left) =
      some (content, left) := by
  induction content with
  | nil =>
      rw [List.flatMap_nil, List.nil_append, quoted.eq_def]
      simp only [if_true]
      cases left with
      | nil => rfl
      | cons first rest => exact if_neg (ends first rfl)
  | cons character content inductionHypothesis =>
      rw [List.flatMap_cons]
      by_cases same : character = quote
      · subst same
        rw [if_pos rfl, List.append_assoc]
        rw [List.cons_append, List.singleton_append, quoted.eq_def]
        simp only [if_true, inductionHypothesis, Option.map_some]
      · rw [if_neg same, List.append_assoc, List.singleton_append, quoted.eq_def]
        simp only [same, if_false, inductionHypothesis, Option.map_some]

theorem spells_name
    (vendor : Vendor)
    (name : String)
    {left : List Char}
    (delimited : Delimited left) :
    Spells vendor (vendor.dialect.quote name).toList (.name name) left := by
  have visible : vendor.quoteCharacter.isWhitespace = false := by cases vendor <;> rfl
  have ends : ∀ first ∈ left.head?, first ≠ vendor.quoteCharacter :=
    fun first member => (delimiter_ends (delimited first member)).2.2.2 vendor
  have shape : (vendor.dialect.quote name).toList = _ := Dialect.toList_quoteDoubling _ name
  rw [List.cons_append] at shape
  refine ⟨vendor.quoteCharacter, _, shape, visible, ?_⟩
  rw [lexeme, if_pos rfl, List.append_assoc, List.singleton_append, quoted_doubled ends,
    Option.map_some]
  simp only [String.ofList_toList]

end Lexer
end TypedSql
