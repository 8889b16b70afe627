import TypedSql.Dialect.Vendor

/-!
# Lexemes of statements

How a database splits the text of a statement: quoted names, words, numbers,
placeholders, operators and punctuation marks, each as long as it can be, with
any blanks between them. Comments are refused.
-/

namespace TypedSql

/-- A part of the text of a statement. -/
inductive Lexeme
  /-- A name in quotes, without the quotes. -/
  | name (content : String)
  | word (content : String)
  | number (count : Nat)
  /-- A placeholder, with its number if it has one. -/
  | placeholder (number : Option Nat)
  /-- An operator or a punctuation mark. -/
  | symbol (content : String)
  deriving DecidableEq

namespace Vendor

/-- The character at the start of a placeholder. -/
def placeholderMark : Vendor → Char
  | .postgresql => '$'
  | .sqlite => '?'
  | .mysql => '?'

/-- The number that is written in the placeholder of a parameter. -/
def placeholderNumber? : Vendor → Nat → Option Nat
  | .postgresql, index => some index
  | .sqlite, _ => none
  | .mysql, _ => none

end Vendor

namespace Lexer

/-! ## Characters -/

/-- Whether a word may start with a character. -/
def isWordStart (character : Char) : Bool :=
  character.isAlpha || character == '_' || 128 ≤ character.toNat

/-- Whether a word goes on with a character. -/
def isWordPart (character : Char) : Bool :=
  isWordStart character || character.isDigit || character == '$'

/-- Whether a character belongs to operators. -/
def isOperator (character : Char) : Bool :=
  ['+', '-', '*', '/', '<', '>', '='].contains character

/-- Whether a character is a punctuation mark. -/
def isPunctuation (character : Char) : Bool :=
  ['(', ')', ',', '.'].contains character

/-- Whether a text is a word. -/
def isWord (content : String) : Bool :=
  match content.toList with
  | [] => false
  | first :: rest => isWordStart first && rest.all isWordPart

/-! ## Lexemes -/

/-- The longest run of accepted characters, and what follows it. -/
def run (accepts : Char → Bool) (content : List Char) : List Char × List Char :=
  (content.takeWhile accepts, content.dropWhile accepts)

/-- Whether a comment begins within a run of operator characters. -/
def hasComment : List Char → Bool
  | '-' :: '-' :: _ => true
  | '/' :: '*' :: _ => true
  | _ :: rest => hasComment rest
  | [] => false

/-- A quoted name after its opening quote, and what follows its closing quote. -/
def quoted (quote : Char) : List Char → Option (List Char × List Char)
  | [] => none
  | first :: rest =>
      if first = quote then
        match rest with
        | [] => some ([], [])
        | second :: after =>
            if second = quote then
              (quoted quote after).map fun (content, left) => (quote :: content, left)
            else some ([], second :: after)
      else (quoted quote rest).map fun (content, left) => (first :: content, left)

/-- The number that decimal digits stand for. -/
def numberOf (digits : List Char) : Nat :=
  Nat.ofDigitChars 10 digits 0

/-- A placeholder after its mark; some vendors number placeholders, and one has to. -/
def placeholder (vendor : Vendor) (content : List Char) : Option (Lexeme × List Char) :=
  match vendor, run Char.isDigit content with
  | .mysql, _ => some (.placeholder none, content)
  | .sqlite, ([], left) => some (.placeholder none, left)
  | .postgresql, ([], _) => none
  | _, (digits, left) => some (.placeholder (some (numberOf digits)), left)

/-- The lexeme that starts with a character that is no blank, and what follows it. -/
def lexeme (vendor : Vendor) (first : Char) (rest : List Char) :
    Option (Lexeme × List Char) :=
  if first = vendor.quoteCharacter then
    (quoted vendor.quoteCharacter rest).map fun (content, left) =>
      (.name (String.ofList content), left)
  else if isWordStart first then
    let (tail, left) := run isWordPart rest
    some (.word (String.ofList (first :: tail)), left)
  else if first.isDigit then
    let (tail, left) := run Char.isDigit rest
    some (.number (numberOf (first :: tail)), left)
  else if first = vendor.placeholderMark then placeholder vendor rest
  else if isPunctuation first then some (.symbol (String.ofList [first]), rest)
  else if isOperator first then
    let (tail, left) := run isOperator rest
    if hasComment (first :: tail) then none
    else some (.symbol (String.ofList (first :: tail)), left)
  else none

/-- The lexemes of a text, unless a part of it is no lexeme. -/
def lexemes (vendor : Vendor) (content : List Char) : Option (List Lexeme) :=
  match content with
  | [] => some []
  | first :: rest =>
      if first.isWhitespace then lexemes vendor rest
      else
        match lexeme vendor first rest with
        | none => none
        | some (found, left) =>
            if _shorter : left.length ≤ rest.length then
              (lexemes vendor left).map (found :: ·)
            else none
termination_by content.length
decreasing_by all_goals simp only [List.length_cons]; omega

/-- The lexemes of the text of a statement. -/
def lex (vendor : Vendor) (text : String) : Option (List Lexeme) :=
  lexemes vendor text.toList

/-- Comments and names without a closing quote are refused, and operators are not split. -/
example :
    lex .sqlite "a <=(1)-- b" = none ∧
      lex .sqlite "\"a\"\"b" = none ∧
      lex .mysql "`a``b`<>?" = some [.name "a`b", .symbol "<>", .placeholder none] ∧
      lex .postgresql "a.$12" =
        some [.word "a", .symbol ".", .placeholder (some 12)] := by
  refine ⟨?_, ?_, ?_, ?_⟩ <;> cbv

end Lexer
end TypedSql
