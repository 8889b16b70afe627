import TypedSql.Toml.Text

/-!
# Reading documents

Values, and the lines of a document: keys with values, headers of tables, and
headers of elements of arrays of tables.
-/

namespace TypedSql
namespace Toml

/-- Whether a character may stand in an unquoted value. -/
def isScalarCharacter (character : Char) : Bool :=
  character.isAlphanum || character ∈ ['_', '-', '+', '.', ':']

/-- The characters of an unquoted value; a date may have a time after a blank. -/
def scalarText (content : List Char) : List Char × List Char :=
  let first := content.takeWhile isScalarCharacter
  let rest := content.dropWhile isScalarCharacter
  match rest with
  | ' ' :: digit :: more =>
      if isDate first && digit.isDigit then
        (first ++ ' ' :: (digit :: more).takeWhile isScalarCharacter,
          (digit :: more).dropWhile isScalarCharacter)
      else (first, rest)
  | rest => (first, rest)

/-- The room for nesting that is left inside an array or an inline table, if it may be there. -/
def inside? : Nat → Option Nat
  | 0 => none
  | room + 1 => some room

mutual

/-- A value in which arrays and inline tables are nested at most `room` deep. -/
def value (room : Nat) : Nat → List Char → Option (Item × List Char)
  | 0, _ => none
  | steps + 1, content =>
      match content with
      | '[' :: rest => do
          let (items, rest) ← arrayItems (← inside? room) steps rest
          return (.array items, rest)
      | '\x7b' :: rest => do
          let (entries, rest) ← inlineEntries (← inside? room) steps [] rest
          return (.table .inline entries, rest)
      | '"' :: _ => do
          let (text, rest) ← quoted content
          return (.text (String.ofList text), rest)
      | '\'' :: _ => do
          let (text, rest) ← quoted content
          return (.text (String.ofList text), rest)
      | _ => do
          let (text, rest) := scalarText content
          return (← scalar? text, rest)

/-- The items of an array, after its opening bracket or a comma. -/
def arrayItems (room : Nat) : Nat → List Char → Option (List Item × List Char)
  | 0, _ => none
  | steps + 1, content => do
      match ← skipVoid false content with
      | ']' :: rest => return ([], rest)
      | content => do
          let (item, rest) ← value room steps content
          match ← skipVoid false rest with
          | ']' :: rest => return ([item], rest)
          | ',' :: rest => do
              let (items, rest) ← arrayItems room steps rest
              return (item :: items, rest)
          | _ => none

/-- The entries of an inline table, after its opening brace or a comma. -/
def inlineEntries (room : Nat) : Nat → Entries → List Char → Option (Entries × List Char)
  | 0, _, _ => none
  | steps + 1, entries, content => do
      match ← skipVoid false content with
      | '\x7d' :: rest => return (entries, rest)
      | content => do
          let (names, rest) ← key content
          match rest with
          | '=' :: rest => do
              let (item, rest) ← value room steps (skipLineBlanks rest)
              let (path, name) := splitKey names
              let entries ← addItem path name item .inline entries
              match ← skipVoid false rest with
              | '\x7d' :: rest => return (entries, rest)
              | ',' :: rest => inlineEntries room steps entries rest
              | _ => none
          | _ => none

end

/-- The entries of a document, and the path of the table that lines add to. -/
structure DocumentState where
  entries : Entries
  current : List String

/-- A line of a document. -/
inductive Line
  | entry (names : List String) (item : Item)
  | table (names : List String)
  | element (names : List String)

/-- The document after a line, if the line may stand there. -/
def DocumentState.add (state : DocumentState) : Line → Option DocumentState
  | .entry names item => do
      let (path, name) := splitKey names
      let entries ← changeAt false (addItem path name item) state.current .header state.entries
      return { state with entries := entries }
  | .table names => do
      let (path, name) := splitKey names
      return ⟨← openTable path name .header state.entries, names⟩
  | .element names => do
      let (path, name) := splitKey names
      return ⟨← openElement path name .header state.entries, names⟩

/-- A line that is neither blank nor a comment. -/
def line (content : List Char) : Option (Line × List Char) :=
  match content with
  | '[' :: '[' :: rest => do
      let (names, rest) ← key rest
      match rest with
      | ']' :: ']' :: rest => return (.element names, rest)
      | _ => none
  | '[' :: rest => do
      let (names, rest) ← key rest
      match rest with
      | ']' :: rest => return (.table names, rest)
      | _ => none
  | _ => do
      let (names, rest) ← key content
      match rest with
      | '=' :: rest => do
          let (item, rest) ← value greatestDepth (content.length + 1) (skipLineBlanks rest)
          return (.entry names item, rest)
      | _ => none

/-- The document after the lines that are left. -/
def lines : Nat → DocumentState → List Char → Option DocumentState
  | 0, _, _ => none
  | steps + 1, state, content => do
      match ← skipVoid false content with
      | [] => return state
      | content => do
          let (read, rest) ← line content
          let next ← state.add read
          lines steps next (← lineEnd? rest)

/-- What is left of a document after a byte order mark. -/
def skipMark : List Char → List Char
  | '\ufeff' :: rest => rest
  | content => content

/-- The entries of a document, if it is well-formed. -/
def document? (content : String) : Option Entries :=
  let characters := skipMark content.toList
  (lines (characters.length + 1) ⟨[], []⟩ characters).map DocumentState.entries

end Toml
end TypedSql
