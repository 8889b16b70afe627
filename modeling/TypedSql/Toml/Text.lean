import TypedSql.Toml.Scalar

/-!
# Blanks, strings and keys

The readers of a document's smaller parts. Each takes what is left of the
document and gives what it read together with what is left then, or nothing if
the document is malformed. A reader that repeats a step takes a bound on the
number of steps, for which the length of the document is always enough; the
bounds on keys and on nesting are rules of the documents themselves.
-/

namespace TypedSql
namespace Toml

/-! ## Blanks and comments -/

/-- Whether a character may not stand in strings and comments. -/
def isControl (character : Char) : Bool :=
  (character.toNat < 0x20 && character != '\t') || character.toNat == 0x7F

/-- Whether a character is a blank within a line. -/
def isLineBlank (character : Char) : Bool :=
  character == ' ' || character == '\t'

/-- What is left after the blanks of a line. -/
def skipLineBlanks (content : List Char) : List Char :=
  content.dropWhile isLineBlank

/-- What is left after a line break. -/
def lineBreak? : List Char → Option (List Char)
  | '\n' :: rest => some rest
  | '\r' :: '\n' :: rest => some rest
  | _ => none

/-- What is left after the end of a line: blanks, a comment, and a break or the end. -/
def lineEnd? (content : List Char) : Option (List Char) :=
  let rest :=
    match skipLineBlanks content with
    | '#' :: comment => comment.dropWhile fun character => !isControl character
    | rest => rest
  match rest with
  | [] => some []
  | rest => lineBreak? rest

/-- What is left after blanks, line breaks and comments. -/
def skipVoid (inComment : Bool) : List Char → Option (List Char)
  | [] => some []
  | '\n' :: rest => skipVoid false rest
  | '\r' :: '\n' :: rest => skipVoid false rest
  | character :: rest =>
      if inComment then
        if isControl character then none else skipVoid true rest
      else if isLineBlank character then skipVoid false rest
      else if character = '#' then skipVoid true rest
      else some (character :: rest)

/-! ## Strings -/

/-- The character with a code of `width` hexadecimal digits. -/
def codeEscape? (width : Nat) (content : List Char) : Option (Char × List Char) :=
  let digits := content.take width
  let code := numberOf 16 digits
  if digits.length = width ∧ digits.all isHexDigit ∧ code.isValidChar then
    some (Char.ofNat code, content.drop width)
  else
    none

/-- The character of an escape, after its backslash. -/
def escape? : List Char → Option (Char × List Char)
  | 'b' :: rest => some ('\x08', rest)
  | 't' :: rest => some ('\t', rest)
  | 'n' :: rest => some ('\n', rest)
  | 'f' :: rest => some ('\x0c', rest)
  | 'r' :: rest => some ('\r', rest)
  | 'e' :: rest => some ('\x1b', rest)
  | '"' :: rest => some ('"', rest)
  | '\\' :: rest => some ('\\', rest)
  | 'x' :: rest => codeEscape? 2 rest
  | 'u' :: rest => codeEscape? 4 rest
  | 'U' :: rest => codeEscape? 8 rest
  | _ => none

/-- What was read with a character in front. -/
def readCons
    (character : Char)
    (read : Option (List Char × List Char)) :
    Option (List Char × List Char) :=
  read.map fun (content, rest) => (character :: content, rest)

/-- A string on one line with escapes, after its opening quote. -/
def basicString : Nat → List Char → Option (List Char × List Char)
  | 0, _ => none
  | _, [] => none
  | steps + 1, character :: rest =>
      if character = '"' then some ([], rest)
      else if character = '\\' then do
        let (escaped, rest) ← escape? rest
        readCons escaped (basicString steps rest)
      else if isControl character then none
      else readCons character (basicString steps rest)

/-- A string on one line without escapes, after its opening quote. -/
def literalString : List Char → Option (List Char × List Char)
  | [] => none
  | character :: rest =>
      if character = '\'' then some ([], rest)
      else if isControl character then none
      else readCons character (literalString rest)

/--
The end of a string on several lines, where there is one: three quotes, before
which one or two more belong to the string.
-/
def closing? (quote : Char) (content : List Char) : Option (List Char × List Char) :=
  let quotes := (content.takeWhile (· = quote)).length
  if quotes < 3 then none
  else
    let extra := min (quotes - 3) 2
    some (List.replicate extra quote, content.drop (extra + 3))

/-- What is left after a backslash at the end of a line and the blanks that follow. -/
def continuedLine? (content : List Char) : Option (List Char) := do
  let rest ← lineBreak? (skipLineBlanks content)
  return rest.dropWhile fun character =>
    isLineBlank character || character == '\n' || character == '\r'

/-- A string on several lines, after its opening quotes. -/
def longString (quote : Char) : Nat → List Char → Option (List Char × List Char)
  | 0, _ => none
  | steps + 1, content =>
      match closing? quote content with
      | some closed => some closed
      | none =>
          match lineBreak? content with
          | some rest => readCons '\n' (longString quote steps rest)
          | none =>
              match content with
              | [] => none
              | character :: rest =>
                  if character = '\\' ∧ quote = '"' then
                    match continuedLine? rest with
                    | some rest => longString quote steps rest
                    | none => do
                        let (escaped, rest) ← escape? rest
                        readCons escaped (longString quote steps rest)
                  else if isControl character then none
                  else readCons character (longString quote steps rest)

/-- What is left after a line break right behind the opening quotes. -/
def dropFirstBreak (content : List Char) : List Char :=
  (lineBreak? content).getD content

/-- A quoted string of any of the four sorts. -/
def quoted (content : List Char) : Option (List Char × List Char) :=
  match content with
  | '"' :: '"' :: '"' :: rest => longString '"' (content.length + 1) (dropFirstBreak rest)
  | '\'' :: '\'' :: '\'' :: rest => longString '\'' (content.length + 1) (dropFirstBreak rest)
  | '"' :: rest => basicString (content.length + 1) rest
  | '\'' :: rest => literalString rest
  | _ => none

/-! ## Keys -/

/-- Whether a character may stand in a key without quotes. -/
def isBareKey (character : Char) : Bool :=
  character.isAlphanum || character == '_' || character == '-'

/-- One name of a key. -/
def keyName (content : List Char) : Option (String × List Char) :=
  let read : Option (List Char × List Char) :=
    match content with
    | '"' :: rest => basicString (content.length + 1) rest
    | '\'' :: rest => literalString rest
    | _ =>
        let name := content.takeWhile isBareKey
        if name.isEmpty then none else some (name, content.dropWhile isBareKey)
  read.map fun name => (String.ofList name.1, name.2)

/-- The names of a key with points between them, of which there are at most `room`. -/
def keyWithin : Nat → List Char → Option (List String × List Char)
  | 0, _ => none
  | room + 1, content => do
      let (name, rest) ← keyName (skipLineBlanks content)
      match skipLineBlanks rest with
      | '.' :: rest => do
          let (names, rest) ← keyWithin room rest
          return (name :: names, rest)
      | rest => return ([name], rest)

/-- How many names a key may have, and how deep arrays and inline tables may be nested. -/
def greatestDepth : Nat := 80

/-- The names of a key. -/
def key (content : List Char) : Option (List String × List Char) :=
  keyWithin greatestDepth content

/-- The path and the last name of a key. -/
def splitKey (names : List String) : List String × String :=
  (names.dropLast, names.getLastD "")

end Toml
end TypedSql
