import TypedSql.Sql.Token
import TypedSql.Value.Basic

/-!
# Chunks of a statement

A statement is a flat list of chunks: tokens, identifiers, raw words, numbers
and bound parameters. Whether a blank stands between two neighbours depends on
those two chunks alone.
-/

namespace TypedSql

/-- One part of a statement. -/
inductive Chunk
  | token (symbol : Token)
  /-- A name, quoted when it is rendered. -/
  | identifier (name : String)
  /-- Text that is rendered as it is, such as a function name. -/
  | raw (content : String)
  /-- A number of the statement itself, not of its caller. -/
  | number (count : UInt64)
  /-- A bound value, rendered as a placeholder. -/
  | parameter (value : Value)
  deriving DecidableEq

namespace Chunk

/-- The chunk of a keyword. -/
abbrev keyword (word : Keyword) : Chunk := .token (.keyword word)

/-- The chunk of a punctuation mark. -/
abbrev mark (symbol : Mark) : Chunk := .token (.mark symbol)

/-- The chunk of an operator. -/
abbrev operator (symbol : Operator) : Chunk := .token (.operator symbol)

/-- The value of a parameter chunk. -/
def parameter? : Chunk → Option Value
  | .parameter value => some value
  | _ => none

/-- Whether the chunk is set apart from its neighbours like a word. -/
def isWordLike : Chunk → Bool
  | .token symbol => symbol.isWordLike
  | _ => true

/-- Whether the chunk is raw text that brings its own blank at the start. -/
def startsBlank : Chunk → Bool
  | .raw content => content.toList.head? == some ' '
  | _ => false

/-- Whether the chunk is raw text that brings its own blank at the end. -/
def endsBlank : Chunk → Bool
  | .raw content => content.toList.getLast? == some ' '
  | _ => false

/--
Whether a blank stands between two chunks that bring none themselves. The first
rule that applies decides: none before a closing mark, none after an opening
one, one after a comma and around operators, none between the name of a function
and its parenthesis, and otherwise one between words.
-/
def separated : Chunk → Chunk → Bool
  | _, .token (.mark .closeParen) => false
  | _, .token (.mark .comma) => false
  | _, .token (.mark .dot) => false
  | .token (.mark .openParen), _ => false
  | .token (.mark .dot), _ => false
  | .token (.mark .comma), _ => true
  | .token (.operator _), _ => true
  | _, .token (.operator _) => true
  | .token (.mark .closeParen), next => next.isWordLike
  | .raw _, .token (.mark .openParen) => false
  | .identifier _, .token (.mark .openParen) => false
  | current, .token (.mark .openParen) => current.isWordLike
  | current, next => current.isWordLike && next.isWordLike

/-- Whether a blank is written between two neighbouring chunks. -/
def needsBlank (current next : Chunk) : Bool :=
  !current.endsBlank && !next.startsBlank && separated current next

end Chunk
end TypedSql
