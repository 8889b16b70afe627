import TypedSql.Sql.Chunk
import TypedSql.Sql.Statement

/-!
# Fragments of statements

A fragment is a list of chunks. Bound values stand in the list next to the text
they belong to, so that rendering numbers the placeholders and collects their
values from one and the same list.
-/

namespace TypedSql

/-- A part of a statement. -/
abbrev Fragment := List Chunk

namespace Fragment

/-- A column name after the name of its table. -/
def qualified (table column : String) : Fragment :=
  [.identifier table, .mark .dot, .identifier column]

/-- A fragment in parentheses. -/
def parens (fragment : Fragment) : Fragment :=
  .mark .openParen :: fragment ++ [.mark .closeParen]

@[simp] theorem length_parens (fragment : Fragment) :
    fragment.parens.length = fragment.length + 2 := by
  simp [parens]

/-- A call of a function. -/
def call (name : String) (arguments : Fragment) : Fragment :=
  .raw name :: parens arguments

/-- Fragments in a row, with a token between neighbours. -/
def join (separator : Token) (fragments : List Fragment) : Fragment :=
  List.intercalate [.token separator] fragments

@[simp] theorem join_nil (separator : Token) : join separator [] = [] := rfl

@[simp] theorem join_singleton (separator : Token) (only : Fragment) :
    join separator [only] = only := by
  simp [join, List.intercalate]

@[simp] theorem join_cons_cons
    (separator : Token)
    (first second : Fragment)
    (others : List Fragment) :
    join separator (first :: second :: others) =
      first ++ .token separator :: join separator (second :: others) := by
  simp [join, List.intercalate]

/-- Fragments in a row before others in a row, with the token in the middle too. -/
theorem join_append
    (separator : Token)
    {front back : List Fragment}
    (frontNonempty : front ≠ [])
    (backNonempty : back ≠ []) :
    join separator (front ++ back) =
      join separator front ++ .token separator :: join separator back := by
  obtain ⟨next, others, rfl⟩ := List.exists_cons_of_ne_nil backNonempty
  induction front with
  | nil => exact absurd rfl frontNonempty
  | cons first rest inductionHypothesis =>
      cases rest with
      | nil => simp
      | cons second tail =>
          have joined := inductionHypothesis (List.cons_ne_nil second tail)
          simp only [List.cons_append, join_cons_cons] at joined ⊢
          rw [joined]
          simp

/-- Fragments in a row, with commas between them. -/
def commas (fragments : List Fragment) : Fragment :=
  join (.mark .comma) fragments

/-- A fragment under another name. -/
def named (fragment : Fragment) (name : String) : Fragment :=
  fragment ++ [.keyword .asKw, .identifier name]

/-- The bound values of a fragment, in order. -/
def parameters (fragment : Fragment) : List Value :=
  fragment.filterMap Chunk.parameter?

@[simp] theorem parameters_nil : parameters [] = [] := rfl

@[simp] theorem parameters_append (left right : Fragment) :
    parameters (left ++ right) = parameters left ++ parameters right := by
  simp [parameters]

/-- The text of a chunk when `index` is the number of the next placeholder. -/
def chunkText (dialect : Dialect) (index : Nat) : Chunk → String
  | .token symbol => symbol.text
  | .identifier name => dialect.quote name
  | .raw content => content
  | .number count => toString count.toNat
  | .parameter _ => dialect.placeholder index

/-- The number of the next placeholder after a chunk. -/
def nextIndex (index : Nat) : Chunk → Nat
  | .parameter _ => index + 1
  | _ => index

/-- The blank between a chunk and the fragment that follows it. -/
def blankBefore (current : Chunk) : Fragment → String
  | [] => ""
  | next :: _ => if current.needsBlank next then " " else ""

/-- The text of a fragment whose first placeholder has the number `index`. -/
def renderFrom (dialect : Dialect) (index : Nat) : Fragment → String
  | [] => ""
  | chunk :: rest =>
      chunkText dialect index chunk ++ blankBefore chunk rest ++
        renderFrom dialect (nextIndex index chunk) rest

/-- The text of a fragment, its placeholders counted from one. -/
def render (dialect : Dialect) (fragment : Fragment) : String :=
  renderFrom dialect 1 fragment

/-- The statement of a fragment. -/
def build (dialect : Dialect) (fragment : Fragment) : Statement :=
  ⟨fragment.render dialect, fragment.parameters⟩

@[simp] theorem parameters_build (dialect : Dialect) (fragment : Fragment) :
    (fragment.build dialect).parameters = fragment.parameters := rfl

@[simp] theorem sql_build (dialect : Dialect) (fragment : Fragment) :
    (fragment.build dialect).sql = fragment.render dialect := rfl

end Fragment
end TypedSql
