/-!
# SQL tokens

The keywords, punctuation marks and operators of which statements are made, and
their texts.
-/

namespace TypedSql

/-- The keywords of read statements. -/
inductive Keyword
  | selectKw
  | fromKw
  | whereKw
  | andKw
  | orKw
  | notKw
  | asKw
  | onKw
  | innerKw
  | leftKw
  | joinKw
  | orderKw
  | groupKw
  | byKw
  | ascKw
  | descKw
  | isKw
  | nullKw
  | inKw
  | likeKw
  deriving DecidableEq

/-- The text of a keyword. -/
def Keyword.text : Keyword → String
  | .selectKw => "SELECT"
  | .fromKw => "FROM"
  | .whereKw => "WHERE"
  | .andKw => "AND"
  | .orKw => "OR"
  | .notKw => "NOT"
  | .asKw => "AS"
  | .onKw => "ON"
  | .innerKw => "INNER"
  | .leftKw => "LEFT"
  | .joinKw => "JOIN"
  | .orderKw => "ORDER"
  | .groupKw => "GROUP"
  | .byKw => "BY"
  | .ascKw => "ASC"
  | .descKw => "DESC"
  | .isKw => "IS"
  | .nullKw => "NULL"
  | .inKw => "IN"
  | .likeKw => "LIKE"

/-- The punctuation marks. -/
inductive Mark
  /-- The star that stands for all columns or all rows. -/
  | star
  | comma
  | dot
  | openParen
  | closeParen
  deriving DecidableEq

/-- The text of a punctuation mark. -/
def Mark.text : Mark → String
  | .star => "*"
  | .comma => ","
  | .dot => "."
  | .openParen => "("
  | .closeParen => ")"

/-- The comparison and arithmetic operators. -/
inductive Operator
  | eq
  | ne
  | lt
  | le
  | gt
  | ge
  | plus
  | minus
  | times
  | divide
  deriving DecidableEq

/-- The text of an operator. -/
def Operator.text : Operator → String
  | .eq => "="
  | .ne => "<>"
  | .lt => "<"
  | .le => "<="
  | .gt => ">"
  | .ge => ">="
  | .plus => "+"
  | .minus => "-"
  | .times => "*"
  | .divide => "/"

/-- A keyword, a punctuation mark or an operator. -/
inductive Token
  | keyword (word : Keyword)
  | mark (symbol : Mark)
  | operator (symbol : Operator)
  deriving DecidableEq

namespace Token

/-- The text of a token. -/
def text : Token → String
  | .keyword word => word.text
  | .mark symbol => symbol.text
  | .operator symbol => symbol.text

/-- Operators have a blank on both sides. -/
def isOperator : Token → Bool
  | .operator _ => true
  | _ => false

/-- Keywords and the star are set apart from their neighbours like words. -/
def isWordLike : Token → Bool
  | .keyword _ => true
  | .mark .star => true
  | _ => false

@[simp] theorem text_keyword (word : Keyword) : (keyword word).text = word.text := rfl

@[simp] theorem text_mark (symbol : Mark) : (mark symbol).text = symbol.text := rfl

@[simp] theorem text_operator (symbol : Operator) :
    (operator symbol).text = symbol.text := rfl

end Token
end TypedSql
