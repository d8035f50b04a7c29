import LogSearch.Text.Basic
import LogSearch.Text.Case

/-!
# Tokens of a query

A query is written in words, quoted texts, comparison signs and parentheses.  Five words are
reserved: the three connectives and the two operators that are spelled out.  A word is
reserved by its upper case, so that no spelling of a reserved word names a field.

`Token` is a lexical unit with the place where it begins, and `SyntaxFault` is what can be
wrong with a query before its meaning is considered.
-/

namespace LogSearch.Query

/-- The comparisons that a condition can make. -/
inductive Operator where
  | eq | neq | gt | gte | lt | lte | contains | notContains
deriving DecidableEq, Repr

/-- The name of an operator, as messages write it. -/
def Operator.name : Operator → Text
  | .eq => "EQ"
  | .neq => "NEQ"
  | .gt => "GT"
  | .gte => "GTE"
  | .lt => "LT"
  | .lte => "LTE"
  | .contains => "CONTAINS"
  | .notContains => "NOT_CONTAINS"

/-- The kinds of token.  `ending` stands after the last character of the query. -/
inductive Kind where
  | leftParen | rightParen | and | or | not | word | quoted
  | comparison (operator : Operator)
  | ending
deriving DecidableEq, Repr

/-- The name of a kind of token.  An operator gives its own name to the token. -/
def Kind.name : Kind → Text
  | .leftParen => "LPAREN"
  | .rightParen => "RPAREN"
  | .and => "AND"
  | .or => "OR"
  | .not => "NOT"
  | .word => "WORD"
  | .quoted => "STRING"
  | .comparison op => op.name
  | .ending => "EOF"

/-- A lexical unit: its kind, its text without quotes and escapes, and the number of
characters before it. -/
structure Token where
  kind : Kind
  text : Text
  position : Nat
deriving DecidableEq, Repr

/-- How a message names the token that was found. -/
def Token.description (t : Token) : Text :=
  if t.kind = .ending then "end of input" else "'" ++ t.text ++ "'"

/-- The kind of a word: its own for the reserved words, in any letter case. -/
def Kind.ofWord (word : Text) : Kind :=
  let name := Text.upper word
  if name = "AND".toList then .and
  else if name = "OR".toList then .or
  else if name = "NOT".toList then .not
  else if name = "CONTAINS".toList then .comparison .contains
  else if name = "NOT_CONTAINS".toList then .comparison .notContains
  else .word

/-- What can be wrong with the form of a query. -/
inductive SyntaxCause where
  /-- The query is absent or blank. -/
  | emptyQuery
  /-- A character that begins no token. -/
  | unexpectedCharacter (found : Char)
  /-- A sign that begins a comparison and is none by itself. -/
  | unexpectedOperator (found : Char)
  /-- A quoted text without its closing quote. -/
  | unterminatedText
  /-- A condition has to begin with the name of a field. -/
  | missingField (found : Token)
  /-- A field has to be followed by an operator. -/
  | missingOperator (field : Text) (found : Token)
  /-- An operator has to be followed by a word or a quoted text. -/
  | missingValue (field : Text) (found : Token)
  /-- An opened parenthesis is not closed. -/
  | missingParenthesis (found : Token)
  /-- Something follows the end of the query. -/
  | trailingToken (found : Token)
deriving DecidableEq, Repr

/-- The wording of a fault. -/
def SyntaxCause.message : SyntaxCause → Text
  | .emptyQuery => "Query cannot be empty"
  | .unexpectedCharacter c => "Unexpected character '" ++ [c] ++ "' in query"
  | .unexpectedOperator c => "Unexpected operator starting with '" ++ [c] ++ "'"
  | .unterminatedText => "Unterminated string literal in query"
  | .missingField t => "Expected field name (found " ++ t.description ++ ")"
  | .missingOperator f t =>
    "Unsupported operator for field '" ++ f ++ "' (found " ++ t.description ++ ")"
  | .missingValue f t =>
    "Missing value for condition on field '" ++ f ++ "' (found " ++ t.description ++ ")"
  | .missingParenthesis t => "Missing closing parenthesis (found " ++ t.description ++ ")"
  | .trailingToken t =>
    "Unexpected token after end of expression (found " ++ t.description ++ ")"

/-- A fault in the form of a query, with the place where it shows, if it has one. -/
structure SyntaxFault where
  cause : SyntaxCause
  position : Option Nat
deriving DecidableEq, Repr

/-- A fault that shows at a token. -/
def SyntaxFault.at (cause : SyntaxCause) (found : Token) : SyntaxFault :=
  ⟨cause, some found.position⟩

end LogSearch.Query
