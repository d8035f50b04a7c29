import LogSearch.Query.Cursor
import LogSearch.Query.Expr
import LogSearch.Text.Case

/-!
# From tokens to an expression

The grammar, loosest connective first:

* an expression is a chain of terms joined by OR,
* a term is a chain of factors joined by AND,
* a factor is NOT and a factor, an expression in parentheses, or a condition,
* a condition is a word, an operator, and a word or a quoted text.

It is read by a pushdown automaton, one token at a time.  Its stack has a level for every open
parenthesis; a level holds the chains that wait there for their next member and the number of
NOTs that wait for their factor.  A step needs nothing but the state and the token, so a fault
is found at the first token that no query could have in that place, and a token is asked for
only when all tokens before it have been accepted.

Parentheses are read to any depth.  The limit that a reader has there if it calls itself for each of
them is left out.
-/

namespace LogSearch.Query

/-- What waits at one depth of parentheses: the OR chain of finished terms, the AND chain of
finished factors, and the NOTs before the factor to come. -/
structure Level where
  terms : Option (Expr Condition)
  factors : Option (Expr Condition)
  negations : Nat
deriving DecidableEq, Repr

/-- The level of which nothing has been read. -/
def Level.empty : Level := ⟨none, none, 0⟩

/-- What has to come next. -/
inductive Expecting where
  /-- A factor. -/
  | factor
  /-- The operator of a condition on the field. -/
  | operator (field : Text)
  /-- The value of the condition. -/
  | value (field : Text) (operator : Operator)
  /-- A connective, a closing parenthesis or the end; the AND chain read so far is complete. -/
  | connective (term : Expr Condition)
deriving DecidableEq, Repr

/-- The state between two tokens.  `enclosing` are the levels of the open parentheses, the
innermost first, and `level` is the one being read. -/
structure State where
  enclosing : List Level
  level : Level
  expecting : Expecting
deriving DecidableEq, Repr

/-- The state before the first token. -/
def State.initial : State := ⟨[], .empty, .factor⟩

/-- The level with a factor taken in: the NOTs before it are applied and the AND chain grows. -/
def Level.withFactor (l : Level) (e : Expr Condition) : Expr Condition :=
  Expr.chain .and l.factors (e.negate l.negations)

/-- The expression of a level whose last term is complete. -/
def Level.close (l : Level) (term : Expr Condition) : Expr Condition :=
  Expr.chain .or l.terms term

/-- The fault of a token that neither continues nor ends the expression. -/
def State.unexpected (s : State) (t : Token) : SyntaxFault :=
  .at (if s.enclosing.isEmpty then .trailingToken t else .missingParenthesis t) t

/-- Takes in one token that is not the ending one. -/
def State.step (s : State) (t : Token) : Except SyntaxFault State :=
  match s.expecting with
  | .factor =>
    match t.kind with
    | .not => .ok { s with level.negations := s.level.negations + 1 }
    | .leftParen => .ok ⟨s.level :: s.enclosing, .empty, .factor⟩
    | .word => .ok { s with expecting := .operator (Text.lower t.text) }
    | _ => .error (.at (.missingField t) t)
  | .operator field =>
    match t.kind with
    | .comparison op => .ok { s with expecting := .value field op }
    | _ => .error (.at (.missingOperator field t) t)
  | .value field op =>
    match t.kind with
    | .word | .quoted =>
      .ok { s with expecting := .connective (s.level.withFactor (.leaf ⟨field, op, t.text⟩)) }
    | _ => .error (.at (.missingValue field t) t)
  | .connective term =>
    match t.kind, s.enclosing with
    | .and, _ =>
      .ok { s with level := ⟨s.level.terms, some term, 0⟩, expecting := .factor }
    | .or, _ =>
      .ok { s with level := ⟨some (s.level.close term), none, 0⟩, expecting := .factor }
    | .rightParen, outer :: rest =>
      .ok ⟨rest, outer, .connective (outer.withFactor (s.level.close term))⟩
    | _, _ => .error (s.unexpected t)

/-- The expression, when the ending token `t` comes next. -/
def State.finish (s : State) (t : Token) : Except SyntaxFault (Expr Condition) :=
  match s.expecting, s.enclosing with
  | .factor, _ => .error (.at (.missingField t) t)
  | .operator field, _ => .error (.at (.missingOperator field t) t)
  | .value field _, _ => .error (.at (.missingValue field t) t)
  | .connective term, [] => .ok (s.level.close term)
  | .connective _, _ :: _ => .error (s.unexpected t)

/-- Takes in tokens one after the other, up to the first fault. -/
def State.run (s : State) : List Token → Except SyntaxFault State
  | [] => .ok s
  | t :: rest => do (← s.step t).run rest

/-- The expression that a query writes.  A fault of the grammar comes before a lexical fault
further on. -/
def parse (query : Text) : Except SyntaxFault (Expr Condition) := do
  let stream := tokens query
  let state ← State.initial.run stream.tokens
  state.finish (← stream.ending)

end LogSearch.Query
