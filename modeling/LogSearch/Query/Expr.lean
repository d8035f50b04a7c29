import LogSearch.Query.Token

/-!
# Expressions

What a query says: conditions on single fields, joined by AND and OR and negated by NOT.  The
tree does not fix what stands at its leaves, so that the walks over it can be used with
conditions in several forms.
-/

namespace LogSearch.Query

/-- The connectives between two expressions. -/
inductive Connective where
  | and | or
deriving DecidableEq, Repr

/-- The word for a connective. -/
def Connective.name : Connective → Text
  | .and => "AND"
  | .or => "OR"

/-- A comparison of a field with a value. -/
structure Condition where
  field : Text
  operator : Operator
  value : Text
deriving DecidableEq, Repr

/-- An expression over leaves of type `α`. -/
inductive Expr (α : Type) where
  | leaf (condition : α)
  | negation (child : Expr α)
  | binary (connective : Connective) (left right : Expr α)
deriving DecidableEq, Repr

/-- The negation of an expression, so many times over. -/
def Expr.negate {α : Type} (e : Expr α) : Nat → Expr α
  | 0 => e
  | n + 1 => .negation (e.negate n)

/-- A chain of one connective, nested to the left, with one more member; the chain may be
empty. -/
def Expr.chain {α : Type} (connective : Connective) : Option (Expr α) → Expr α → Expr α
  | none, e => e
  | some before, e => .binary connective before e

end LogSearch.Query
