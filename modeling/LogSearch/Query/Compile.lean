import LogSearch.Query.Automaton
import LogSearch.Query.Clause

/-!
# Compiling a query

A query is read into an expression over conditions, every condition is replaced by its clause,
and the expression over clauses is written in the language of the search backend.  All joined
expressions are put in parentheses there, except the outermost.

The clauses are found from left to right, and the first condition without a clause decides the
fault (`Expr.traverse`).
-/

namespace LogSearch.Query

/-- The expression with every leaf replaced, or the fault of the leftmost leaf that has one. -/
def Expr.traverse {α β ε : Type} (f : α → Except ε β) : Expr α → Except ε (Expr β)
  | .leaf c => do return .leaf (← f c)
  | .negation child => do return .negation (← child.traverse f)
  | .binary op left right => do
    let l ← left.traverse f
    let r ← right.traverse f
    return .binary op l r

/-- The written form of an expression inside another one. -/
def Expr.nested : Expr Clause → Text
  | .leaf c => c.text
  | .negation child => "NOT (" ++ child.nested ++ ")"
  | .binary op left right => "(" ++ left.nested ++ " " ++ op.name ++ " " ++ right.nested ++ ")"

/-- The written form of a whole expression. -/
def Expr.text : Expr Clause → Text
  | .binary op left right => left.nested ++ " " ++ op.name ++ " " ++ right.nested
  | e => e.nested

/-- The expression over clauses that an expression over conditions stands for. -/
def Expr.clauses (z : Zone) (e : Expr Condition) : Except ClauseFault (Expr Clause) :=
  e.traverse (Condition.clause z)

/-- Why a query cannot be compiled. -/
inductive CompileFault where
  | syntactic (fault : SyntaxFault)
  | condition (fault : ConditionFault)
  | range (fault : RangeFault)
deriving DecidableEq, Repr

@[inherit_doc CompileFault]
def ClauseFault.toCompileFault : ClauseFault → CompileFault
  | .condition fault => .condition fault
  | .range fault => .range fault

/-- The wording of a fault. -/
def CompileFault.message : CompileFault → Text
  | .syntactic fault => fault.cause.message
  | .condition fault => fault.message
  | .range fault => fault.message

/-- The query in the language of the search backend.  A query has to hold something other than
white space. -/
def compile (z : Zone) (query : Text) : Except CompileFault Text :=
  if Text.isBlankText query then .error (.syntactic ⟨.emptyQuery, none⟩)
  else do
    let e ← (parse query).mapError .syntactic
    let clauses ← (e.clauses z).mapError ClauseFault.toCompileFault
    return clauses.text

/-! ## Drafts

An expression that does not come from a query may leave values out.  A text without a value is
compared with the empty text, and a timestamp without a value is an empty timestamp.  A level
cannot be put in upper case when there is none, which is a fault of its own. -/

/-- A condition that may lack its value. -/
structure Draft where
  field : Text
  operator : Operator
  value : Option Text
deriving DecidableEq, Repr

/-- Why a draft has no clause. -/
inductive DraftFault where
  /-- A level without a value. -/
  | missingLevel
  | clause (fault : ClauseFault)
deriving DecidableEq, Repr

/-- The clause of a draft. -/
def Draft.clause (z : Zone) (d : Draft) : Except DraftFault Clause :=
  if d.value = none ∧ Field.ofName? d.field = some (.phrase .level) then .error .missingLevel
  else (Condition.clause z ⟨d.field, d.operator, d.value.getD []⟩).mapError .clause

end LogSearch.Query
