import LogSearch.Proofs.Except
import LogSearch.Query.Compile

/-!
# Normal forms

Different conditions can ask the same of the search backend: the raw line has two names, equality
and containment are one operator, a level is stored in upper case, and a negative operator is the
negation of a positive one.  The normal form of an expression forgets these differences and
nothing else.  It keeps the connectives and the negations where they stand, and its leaves are
atoms, which are phrases and ranges without a negation of their own.

`Expr.normal?` finds the normal form from the conditions, by the rules just given, and does not
mention what is written for them.  `Expr.normal?_of_clauses` says that an expression with clauses
has a normal form, and that it is the one of the clauses; and `Expr.text_plain_normal`, that
the written form of the clauses is the one of their normal form.  So what is written depends on
the normal form alone.  That it also determines the normal form is in
`LogSearch.Proofs.Query.Readback`.
-/

namespace LogSearch.Query

/-- What a condition comes down to, apart from negation: a phrase that has to match a target,
or a bound on the moment. -/
inductive Atom where
  | phrase (target : Target) (value : Text)
  | range (bound : Bound) (moment : Instant)
deriving DecidableEq

/-! ## The normal form of conditions -/

/-- The normal form of a condition.  There is none for a field that does not exist, for an
operator that its field does not have, and for a timestamp that names no instant. -/
def Condition.normal? (z : Zone) (c : Condition) : Option (Expr Atom) :=
  match Field.ofName? c.field with
  | none => none
  | some (.phrase target) =>
    let atom := Expr.leaf (.phrase target (target.stored c.value))
    match c.operator with
    | .eq | .contains => some atom
    | .neq | .notContains => some (.negation atom)
    | .gt | .gte | .lt | .lte => none
  | some .timestamp =>
    match Bound.ofOperator? c.operator, Instant.read? z c.value with
    | some bound, .ok (some moment) => some (.leaf (.range bound moment))
    | _, _ => none

/-- The normal form of an expression over conditions. -/
def Expr.normal? (z : Zone) : Expr Condition → Option (Expr Atom)
  | .leaf c => c.normal? z
  | .negation child => do return .negation (← child.normal? z)
  | .binary op left right => do return .binary op (← left.normal? z) (← right.normal? z)

/-! ## The normal form of clauses -/

/-- The normal form of a clause. -/
def Clause.normal : Clause → Expr Atom
  | .phrase target value false => .leaf (.phrase target value)
  | .phrase target value true => .negation (.leaf (.phrase target value))
  | .range bound moment => .leaf (.range bound moment)

/-- The normal form of an expression over clauses. -/
def Expr.normal : Expr Clause → Expr Atom
  | .leaf c => c.normal
  | .negation child => .negation child.normal
  | .binary op left right => .binary op left.normal right.normal

/-- A condition with a clause has the normal form of the clause. -/
lemma Condition.normal?_of_clause {z : Zone} {condition : Condition} {clause : Clause}
    (h : condition.clause z = .ok clause) : condition.normal? z = some clause.normal := by
  rw [Condition.clause] at h
  rw [Condition.normal?]
  cases hfield : Field.ofName? condition.field with
  | none => simp [hfield] at h
  | some field =>
    cases field with
    | phrase target =>
      cases hoperator : condition.operator <;>
        simp only [hfield, hoperator, Operator.negates?, Except.ok.injEq, reduceCtorEq] at h ⊢ <;>
        rw [← h] <;> rfl
    | timestamp =>
      simp only [hfield] at h
      cases hbound : Bound.ofOperator? condition.operator with
      | none => simp [hbound] at h
      | some bound =>
        simp only [hbound] at h
        split at h
        next => contradiction
        next =>
          split at h
          next => contradiction
          next => contradiction
          next moment hmoment =>
            rw [← Except.ok.inj h, hmoment]
            rfl

lemma Expr.normal?_of_clauses {z : Zone} {e : Expr Condition} {clauses : Expr Clause}
    (h : e.clauses z = .ok clauses) : e.normal? z = some clauses.normal := by
  rw [Expr.clauses] at h
  induction e generalizing clauses with
  | leaf condition =>
    obtain ⟨clause, hclause, h⟩ := Except.bind_eq_ok_iff.1 h
    obtain rfl := Except.pure_eq_ok_iff.1 h
    exact Condition.normal?_of_clause hclause
  | negation child ih =>
    obtain ⟨inner, hinner, h⟩ := Except.bind_eq_ok_iff.1 h
    obtain rfl := Except.pure_eq_ok_iff.1 h
    simp [normal?, normal, ih hinner]
  | binary op left right ihleft ihright =>
    obtain ⟨l, hl, h⟩ := Except.bind_eq_ok_iff.1 h
    obtain ⟨r, hr, h⟩ := Except.bind_eq_ok_iff.1 h
    obtain rfl := Except.pure_eq_ok_iff.1 h
    simp [normal?, normal, ihleft hl, ihright hr]

/-! ## The written form

An atom is the clause without negation, so that the written form of clauses is also one of normal
forms. -/

/-- The clause that asks for an atom. -/
def Atom.clause : Atom → Clause
  | .phrase target value => .phrase target value false
  | .range bound moment => .range bound moment

/-- The clauses that ask for a normal form, none of them negated. -/
def Expr.plain : Expr Atom → Expr Clause
  | .leaf a => .leaf a.clause
  | .negation child => .negation child.plain
  | .binary op left right => .binary op left.plain right.plain

lemma Expr.nested_negation (child : Expr Clause) :
    (Expr.negation child).nested = "NOT (" ++ child.nested ++ ")" := rfl

lemma Expr.nested_binary (op : Connective) (left right : Expr Clause) :
    (Expr.binary op left right).nested =
      "(" ++ left.nested ++ " " ++ op.name ++ " " ++ right.nested ++ ")" := rfl

lemma Expr.text_binary (op : Connective) (left right : Expr Clause) :
    (Expr.binary op left right).text =
      left.nested ++ " " ++ op.name ++ " " ++ right.nested := rfl

lemma Expr.nested_plain_normal (e : Expr Clause) : e.normal.plain.nested = e.nested := by
  induction e with
  | leaf c =>
    cases c with
    | phrase target value negated => cases negated <;> rfl
    | range bound moment => rfl
  | negation child ih => rw [normal, plain, nested_negation, nested_negation, ih]
  | binary op left right ihleft ihright =>
    rw [normal, plain, nested_binary, nested_binary, ihleft, ihright]

/-- Clauses are written like their normal form. -/
lemma Expr.text_plain_normal (e : Expr Clause) : e.normal.plain.text = e.text := by
  cases e with
  | leaf c =>
    have hnested := nested_plain_normal (.leaf c)
    cases c with
    | phrase target value negated => cases negated <;> exact hnested
    | range bound moment => exact hnested
  | negation child => exact nested_plain_normal (.negation child)
  | binary op left right =>
    rw [normal, plain, text_binary, text_binary, nested_plain_normal, nested_plain_normal]

end LogSearch.Query
