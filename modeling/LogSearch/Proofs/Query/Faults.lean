import LogSearch.Proofs.Query.Stored
import LogSearch.Proofs.Time.Range

/-!
# How compiling ends

Compiling a query comes to a text or to a fault, and the fault is in the form of the query, in one
of its conditions, or in the range of a timestamp.  The first two are faults of the query.  The
third is none: the timestamp is of the right form, but it is so near to the ends of the years that
it names no instant.  `compile_ends` says for which queries this comes about.  The conditions are
compiled from left to right, so that it is the leftmost condition without a clause that decides
(`Expr.fault?_traverse`).
-/

namespace LogSearch

lemma Instant.read?_of_isBlankText {z : Zone} {value : Text} (h : Text.isBlankText value) :
    Instant.read? z value = .ok none := by
  rw [Instant.read?, Text.strip_eq_nil_iff.2 h]
  rfl

namespace Query

/-! ## Expressions -/

/-- The leaves of an expression, from left to right. -/
def Expr.leaves {α : Type} : Expr α → List α
  | .leaf c => [c]
  | .negation child => child.leaves
  | .binary _ left right => left.leaves ++ right.leaves

/-- The fault of going through an expression is that of the leftmost leaf that has one. -/
lemma Expr.fault?_traverse {α β ε : Type} (f : α → Except ε β) (e : Expr α) :
    Except.fault? (e.traverse f) = e.leaves.findSome? fun c => Except.fault? (f c) := by
  induction e with
  | leaf c =>
    rw [traverse, leaves, List.findSome?_singleton]
    cases f c <;> rfl
  | negation child ih =>
    rw [traverse, leaves, ← ih]
    cases child.traverse f <;> rfl
  | binary op left right ihl ihr =>
    rw [traverse, leaves, List.findSome?_append, ← ihl, ← ihr]
    cases left.traverse f with
    | error fault => rfl
    | ok l => cases right.traverse f <;> rfl

/-- The fault of an expression is that of a leaf, and the leaves to the left of it have none. -/
lemma Expr.traverse_eq_error_iff {α β ε : Type} {f : α → Except ε β} {e : Expr α} {fault : ε} :
    e.traverse f = .error fault ↔ ∃ before c after, e.leaves = before ++ c :: after ∧
      (∀ b ∈ before, ∃ result, f b = .ok result) ∧ f c = .error fault := by
  rw [← Except.fault?_eq_some_iff, fault?_traverse, List.findSome?_eq_some_iff]
  constructor
  · rintro ⟨before, c, after, hleaves, hc, hbefore⟩
    exact ⟨before, c, after, hleaves, fun b hb => Except.fault?_eq_none_iff.1 (hbefore b hb),
      Except.fault?_eq_some_iff.1 hc⟩
  · rintro ⟨before, c, after, hleaves, hbefore, hc⟩
    exact ⟨before, c, after, hleaves, Except.fault?_eq_some_iff.2 hc,
      fun b hb => Except.fault?_eq_none_iff.2 (hbefore b hb)⟩

/-! ## Conditions -/

/-- The condition compares the timestamp with one that names no instant. -/
structure Condition.IsBeyond (z : Zone) (c : Condition) : Prop where
  field : Field.ofName? c.field = some .timestamp
  operator : (Bound.ofOperator? c.operator).isSome
  value : ∃ s, Stamp.read? (Text.strip c.value) = some s ∧ s.IsBeyond z

/-- The conditions that are out of range are those comparisons. -/
lemma Condition.exists_clause_eq_range_iff {z : Zone} {c : Condition} :
    (∃ fault, c.clause z = .error (.range fault)) ↔ c.IsBeyond z := by
  by_cases hcomparison :
      Field.ofName? c.field = some .timestamp ∧ (Bound.ofOperator? c.operator).isSome
  · obtain ⟨hfield, hoperator⟩ := hcomparison
    obtain ⟨bound, hbound⟩ := Option.isSome_iff_exists.1 hoperator
    have hvalue : c.IsBeyond z ↔ ∃ fault, Instant.read? z c.value = .error fault :=
      ⟨fun h => Instant.exists_read?_eq_error_iff.2 h.value,
        fun h => ⟨hfield, hoperator, Instant.exists_read?_eq_error_iff.1 h⟩⟩
    rw [hvalue]
    by_cases hblank : Text.isBlankText c.value
    · simp [clause, hfield, hbound, hblank, Instant.read?_of_isBlankText hblank]
    · cases hread : Instant.read? z c.value with
      | error fault => simp [clause, hfield, hbound, hblank, hread]
      | ok i => cases i <;> simp [clause, hfield, hbound, hblank, hread]
  · refine iff_of_false ?_ fun h => hcomparison ⟨h.field, h.operator⟩
    rintro ⟨fault, h⟩
    cases hfield : Field.ofName? c.field with
    | none => simp [clause, hfield] at h
    | some field =>
      cases field with
      | phrase target =>
        cases hnegates : c.operator.negates? <;> simp [clause, hfield, hnegates] at h
      | timestamp =>
        cases hbound : Bound.ofOperator? c.operator with
        | none => simp [clause, hfield, hbound] at h
        | some bound => exact hcomparison ⟨hfield, by simp [hbound]⟩

/-! ## Queries -/

/-- The leftmost condition of the query without a clause compares the timestamp with one that names
no instant. -/
def IsBeyond (z : Zone) (query : Text) : Prop :=
  Text.isBlankText query = false ∧ ∃ e before c after, parse query = .ok e ∧
    e.leaves = before ++ c :: after ∧ (∀ b ∈ before, ∃ clause, b.clause z = .ok clause) ∧
    c.IsBeyond z

/-- Compiling a query that has an expression is compiling the expression. -/
lemma compile_of_parse {z : Zone} {query : Text} {e : Expr Condition}
    (hblank : Text.isBlankText query = false) (hparse : parse query = .ok e) :
    compile z query = ((e.clauses z).mapError ClauseFault.toCompileFault).map Expr.text := by
  rw [compile, hblank, if_neg Bool.false_ne_true, hparse]
  change (e.clauses z).mapError _ >>= _ = _
  cases e.clauses z <;> rfl

lemma exists_compile_eq_range_iff {z : Zone} {query : Text} :
    (∃ fault, compile z query = .error (.range fault)) ↔ IsBeyond z query := by
  cases hblank : Text.isBlankText query with
  | true =>
    simp [compile, IsBeyond, hblank]
  | false =>
    cases hparse : parse query with
    | error fault =>
      have hcompile : compile z query = .error (.syntactic fault) := by
        rw [compile, hblank, hparse]
        rfl
      simp [hcompile, IsBeyond, hparse]
    | ok e =>
      have hclauses : (∃ fault, compile z query = .error (.range fault)) ↔
          ∃ fault, e.clauses z = .error (.range fault) := by
        rw [compile_of_parse hblank hparse]
        rcases e.clauses z with (fault | fault) | clauses <;>
          simp [Except.mapError, Except.map, ClauseFault.toCompileFault]
      rw [hclauses]
      constructor
      · rintro ⟨fault, h⟩
        obtain ⟨before, c, after, hleaves, hbefore, hc⟩ := Expr.traverse_eq_error_iff.1 h
        exact ⟨hblank, e, before, c, after, hparse, hleaves, hbefore,
          Condition.exists_clause_eq_range_iff.1 ⟨fault, hc⟩⟩
      · rintro ⟨-, e', before, c, after, he, hleaves, hbefore, hc⟩
        obtain rfl := Except.ok.inj (hparse.symm.trans he)
        obtain ⟨fault, hfault⟩ := Condition.exists_clause_eq_range_iff.2 hc
        exact ⟨fault, Expr.traverse_eq_error_iff.2 ⟨before, c, after, hleaves, hbefore, hfault⟩⟩

/-- **How compiling ends.**  Compiling a text, or no text at all, comes to a text or to a fault of
the query, unless the leftmost condition without a clause compares the timestamp with one that names
no instant. -/
theorem compile_ends (z : Zone) (query : Option Text) :
    let result := compile z (query.getD [])
    (∃ text, result = .ok text) ∨ (∃ fault, result = .error (.syntactic fault)) ∨
        (∃ fault, result = .error (.condition fault)) ↔ ¬ IsBeyond z (query.getD []) := by
  intro result
  rw [← exists_compile_eq_range_iff]
  change _ ↔ ¬ ∃ fault, result = .error (.range fault)
  rcases result with (fault | fault | fault) | text <;> simp

/-- The first day of all is a date of the calendar that names no instant, in universal time as
anywhere else: there is no day before it. -/
theorem compile_first_day :
    let result := compile ⟨0⟩ (question "timestamp" "0001-01-01")
    result = .error (.range (.year 0)) ∧
      ¬ ((∃ text, result = .ok text) ∨ (∃ fault, result = .error (.syntactic fault)) ∨
        ∃ fault, result = .error (.condition fault)) := by
  intro result
  have hblank : Text.isBlankText (question "timestamp" "0001-01-01") = false := rfl
  have hclauses : Expr.clauses ⟨0⟩ (.leaf ⟨"timestamp", .eq, "0001-01-01"⟩) =
      .error (.range (.year 0)) := rfl
  have hresult : result = .error (.range (.year 0)) := by
    refine (compile_of_parse hblank (parse_question (by simp [memberNames]) _)).trans ?_
    rw [hclauses]
    rfl
  refine ⟨hresult, ?_⟩
  simp [hresult]

end Query

end LogSearch
