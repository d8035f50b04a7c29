import LogSearch.Proofs.Query.Faults

/-!
# Which expressions have a translation

An expression is translated by translating its conditions, from left to right, and the first
condition without a clause decides the fault.  It does not matter where the condition stands in the
tree, how often it is negated, or whether the expression is written as a whole or inside another
one.  Nothing is left out of a translation: the expression that is written has a clause for each of
the conditions, in their places (`Expr.forall₂_leaves_of_traverse`).

Which conditions have a clause is a matter of the condition alone.  On the fields that hold text
four operators are defined, with any value.  The timestamp has five, and its value has to name an
instant.
-/

namespace LogSearch.Query

/-! ## Going through an expression -/

namespace Expr

variable {α β ε : Type} {f : α → Except ε β} {e : Expr α}

lemma exists_traverse_eq_ok_iff :
    (∃ e', e.traverse f = .ok e') ↔ ∀ c ∈ e.leaves, ∃ result, f c = .ok result := by
  rw [← Except.fault?_eq_none_iff, fault?_traverse, List.findSome?_eq_none_iff]
  exact forall₂_congr fun c _ => Except.fault?_eq_none_iff

/-- No leaf is left out. -/
lemma forall₂_leaves_of_traverse {e' : Expr β} (h : e.traverse f = .ok e') :
    List.Forall₂ (fun c result => f c = .ok result) e.leaves e'.leaves := by
  induction e generalizing e' with
  | leaf c =>
    obtain ⟨result, hresult, h⟩ := Except.bind_eq_ok_iff.1 h
    obtain rfl := Except.pure_eq_ok_iff.1 h
    exact .cons hresult .nil
  | negation child ih =>
    obtain ⟨child', hchild, h⟩ := Except.bind_eq_ok_iff.1 h
    obtain rfl := Except.pure_eq_ok_iff.1 h
    have hleaves := ih hchild
    exact hleaves
  | binary op left right ihl ihr =>
    obtain ⟨left', hleft, h⟩ := Except.bind_eq_ok_iff.1 h
    obtain ⟨right', hright, h⟩ := Except.bind_eq_ok_iff.1 h
    obtain rfl := Except.pure_eq_ok_iff.1 h
    exact List.rel_append (ihl hleft) (ihr hright)

end Expr

/-! ## Conditions -/

/-- The names of the fields that hold text. -/
def textFields : List Text := ["level", "message", "text", "raw", "source"]

/-- A condition on text: the phrase has to be there, or it must not. -/
def Condition.IsPhrase (c : Condition) : Prop :=
  c.field ∈ textFields ∧ c.operator ∈ [.eq, .neq, .contains, .notContains]

/-- A comparison of the timestamp with an instant. -/
def Condition.IsComparison (z : Zone) (c : Condition) : Prop :=
  c.field = "timestamp".toList ∧ c.operator ∈ [.eq, .gt, .gte, .lt, .lte] ∧
    ∃ moment, Instant.read? z c.value = .ok (some moment)

lemma Field.exists_ofName?_eq_phrase_iff {name : Text} :
    (∃ target, ofName? name = some (.phrase target)) ↔ name ∈ textFields := by
  constructor
  · rintro ⟨target, h⟩
    rw [ofName?] at h
    repeat' split at h
    all_goals simp_all [textFields]
  · intro h
    simp only [textFields, List.mem_cons, List.not_mem_nil, or_false] at h
    rcases h with rfl | rfl | rfl | rfl | rfl <;> exact ⟨_, rfl⟩

lemma Field.ofName?_eq_timestamp_iff {name : Text} :
    ofName? name = some .timestamp ↔ name = "timestamp".toList := by
  constructor
  · intro h
    rw [ofName?] at h
    repeat' split at h
    all_goals simp_all
  · rintro rfl
    rfl

lemma Operator.exists_negates?_iff {op : Operator} :
    (∃ negated, op.negates? = some negated) ↔ op ∈ [.eq, .neq, .contains, .notContains] := by
  cases op <;> simp [negates?]

lemma Bound.exists_ofOperator?_iff {op : Operator} :
    (∃ bound, ofOperator? op = some bound) ↔ op ∈ [.eq, .gt, .gte, .lt, .lte] := by
  cases op <;> simp [ofOperator?]

lemma Condition.exists_clause_iff {z : Zone} {c : Condition} :
    (∃ clause, c.clause z = .ok clause) ↔ c.IsPhrase ∨ c.IsComparison z := by
  rw [IsPhrase, IsComparison, ← Field.exists_ofName?_eq_phrase_iff,
    ← Field.ofName?_eq_timestamp_iff, ← Operator.exists_negates?_iff,
    ← Bound.exists_ofOperator?_iff]
  cases hfield : Field.ofName? c.field with
  | none => simp [clause, hfield]
  | some field =>
    cases field with
    | phrase target =>
      cases hnegates : c.operator.negates? <;> simp [clause, hfield, hnegates]
    | timestamp =>
      cases hbound : Bound.ofOperator? c.operator with
      | none => simp [clause, hfield, hbound]
      | some bound =>
        by_cases hblank : Text.isBlankText c.value
        · simp [clause, hfield, hbound, hblank, Instant.read?_of_isBlankText hblank]
        · rcases hread : Instant.read? z c.value with fault | (_ | moment) <;>
            simp [clause, hfield, hbound, hblank, hread]

/-- A condition is refused by the name of its own field. -/
lemma Condition.field_of_clause_eq {z : Zone} {c : Condition} {fault : ConditionFault}
    (h : c.clause z = .error (.condition fault)) : fault.field = c.field := by
  rw [clause] at h
  repeat' split at h
  all_goals cases h
  all_goals rfl

/-! ## Translations -/

/-- **A translation fails with the fault of the leftmost condition that fails.**  An expression has
a translation, as a whole or inside another expression, exactly when each of its conditions has a
clause, and these are the clauses that are written.  Otherwise there is no text but a fault, the
fault of the leftmost condition that has none.  A condition has a clause exactly if it asks for a
phrase on text or compares the timestamp with an instant; where it is refused, the fault names its
field. -/
theorem translation_fails_leftmost (z : Zone) (e : Expr Condition) :
    let root := (e.clauses z).map Expr.text
    let nested := (e.clauses z).map Expr.nested
    ((∃ text, root = .ok text) ↔ ∀ c ∈ e.leaves, ∃ clause, c.clause z = .ok clause) ∧
    (∀ text, root = .ok text → ∃ written : Expr Clause, text = written.text ∧
      List.Forall₂ (fun c clause => c.clause z = .ok clause) e.leaves written.leaves) ∧
    (∀ fault, root = .error fault ↔ ∃ before c after, e.leaves = before ++ c :: after ∧
      (∀ b ∈ before, ∃ clause, b.clause z = .ok clause) ∧ c.clause z = .error fault) ∧
    ((∃ text, nested = .ok text) ↔ ∃ text, root = .ok text) ∧
    (∀ fault, nested = .error fault ↔ root = .error fault) ∧
    ∀ c : Condition, ((∃ clause, c.clause z = .ok clause) ↔ c.IsPhrase ∨ c.IsComparison z) ∧
      ∀ fault, c.clause z = .error (.condition fault) → fault.field = c.field := by
  intro root nested
  have hok : ∀ g : Expr Clause → Text,
      (∃ text, (e.clauses z).map g = .ok text) ↔ ∃ e', e.clauses z = .ok e' := by
    intro g
    cases e.clauses z <;> simp [Except.map]
  have herror : ∀ (g : Expr Clause → Text) (fault : ClauseFault),
      (e.clauses z).map g = .error fault ↔ e.clauses z = .error fault := by
    intro g fault
    cases e.clauses z <;> simp [Except.map]
  refine ⟨(hok _).trans Expr.exists_traverse_eq_ok_iff, ?_, ?_, (hok _).trans (hok _).symm, ?_, ?_⟩
  · intro text htext
    obtain ⟨written, hwritten⟩ := (hok _).1 ⟨text, htext⟩
    have hroot : root = .ok written.text := by simp [root, hwritten, Except.map]
    exact ⟨written, Except.ok.inj (htext.symm.trans hroot),
      Expr.forall₂_leaves_of_traverse hwritten⟩
  · exact fun fault => (herror _ fault).trans Expr.traverse_eq_error_iff
  · exact fun fault => (herror _ fault).trans (herror _ fault).symm
  · exact fun c => ⟨Condition.exists_clause_iff, fun fault => Condition.field_of_clause_eq⟩

end LogSearch.Query
