import LogSearch.Query.Automaton
import Mathlib.Tactic.Lemma

/-!
# The grammar of queries

The grammar is written down here as it is documented, apart from the automaton that reads it:

* expression := term (OR term)*
* term := factor (AND factor)*
* factor := NOT factor | ( expression ) | condition
* condition := word comparison (word | quoted text)

A `Derivation` is a parse tree of this grammar with its tokens at the leaves.  It has a symbol
for each of the two repetitions, so that a chain is a list that grows to the right, as the
grammar has it.  `Derivation.tokens` is the sentence that a derivation derives and
`Derivation.tree` the expression that the sentence means.  The tree of a chain nests to the left:
the derivation of a repetition means a function from the expression before it.

`Derivation.tokens_injective` says that the grammar is unambiguous.  Its proof compares two
derivations from the left.  What lets a repetition end at the same place in both is that no
token that may follow it begins another round of it (`EndsTerm`, `EndsExpression`).
-/

namespace LogSearch.Query

/-- The symbols of the grammar.  `moreTerms` and `moreFactors` are the two repetitions. -/
inductive Symbol where
  | expression | moreTerms | term | moreFactors | factor
deriving DecidableEq, Repr

/-- The parse trees below a symbol. -/
inductive Derivation : Symbol → Type where
  | expression (first : Derivation .term) (more : Derivation .moreTerms) : Derivation .expression
  | noTerms : Derivation .moreTerms
  | orTerm (sign : Token) (hsign : sign.kind = .or) (next : Derivation .term)
      (more : Derivation .moreTerms) : Derivation .moreTerms
  | term (first : Derivation .factor) (more : Derivation .moreFactors) : Derivation .term
  | noFactors : Derivation .moreFactors
  | andFactor (sign : Token) (hsign : sign.kind = .and) (next : Derivation .factor)
      (more : Derivation .moreFactors) : Derivation .moreFactors
  | negation (sign : Token) (hsign : sign.kind = .not) (child : Derivation .factor) :
      Derivation .factor
  | group (left : Token) (hleft : left.kind = .leftParen) (inside : Derivation .expression)
      (right : Token) (hright : right.kind = .rightParen) : Derivation .factor
  | condition (field sign value : Token) (op : Operator) (hfield : field.kind = .word)
      (hsign : sign.kind = .comparison op) (hvalue : value.kind = .word ∨ value.kind = .quoted) :
      Derivation .factor

/-- What a derivation from a symbol means: an expression, or, for a repetition, what it makes of
the expression before it. -/
abbrev Symbol.Meaning : Symbol → Type
  | .moreTerms | .moreFactors => Expr Condition → Expr Condition
  | .expression | .term | .factor => Expr Condition

namespace Derivation

/-- The tokens that a derivation derives, from left to right. -/
def tokens : {s : Symbol} → Derivation s → List Token
  | _, .expression first more => first.tokens ++ more.tokens
  | _, .noTerms => []
  | _, .orTerm sign _ next more => sign :: (next.tokens ++ more.tokens)
  | _, .term first more => first.tokens ++ more.tokens
  | _, .noFactors => []
  | _, .andFactor sign _ next more => sign :: (next.tokens ++ more.tokens)
  | _, .negation sign _ child => sign :: child.tokens
  | _, .group left _ inside right _ => left :: (inside.tokens ++ [right])
  | _, .condition field sign value _ _ _ _ => [field, sign, value]

/-- The meaning of a derivation.  Parentheses leave nothing behind, the field of a condition is
its word in lower case, and the value is the text of its token. -/
def tree : {s : Symbol} → Derivation s → s.Meaning
  | _, .expression first more => more.tree first.tree
  | _, .noTerms => fun before => before
  | _, .orTerm _ _ next more => fun before => more.tree (.binary .or before next.tree)
  | _, .term first more => more.tree first.tree
  | _, .noFactors => fun before => before
  | _, .andFactor _ _ next more => fun before => more.tree (.binary .and before next.tree)
  | _, .negation _ _ child => Expr.negation child.tree
  | _, .group _ _ inside _ _ => inside.tree
  | _, .condition field _ value op _ _ _ => Expr.leaf ⟨Text.lower field.text, op, value.text⟩

section tokens

variable (sign : Token) (first : Derivation .factor) (next : Derivation .term)
  (moreFactors : Derivation .moreFactors) (moreTerms : Derivation .moreTerms)

@[simp] lemma tokens_expression :
    (expression next moreTerms).tokens = next.tokens ++ moreTerms.tokens := rfl

@[simp] lemma tokens_noTerms : noTerms.tokens = [] := rfl

@[simp] lemma tokens_orTerm (hsign : sign.kind = .or) :
    (orTerm sign hsign next moreTerms).tokens = sign :: (next.tokens ++ moreTerms.tokens) := rfl

@[simp] lemma tokens_term :
    (term first moreFactors).tokens = first.tokens ++ moreFactors.tokens := rfl

@[simp] lemma tokens_noFactors : noFactors.tokens = [] := rfl

@[simp] lemma tokens_andFactor (hsign : sign.kind = .and) :
    (andFactor sign hsign first moreFactors).tokens =
      sign :: (first.tokens ++ moreFactors.tokens) := rfl

@[simp] lemma tokens_negation (hsign : sign.kind = .not) :
    (negation sign hsign first).tokens = sign :: first.tokens := rfl

@[simp] lemma tokens_group (left right : Token) (hleft : left.kind = .leftParen)
    (inside : Derivation .expression) (hright : right.kind = .rightParen) :
    (group left hleft inside right hright).tokens = left :: (inside.tokens ++ [right]) := rfl

@[simp] lemma tokens_condition (field value : Token) (op : Operator) (hfield : field.kind = .word)
    (hsign : sign.kind = .comparison op) (hvalue : value.kind = .word ∨ value.kind = .quoted) :
    (condition field sign value op hfield hsign hvalue).tokens = [field, sign, value] := rfl

end tokens

end Derivation

/-! ## Unambiguity -/

/-- No token that continues a term comes first. -/
def EndsTerm (rest : List Token) : Prop := ∀ t ∈ rest.head?, t.kind ≠ .and

/-- No token that continues an expression comes first. -/
def EndsExpression (rest : List Token) : Prop := ∀ t ∈ rest.head?, t.kind ≠ .and ∧ t.kind ≠ .or

/-- What may follow a derivation from the symbol, for its end to be where it is. -/
def Symbol.Ends : Symbol → List Token → Prop
  | .expression, rest | .moreTerms, rest => EndsExpression rest
  | .term, rest | .moreFactors, rest => EndsTerm rest
  | .factor, _ => True

namespace Derivation

/-- A term ends where the next round of its expression begins, or the expression ends. -/
lemma endsTerm_moreTerms (more : Derivation .moreTerms) {rest : List Token}
    (hrest : EndsExpression rest) : EndsTerm (more.tokens ++ rest) := by
  cases more with
  | noTerms => exact fun t ht => (hrest t ht).1
  | orTerm sign hsign next more =>
    intro t ht
    obtain rfl : sign = t := by simpa using ht
    simp [hsign]

/-- An expression in parentheses ends before the closing one. -/
lemma endsExpression_rightParen {right : Token} (hright : right.kind = .rightParen)
    (rest : List Token) : EndsExpression (right :: rest) := by
  intro t ht
  obtain rfl : right = t := by simpa using ht
  simp [hright]

/-- A derivation is determined by any sequence of tokens that begins with its own, if what
follows cannot continue it. -/
lemma eq_of_tokens_append {s : Symbol} (d : Derivation s) :
    ∀ (d' : Derivation s) {rest rest' : List Token}, s.Ends rest → s.Ends rest' →
      d.tokens ++ rest = d'.tokens ++ rest' → d = d' ∧ rest = rest' := by
  induction d with
  | expression first more ihfirst ihmore =>
    intro d' rest rest' hrest hrest' h
    cases d' with
    | expression first' more' =>
      simp only [tokens_expression, List.append_assoc] at h
      obtain ⟨rfl, htail⟩ := ihfirst first' (endsTerm_moreTerms more hrest)
        (endsTerm_moreTerms more' hrest') h
      obtain ⟨rfl, hend⟩ := ihmore more' hrest hrest' htail
      exact ⟨rfl, hend⟩
  | noTerms =>
    intro d' rest rest' hrest _ h
    cases d' with
    | noTerms => exact ⟨rfl, h⟩
    | orTerm sign' hsign' _ _ =>
      -- what follows the shorter repetition would begin with an OR
      obtain rfl : rest = _ := h
      exact absurd hsign' (hrest sign' rfl).2
  | orTerm sign hsign next more ihnext ihmore =>
    intro d' rest rest' hrest hrest' h
    cases d' with
    | noTerms =>
      obtain rfl : _ = rest' := h
      exact absurd hsign (hrest' sign rfl).2
    | orTerm sign' hsign' next' more' =>
      simp only [tokens_orTerm, List.cons_append, List.append_assoc, List.cons.injEq] at h
      obtain ⟨rfl, h⟩ := h
      obtain ⟨rfl, htail⟩ := ihnext next' (endsTerm_moreTerms more hrest)
        (endsTerm_moreTerms more' hrest') h
      obtain ⟨rfl, hend⟩ := ihmore more' hrest hrest' htail
      exact ⟨rfl, hend⟩
  | term first more ihfirst ihmore =>
    intro d' rest rest' hrest hrest' h
    cases d' with
    | term first' more' =>
      simp only [tokens_term, List.append_assoc] at h
      obtain ⟨rfl, htail⟩ := ihfirst first' trivial trivial h
      obtain ⟨rfl, hend⟩ := ihmore more' hrest hrest' htail
      exact ⟨rfl, hend⟩
  | noFactors =>
    intro d' rest rest' hrest _ h
    cases d' with
    | noFactors => exact ⟨rfl, h⟩
    | andFactor sign' hsign' _ _ =>
      obtain rfl : rest = _ := h
      exact absurd hsign' (hrest sign' rfl)
  | andFactor sign hsign next more ihnext ihmore =>
    intro d' rest rest' hrest hrest' h
    cases d' with
    | noFactors =>
      obtain rfl : _ = rest' := h
      exact absurd hsign (hrest' sign rfl)
    | andFactor sign' hsign' next' more' =>
      simp only [tokens_andFactor, List.cons_append, List.append_assoc, List.cons.injEq] at h
      obtain ⟨rfl, h⟩ := h
      obtain ⟨rfl, htail⟩ := ihnext next' trivial trivial h
      obtain ⟨rfl, hend⟩ := ihmore more' hrest hrest' htail
      exact ⟨rfl, hend⟩
  | negation sign hsign child ih =>
    intro d' rest rest' _ _ h
    cases d' with
    | negation sign' hsign' child' =>
      simp only [tokens_negation, List.cons_append, List.cons.injEq] at h
      obtain ⟨rfl, h⟩ := h
      obtain ⟨rfl, hend⟩ := ih child' trivial trivial h
      exact ⟨rfl, hend⟩
    | group left' hleft' =>
      obtain ⟨rfl, -⟩ := List.cons.inj h
      simp [hsign] at hleft'
    | condition field' _ _ _ hfield' =>
      obtain ⟨rfl, -⟩ := List.cons.inj h
      simp [hsign] at hfield'
  | group left hleft inside right hright ih =>
    intro d' rest rest' _ _ h
    cases d' with
    | negation sign' hsign' =>
      obtain ⟨rfl, -⟩ := List.cons.inj h
      simp [hleft] at hsign'
    | group left' hleft' inside' right' hright' =>
      simp only [tokens_group, List.cons_append, List.append_assoc, List.nil_append,
        List.cons.injEq] at h
      obtain ⟨rfl, h⟩ := h
      obtain ⟨rfl, htail⟩ := ih inside' (endsExpression_rightParen hright rest)
        (endsExpression_rightParen hright' rest') h
      obtain ⟨rfl, rfl⟩ := List.cons.inj htail
      exact ⟨rfl, rfl⟩
    | condition field' _ _ _ hfield' =>
      obtain ⟨rfl, -⟩ := List.cons.inj h
      simp [hleft] at hfield'
  | condition field sign value op hfield hsign hvalue =>
    intro d' rest rest' _ _ h
    cases d' with
    | negation sign' hsign' =>
      obtain ⟨rfl, -⟩ := List.cons.inj h
      simp [hfield] at hsign'
    | group left' hleft' =>
      obtain ⟨rfl, -⟩ := List.cons.inj h
      simp [hfield] at hleft'
    | condition field' sign' value' op' _ hsign' _ =>
      simp only [tokens_condition, List.cons_append, List.nil_append, List.cons.injEq] at h
      obtain ⟨rfl, rfl, rfl, h⟩ := h
      obtain rfl : op = op' := by simpa [hsign] using hsign'
      exact ⟨rfl, h⟩

/-- **The grammar is unambiguous**: a sequence of tokens has at most one derivation. -/
lemma tokens_injective {d d' : Derivation .expression} (h : d.tokens = d'.tokens) : d = d' := by
  have hends : EndsExpression [] := by simp [EndsExpression]
  exact (eq_of_tokens_append d d' hends hends (by rw [h])).1

/-! ## Chains that grow at the end -/

lemma exists_moreFactors_snoc {sign : Token} (hsign : sign.kind = .and) (f : Derivation .factor) :
    ∀ more : Derivation .moreFactors, ∃ more' : Derivation .moreFactors,
      more'.tokens = more.tokens ++ sign :: f.tokens ∧
        ∀ before, more'.tree before = .binary .and (more.tree before) f.tree
  | .noFactors => ⟨.andFactor sign hsign f .noFactors, by simp, fun _ => rfl⟩
  | .andFactor sign₀ hsign₀ next more => by
      obtain ⟨more', htokens, htree⟩ := exists_moreFactors_snoc hsign f more
      refine ⟨.andFactor sign₀ hsign₀ next more', ?_, fun before => htree _⟩
      simp only [tokens_andFactor, htokens, List.cons_append, List.append_assoc]

lemma exists_moreTerms_snoc {sign : Token} (hsign : sign.kind = .or) (d : Derivation .term) :
    ∀ more : Derivation .moreTerms, ∃ more' : Derivation .moreTerms,
      more'.tokens = more.tokens ++ sign :: d.tokens ∧
        ∀ before, more'.tree before = .binary .or (more.tree before) d.tree
  | .noTerms => ⟨.orTerm sign hsign d .noTerms, by simp, fun _ => rfl⟩
  | .orTerm sign₀ hsign₀ next more => by
      obtain ⟨more', htokens, htree⟩ := exists_moreTerms_snoc hsign d more
      refine ⟨.orTerm sign₀ hsign₀ next more', ?_, fun before => htree _⟩
      simp only [tokens_orTerm, htokens, List.cons_append, List.append_assoc]

lemma exists_term_and {sign : Token} (hsign : sign.kind = .and) (d : Derivation .term)
    (f : Derivation .factor) :
    ∃ d' : Derivation .term, d'.tokens = d.tokens ++ sign :: f.tokens ∧
      d'.tree = .binary .and d.tree f.tree := by
  cases d with
  | term first more =>
    obtain ⟨more', htokens, htree⟩ := exists_moreFactors_snoc hsign f more
    refine ⟨.term first more', ?_, htree _⟩
    simp only [tokens_term, htokens, List.append_assoc]

lemma exists_expression_or {sign : Token} (hsign : sign.kind = .or) (e : Derivation .expression)
    (d : Derivation .term) :
    ∃ e' : Derivation .expression, e'.tokens = e.tokens ++ sign :: d.tokens ∧
      e'.tree = .binary .or e.tree d.tree := by
  cases e with
  | expression first more =>
    obtain ⟨more', htokens, htree⟩ := exists_moreTerms_snoc hsign d more
    refine ⟨.expression first more', ?_, htree _⟩
    simp only [tokens_expression, htokens, List.append_assoc]

/-- A factor behind a run of NOTs. -/
lemma exists_factor_negate (f : Derivation .factor) :
    ∀ signs : List Token, (∀ t ∈ signs, t.kind = .not) →
      ∃ f' : Derivation .factor, f'.tokens = signs ++ f.tokens ∧
        f'.tree = Expr.negate f.tree signs.length
  | [], _ => ⟨f, rfl, rfl⟩
  | sign :: rest, h => by
      obtain ⟨f', htokens, htree⟩ :=
        exists_factor_negate f rest fun t ht => h t (List.mem_cons_of_mem _ ht)
      refine ⟨.negation sign (h sign (List.mem_cons_self ..)) f', ?_,
        congrArg Expr.negation htree⟩
      rw [tokens_negation, htokens, List.cons_append]

end Derivation

end LogSearch.Query
