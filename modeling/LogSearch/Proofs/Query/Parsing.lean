import LogSearch.Proofs.Query.Grammar

/-!
# The automaton reads the grammar

`parse` accepts a query exactly when its tokens have a derivation, and the expression that it
builds is the meaning of the derivation.  A step of the automaton that is not refused follows one
of eight rules (`State.Takes`), and both directions refer to the rules and not to the steps.

*Every derivation is read* (`isRead`).  Over the tokens of a derivation the automaton goes from
expecting a factor, or a connective, to expecting a connective, with the meaning of the
derivation taken in.  The stack below is as before; of the level only what has still to be used
is described, which is why the level at the end is existential.

*Everything read has a derivation* (`State.Read`).  A state is a stack of chains that wait for
their next member, so the tokens read so far fall into the derivations of the finished parts and
the connectives, NOTs and parentheses between them.  A step keeps this description
(`State.Read.step`); when the ending token is accepted nothing is waiting any more, and what is
left is one derivation of all tokens.

`parse_eq_ok_iff` puts the two together.
-/

namespace LogSearch.Query

/-! ## Steps of the automaton -/

namespace State

/-- The automaton takes in a token and goes from a state to another: one rule for each kind of token
that can stand there. -/
inductive Takes : State → Token → State → Prop where
  | negation {enclosing terms factors n t} (hkind : t.kind = .not) :
      Takes ⟨enclosing, ⟨terms, factors, n⟩, .factor⟩ t
        ⟨enclosing, ⟨terms, factors, n + 1⟩, .factor⟩
  | opening {enclosing level t} (hkind : t.kind = .leftParen) :
      Takes ⟨enclosing, level, .factor⟩ t ⟨level :: enclosing, .empty, .factor⟩
  | field {enclosing level t} (hkind : t.kind = .word) :
      Takes ⟨enclosing, level, .factor⟩ t ⟨enclosing, level, .operator (Text.lower t.text)⟩
  | operator {enclosing level field op t} (hkind : t.kind = .comparison op) :
      Takes ⟨enclosing, level, .operator field⟩ t ⟨enclosing, level, .value field op⟩
  | value {enclosing level field op t} (hkind : t.kind = .word ∨ t.kind = .quoted) :
      Takes ⟨enclosing, level, .value field op⟩ t
        ⟨enclosing, level, .connective (level.withFactor (.leaf ⟨field, op, t.text⟩))⟩
  | and {enclosing level term t} (hkind : t.kind = .and) :
      Takes ⟨enclosing, level, .connective term⟩ t
        ⟨enclosing, ⟨level.terms, some term, 0⟩, .factor⟩
  | or {enclosing level term t} (hkind : t.kind = .or) :
      Takes ⟨enclosing, level, .connective term⟩ t
        ⟨enclosing, ⟨some (level.close term), none, 0⟩, .factor⟩
  | closing {outer enclosing level term t} (hkind : t.kind = .rightParen) :
      Takes ⟨outer :: enclosing, level, .connective term⟩ t
        ⟨enclosing, outer, .connective (outer.withFactor (level.close term))⟩

variable {s s' : State} {t : Token} {ts us : List Token}

lemma Takes.step_eq (h : s.Takes t s') : s.step t = .ok s' := by
  cases h with
  | negation hkind => simp only [step, hkind]
  | opening hkind => simp only [step, hkind]
  | field hkind => simp only [step, hkind]
  | operator hkind => simp only [step, hkind]
  | value hkind => rcases hkind with hkind | hkind <;> simp only [step, hkind]
  | and hkind => simp only [step, hkind]
  | or hkind => simp only [step, hkind]
  | closing hkind => simp only [step, hkind]

/-- The rules are all that the automaton does. -/
lemma takes_of_step_eq (h : s.step t = .ok s') : s.Takes t s' := by
  obtain ⟨enclosing, level, expecting⟩ := s
  cases expecting with
  | factor =>
    simp only [step] at h
    split at h
    next hkind => exact Except.ok.inj h ▸ .negation hkind
    next hkind => exact Except.ok.inj h ▸ .opening hkind
    next hkind => exact Except.ok.inj h ▸ .field hkind
    next => cases h
  | operator field =>
    simp only [step] at h
    split at h
    next op hkind => exact Except.ok.inj h ▸ .operator hkind
    next => cases h
  | value field op =>
    simp only [step] at h
    split at h
    next hkind => exact Except.ok.inj h ▸ .value (.inl hkind)
    next hkind => exact Except.ok.inj h ▸ .value (.inr hkind)
    next => cases h
  | connective term =>
    simp only [step] at h
    split at h
    next hkind => exact Except.ok.inj h ▸ .and hkind
    next hkind => exact Except.ok.inj h ▸ .or hkind
    next hkind => exact Except.ok.inj h ▸ .closing hkind
    next => cases h

/-! ## Runs of the automaton -/

lemma run_cons (h : s.Takes t s') : s.run (t :: ts) = s'.run ts := by
  rw [run, h.step_eq]
  rfl

/-- The first step of a run that is not refused. -/
lemma exists_takes_of_run (h : s.run (t :: ts) = .ok s') :
    ∃ next, s.Takes t next ∧ next.run ts = .ok s' := by
  cases hstep : s.step t with
  | error fault =>
    rw [run, hstep] at h
    cases h
  | ok next =>
    have htakes : s.Takes t next := takes_of_step_eq hstep
    exact ⟨next, htakes, by rwa [run_cons htakes] at h⟩

lemma run_append (h : s.run ts = .ok s') : s.run (ts ++ us) = s'.run us := by
  induction ts generalizing s with
  | nil =>
    obtain rfl : s = s' := Except.ok.inj h
    rfl
  | cons t rest ih =>
    obtain ⟨next, htakes, hrest⟩ := exists_takes_of_run h
    rw [List.cons_append, run_cons htakes, ih hrest]

end State

/-! ## Every derivation is read -/

lemma Expr.negate_negation (e : Expr Condition) (n : Nat) :
    Expr.negate (.negation e) n = .negation (e.negate n) := by
  induction n with
  | zero => rfl
  | succ n ih => rw [Expr.negate, ih, Expr.negate]

/-- A NOT that waits is applied to the factor, innermost last. -/
lemma Level.withFactor_succ (terms factors : Option (Expr Condition)) (n : Nat)
    (e : Expr Condition) :
    Level.withFactor ⟨terms, factors, n + 1⟩ e =
      Level.withFactor ⟨terms, factors, n⟩ (.negation e) := by
  simp only [Level.withFactor, Expr.negate, Expr.negate_negation]

/-- The automaton reads a derivation: it takes in the tokens and is left with the meaning, in
front of a connective. -/
def Derivation.IsRead : {s : Symbol} → Derivation s → Prop
  | .factor, d => ∀ enclosing level, ∃ level', level'.terms = level.terms ∧
      State.run ⟨enclosing, level, .factor⟩ d.tokens =
        .ok ⟨enclosing, level', .connective (level.withFactor d.tree)⟩
  | .moreFactors, d => ∀ enclosing level before, ∃ level', level'.terms = level.terms ∧
      State.run ⟨enclosing, level, .connective before⟩ d.tokens =
        .ok ⟨enclosing, level', .connective (d.tree before)⟩
  | .term, d => ∀ enclosing terms, ∃ level', level'.terms = terms ∧
      State.run ⟨enclosing, ⟨terms, none, 0⟩, .factor⟩ d.tokens =
        .ok ⟨enclosing, level', .connective d.tree⟩
  | .moreTerms, d => ∀ enclosing level before, ∃ level' last,
      level'.close last = d.tree (level.close before) ∧
        State.run ⟨enclosing, level, .connective before⟩ d.tokens =
          .ok ⟨enclosing, level', .connective last⟩
  | .expression, d => ∀ enclosing, ∃ level' last, level'.close last = d.tree ∧
      State.run ⟨enclosing, .empty, .factor⟩ d.tokens =
        .ok ⟨enclosing, level', .connective last⟩

lemma Derivation.isRead {s : Symbol} (d : Derivation s) : d.IsRead := by
  induction d with
  | expression first more ihfirst ihmore =>
    intro enclosing
    obtain ⟨level₁, hterms, hfirst⟩ := ihfirst enclosing none
    obtain ⟨level₂, last, hclose, hmore⟩ := ihmore enclosing level₁ first.tree
    refine ⟨level₂, last, ?_, ?_⟩
    · rw [hclose, Level.close, hterms]
      rfl
    · rw [tokens_expression, Level.empty, State.run_append hfirst, hmore]
  | noTerms => exact fun enclosing level before => ⟨level, before, rfl, rfl⟩
  | orTerm sign hsign next more ihnext ihmore =>
    intro enclosing level before
    obtain ⟨level₁, hterms, hnext⟩ := ihnext enclosing (some (level.close before))
    obtain ⟨level₂, last, hclose, hmore⟩ := ihmore enclosing level₁ next.tree
    refine ⟨level₂, last, ?_, ?_⟩
    · rw [hclose, Level.close, hterms]
      rfl
    · rw [tokens_orTerm, State.run_cons (.or hsign), State.run_append hnext, hmore]
  | term first more ihfirst ihmore =>
    intro enclosing terms
    obtain ⟨level₁, hterms₁, hfirst⟩ := ihfirst enclosing ⟨terms, none, 0⟩
    obtain ⟨level₂, hterms₂, hmore⟩ := ihmore enclosing level₁ first.tree
    refine ⟨level₂, hterms₂.trans hterms₁, ?_⟩
    rw [tokens_term, State.run_append hfirst]
    exact hmore
  | noFactors => exact fun enclosing level before => ⟨level, rfl, rfl⟩
  | andFactor sign hsign next more ihnext ihmore =>
    intro enclosing level before
    obtain ⟨level₁, hterms₁, hnext⟩ := ihnext enclosing ⟨level.terms, some before, 0⟩
    obtain ⟨level₂, hterms₂, hmore⟩ := ihmore enclosing level₁ (.binary .and before next.tree)
    refine ⟨level₂, hterms₂.trans hterms₁, ?_⟩
    rw [tokens_andFactor, State.run_cons (.and hsign), State.run_append hnext]
    exact hmore
  | negation sign hsign child ih =>
    intro enclosing level
    obtain ⟨terms, factors, negations⟩ := level
    obtain ⟨level', hterms, hchild⟩ := ih enclosing ⟨terms, factors, negations + 1⟩
    refine ⟨level', hterms, ?_⟩
    rw [tokens_negation, State.run_cons (.negation hsign), hchild, Level.withFactor_succ]
    rfl
  | group left hleft inside right hright ih =>
    intro enclosing level
    obtain ⟨level₁, last, hclose, hinside⟩ := ih (level :: enclosing)
    refine ⟨level, rfl, ?_⟩
    rw [tokens_group, State.run_cons (.opening hleft), State.run_append hinside,
      State.run_cons (.closing hright), hclose]
    rfl
  | condition field sign value op hfield hsign hvalue =>
    intro enclosing level
    refine ⟨level, rfl, ?_⟩
    rw [tokens_condition, State.run_cons (.field hfield), State.run_cons (.operator hsign),
      State.run_cons (.value hvalue)]
    rfl

/-! ## Everything read has a derivation -/

/-- The tokens of an OR chain that waits for its next term: a finished expression and the OR
behind it, or nothing. -/
def TermsRead : Option (Expr Condition) → List Token → Prop
  | none, ts => ts = []
  | some e, ts => ∃ (d : Derivation .expression) (sign : Token),
      sign.kind = .or ∧ d.tree = e ∧ ts = d.tokens ++ [sign]

/-- The tokens of an AND chain that waits for its next factor. -/
def FactorsRead : Option (Expr Condition) → List Token → Prop
  | none, ts => ts = []
  | some e, ts => ∃ (d : Derivation .term) (sign : Token),
      sign.kind = .and ∧ d.tree = e ∧ ts = d.tokens ++ [sign]

/-- The tokens of a level that waits for a factor: those of its two chains, and its NOTs. -/
def Level.Read (l : Level) (ts : List Token) : Prop :=
  ∃ before chain signs, TermsRead l.terms before ∧ FactorsRead l.factors chain ∧
    signs.length = l.negations ∧ (∀ t ∈ signs, t.kind = .not) ∧ ts = before ++ chain ++ signs

/-- The tokens of the levels around the innermost one, each with its opening parenthesis. -/
def StackRead : List Level → List Token → Prop
  | [], ts => ts = []
  | l :: rest, ts => ∃ outer inner left, StackRead rest outer ∧ l.Read inner ∧
      left.kind = .leftParen ∧ ts = outer ++ inner ++ [left]

/-- The tokens read of the innermost level.  In front of a connective the NOTs are used up and
the AND chain is complete. -/
def Expecting.Read (l : Level) : Expecting → List Token → Prop
  | .factor, ts => l.Read ts
  | .operator field, ts => ∃ before word, l.Read before ∧ word.kind = .word ∧
      Text.lower word.text = field ∧ ts = before ++ [word]
  | .value field op, ts => ∃ before word sign, l.Read before ∧ word.kind = .word ∧
      Text.lower word.text = field ∧ sign.kind = .comparison op ∧ ts = before ++ [word, sign]
  | .connective term, ts => ∃ before, ∃ d : Derivation .term, TermsRead l.terms before ∧
      d.tree = term ∧ ts = before ++ d.tokens

/-- The tokens that bring the automaton into a state. -/
def State.Read (s : State) (ts : List Token) : Prop :=
  ∃ outer inner, StackRead s.enclosing outer ∧ s.expecting.Read s.level inner ∧
    ts = outer ++ inner

/-- A factor completes the AND chain of its level. -/
lemma Level.Read.withFactor {l : Level} {ts : List Token} (h : l.Read ts)
    (f : Derivation .factor) :
    (Expecting.connective (l.withFactor f.tree)).Read l (ts ++ f.tokens) := by
  obtain ⟨before, chain, signs, hbefore, hchain, hlength, hsigns, rfl⟩ := h
  obtain ⟨f', htokens, htree⟩ := Derivation.exists_factor_negate f signs hsigns
  rw [hlength] at htree
  cases hfactors : l.factors with
  | none =>
    rw [hfactors] at hchain
    obtain rfl : chain = [] := hchain
    refine ⟨before, .term f' .noFactors, hbefore, ?_, ?_⟩
    · rw [Level.withFactor, hfactors]
      exact htree
    · simp [htokens]
  | some e =>
    rw [hfactors] at hchain
    obtain ⟨d, sign, hsign, rfl, rfl⟩ := hchain
    obtain ⟨d', htokens', htree'⟩ := Derivation.exists_term_and hsign d f'
    refine ⟨before, d', hbefore, ?_, ?_⟩
    · rw [Level.withFactor, hfactors, htree', htree]
      rfl
    · simp [htokens', htokens]

/-- A term completes the OR chain of its level. -/
lemma TermsRead.close {l : Level} {before : List Token} (h : TermsRead l.terms before)
    (d : Derivation .term) :
    ∃ e : Derivation .expression, e.tokens = before ++ d.tokens ∧ e.tree = l.close d.tree := by
  cases hterms : l.terms with
  | none =>
    rw [hterms] at h
    obtain rfl : before = [] := h
    refine ⟨.expression d .noTerms, by simp, ?_⟩
    rw [Level.close, hterms]
    rfl
  | some e₀ =>
    rw [hterms] at h
    obtain ⟨e, sign, hsign, rfl, rfl⟩ := h
    obtain ⟨e', htokens, htree⟩ := Derivation.exists_expression_or hsign e d
    refine ⟨e', by simp [htokens], ?_⟩
    rw [Level.close, hterms, htree]
    rfl

/-- The step: a token that is taken in belongs to what has been read. -/
lemma State.Read.step {s s' : State} {t : Token} {ts : List Token} (h : s.Read ts)
    (htakes : s.Takes t s') : s'.Read (ts ++ [t]) := by
  obtain ⟨outer, inner, houter, hinner, rfl⟩ := h
  cases htakes with
  | negation hkind =>
    obtain ⟨before, chain, signs, hbefore, hchain, hlength, hsigns, rfl⟩ := hinner
    refine ⟨outer, before ++ chain ++ (signs ++ [t]), houter,
      ⟨before, chain, signs ++ [t], hbefore, hchain, ?_, ?_, rfl⟩, by simp⟩
    · rw [List.length_append, hlength]
      rfl
    · simpa [or_imp, forall_and, hkind] using hsigns
  | opening hkind =>
    -- a level of its own, of which nothing has been read
    refine ⟨outer ++ inner ++ [t], [], ⟨outer, inner, t, houter, hinner, hkind, rfl⟩,
      ⟨[], [], [], rfl, rfl, rfl, by simp, rfl⟩, by simp⟩
  | field hkind =>
    exact ⟨outer, inner ++ [t], houter, ⟨inner, t, hinner, hkind, rfl, rfl⟩, by simp⟩
  | operator hkind =>
    obtain ⟨before, word, hbefore, hword, hlower, rfl⟩ := hinner
    exact ⟨outer, before ++ [word, t], houter,
      ⟨before, word, t, hbefore, hword, hlower, hkind, rfl⟩, by simp⟩
  | value hkind =>
    obtain ⟨before, word, sign, hbefore, hword, rfl, hsign, rfl⟩ := hinner
    refine ⟨outer, before ++ [word, sign, t], houter, ?_, by simp⟩
    exact hbefore.withFactor (.condition word sign t _ hword hsign hkind)
  | and hkind =>
    -- the term so far waits for its next factor
    obtain ⟨before, d, hbefore, rfl, rfl⟩ := hinner
    exact ⟨outer, before ++ (d.tokens ++ [t]), houter,
      ⟨before, d.tokens ++ [t], [], hbefore, ⟨d, t, hkind, rfl, rfl⟩, rfl, by simp, by simp⟩,
      by simp⟩
  | or hkind =>
    -- the term ends, and the expression so far waits for its next term
    obtain ⟨before, d, hbefore, rfl, rfl⟩ := hinner
    obtain ⟨e, htokens, htree⟩ := hbefore.close d
    exact ⟨outer, e.tokens ++ [t], houter,
      ⟨e.tokens ++ [t], [], [], ⟨e, t, hkind, htree, rfl⟩, rfl, rfl, by simp, by simp⟩,
      by simp [htokens]⟩
  | closing hkind =>
    -- the level is one factor of the level around it
    obtain ⟨before, d, hbefore, rfl, rfl⟩ := hinner
    obtain ⟨e, htokens, htree⟩ := hbefore.close d
    obtain ⟨outer', inner', left, houter', hinner', hleft, rfl⟩ := houter
    refine ⟨outer', inner' ++ (left :: (e.tokens ++ [t])), houter', ?_, by simp [htokens]⟩
    rw [← htree]
    exact hinner'.withFactor (.group left hleft e t hkind)

/-- The run: what the automaton has read is described by its state. -/
lemma State.Read.run {ts : List Token} :
    ∀ {s s' : State} {before : List Token}, s.Read before → s.run ts = .ok s' →
      s'.Read (before ++ ts) := by
  induction ts with
  | nil =>
    intro s s' before h hrun
    obtain rfl : s = s' := Except.ok.inj hrun
    simpa using h
  | cons t rest ih =>
    intro s s' before h hrun
    obtain ⟨next, htakes, hrest⟩ := State.exists_takes_of_run hrun
    simpa using ih (h.step htakes) hrest

lemma State.initial_read : State.initial.Read [] :=
  ⟨[], [], rfl, ⟨[], [], [], rfl, rfl, rfl, by simp, rfl⟩, rfl⟩

/-- Where the automaton accepts the end, all tokens have one derivation. -/
lemma State.Read.finish {s : State} {t : Token} {ts : List Token} {e : Expr Condition}
    (h : s.Read ts) (hfinish : s.finish t = .ok e) :
    ∃ d : Derivation .expression, d.tokens = ts ∧ d.tree = e := by
  obtain ⟨enclosing, level, expecting⟩ := s
  obtain ⟨outer, inner, houter, hinner, rfl⟩ := h
  rw [State.finish] at hfinish
  split at hfinish
  case h_4 term hexpecting henclosing =>
    simp only at hexpecting henclosing
    subst hexpecting henclosing
    obtain ⟨before, d, hbefore, rfl, rfl⟩ := hinner
    obtain ⟨e', htokens, htree⟩ := hbefore.close d
    obtain rfl : outer = [] := houter
    exact ⟨e', by simp [htokens], htree.trans (Except.ok.inj hfinish)⟩
  all_goals cases hfinish

/-! ## Parsing -/

/-- A query that is read to its end is read as the meaning of a derivation of its tokens. -/
lemma parse_eq_ok_iff {query : Text} {e : Expr Condition} :
    parse query = .ok e ↔ ∃ (last : Token) (d : Derivation .expression),
      (tokens query).ending = .ok last ∧ d.tokens = (tokens query).tokens ∧ d.tree = e := by
  constructor
  · intro h
    cases hrun : State.initial.run (tokens query).tokens with
    | error fault =>
      rw [parse, hrun] at h
      cases h
    | ok s =>
      cases hending : (tokens query).ending with
      | error fault =>
        rw [parse, hrun, hending] at h
        cases h
      | ok last =>
        rw [parse, hrun, hending] at h
        obtain ⟨d, htokens, htree⟩ := (State.initial_read.run hrun).finish h
        exact ⟨last, d, rfl, htokens, htree⟩
  · rintro ⟨last, d, hending, htokens, rfl⟩
    obtain ⟨level, term, hclose, hrun⟩ := d.isRead []
    rw [htokens] at hrun
    rw [parse, State.initial, hrun, hending]
    exact congrArg Except.ok hclose

/-- **The parser accepts exactly the grammar and builds its tree.**  A query has a parse exactly
when it is free of lexical faults and its tokens have a derivation, which is then the only one;
the parse is the meaning of the derivation.  Every other query has a syntax fault. -/
theorem parse_accepts_grammar (query : Text) :
    (∀ e, parse query = .ok e ↔ ∃ (last : Token) (d : Derivation .expression),
      (tokens query).ending = .ok last ∧ d.tokens = (tokens query).tokens ∧ d.tree = e) ∧
    (∀ d d' : Derivation .expression, d.tokens = (tokens query).tokens →
      d'.tokens = (tokens query).tokens → d = d') ∧
    ((¬ ∃ (last : Token) (d : Derivation .expression),
      (tokens query).ending = .ok last ∧ d.tokens = (tokens query).tokens) →
        ∃ fault : SyntaxFault, parse query = .error fault) := by
  refine ⟨fun e => parse_eq_ok_iff, ?_, ?_⟩
  · intro d d' hd hd'
    exact Derivation.tokens_injective (hd.trans hd'.symm)
  · intro hno
    cases h : parse query with
    | error fault => exact ⟨fault, rfl⟩
    | ok e =>
      obtain ⟨last, d, hending, htokens, -⟩ := parse_eq_ok_iff.1 h
      exact absurd ⟨last, d, hending, htokens⟩ hno

end LogSearch.Query
