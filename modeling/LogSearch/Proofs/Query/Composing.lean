import LogSearch.Proofs.Query.Faults
import LogSearch.Proofs.Query.Parsing
import LogSearch.Proofs.Query.Spelling

/-!
# Queries put together as text

A query that parses can be put in parentheses, negated, and joined with another one, and what comes
out parses to the tree that this says (`parse_composes`).  So a caller who puts more around a query
need not look into it.

Two things are needed.  A text is read as it is read alone when it stands in front of white space or
a parenthesis, which is what `Spelling` has.  And the automaton does not look at the positions of
the tokens, so that a query parses if its tokens are spelled as a derivation
(`parse_eq_ok_iff_lexes`).  The rest is putting texts and derivations together in the same way.
-/

namespace LogSearch.Query

open Text

/-! ## Parsing by spelling -/

namespace State

variable {s s' : State} {t u : Token} {ts us : List Token}

/-- The automaton does not look at where a token stands. -/
lemma Takes.congr (h : s.Takes t s') (hspelled : u.spelled = t.spelled) : s.Takes u s' := by
  obtain ⟨kind, text, position⟩ := t
  obtain ⟨kind', text', position'⟩ := u
  obtain ⟨rfl, rfl⟩ := Prod.mk.inj hspelled
  cases h with
  | negation hkind => exact .negation hkind
  | opening hkind => exact .opening hkind
  | field hkind => exact .field hkind
  | operator hkind => exact .operator hkind
  | value hkind => exact .value hkind
  | and hkind => exact .and hkind
  | or hkind => exact .or hkind
  | closing hkind => exact .closing hkind

lemma run_congr (h : s.run ts = .ok s') (hspelled : us.map Token.spelled = ts.map Token.spelled) :
    s.run us = .ok s' := by
  induction ts generalizing s us with
  | nil =>
    obtain rfl := List.map_eq_nil_iff.1 hspelled
    exact h
  | cons t ts ih =>
    obtain ⟨u, us, rfl, hu, hus⟩ := List.map_eq_cons_iff.1 hspelled
    obtain ⟨next, htakes, hrest⟩ := exists_takes_of_run h
    rw [run_cons (htakes.congr hu), ih hrest hus]

end State

variable {query : Text} {e : Expr Condition}

/-- A query parses to the tree of a derivation whose tokens are spelled as those of the query. -/
lemma parse_eq_ok_iff_lexes :
    parse query = .ok e ↔
      ∃ d : Derivation .expression, Lexes query (d.tokens.map Token.spelled) ∧ d.tree = e := by
  constructor
  · intro h
    obtain ⟨last, d, hending, htokens, htree⟩ := parse_eq_ok_iff.1 h
    refine ⟨d, ?_, htree⟩
    rw [htokens]
    exact lexes_of_ending hending
  · rintro ⟨d, hlexes, rfl⟩
    obtain ⟨hspelled, hending⟩ := hlexes.tokens_eq 0
    obtain ⟨level, term, hclose, hrun⟩ := d.isRead []
    have htokens := State.run_congr hrun hspelled
    rw [parse, State.initial, tokens, Cursor.start, htokens, hending]
    exact congrArg Except.ok hclose

/-- A text that is read as one factor is a query. -/
lemma parse_of_factor (f : Derivation .factor) (h : Lexes query (f.tokens.map Token.spelled)) :
    parse query = .ok f.tree := by
  refine parse_eq_ok_iff_lexes.2 ⟨.expression (.term f .noFactors) .noTerms, ?_, rfl⟩
  simpa using h

/-! ## Texts put together -/

/-- A text that is read as one word. -/
structure IsWord (w : Text) : Prop where
  ne_nil : w ≠ []
  isWordChar : ∀ c ∈ w, isWordChar c

instance (w : Text) : Decidable (IsWord w) :=
  decidable_of_iff (w ≠ [] ∧ w.all isWordChar)
    ⟨fun h => ⟨h.1, List.all_eq_true.1 h.2⟩, fun h => ⟨h.ne_nil, List.all_eq_true.2 h.isWordChar⟩⟩

namespace Lexes

variable {t u word : Text} {spelled spelled' : List (Kind × Text)}

lemma word_space (hword : IsWord word) (h : Lexes t spelled) :
    Lexes (word ++ ' ' :: t) ((Kind.ofWord word, word) :: spelled) := by
  cases word with
  | nil => exact absurd rfl hword.ne_nil
  | cons c more =>
    have hspace : ∀ d ∈ (' ' :: t).head?, isWordChar d = false := by
      intro d hd
      obtain rfl := Option.some.inj hd
      decide +kernel
    exact .token (.word more hword.isWordChar hspace) (.blank (by decide) h)

lemma paren (h : Lexes t spelled) :
    Lexes ('(' :: (t ++ [')'])) ((.leftParen, ['(']) :: (spelled ++ [(.rightParen, [')'])])) := by
  have hright : Lexes [')'] [(.rightParen, [')'])] := .token (.sign [')'] (by decide)) .nil
  have hparts : Parts [')'] := by
    intro d hd
    obtain rfl := Option.some.inj hd
    decide +kernel
  exact .token (.sign ['('] (by decide)) (h.append hright hparts)

/-- Two texts with a word between them. -/
lemma joined (hword : IsWord word) (ht : Lexes t spelled) (hu : Lexes u spelled') :
    Lexes (t ++ ' ' :: (word ++ ' ' :: u)) (spelled ++ (Kind.ofWord word, word) :: spelled') := by
  have hblank : ([' '] : Text) ≠ [] ∧ isBlankText [' '] := by decide
  exact ht.append (.blank (by decide) (hu.word_space hword))
    (parts_of_isBlankText hblank.1 hblank.2)

end Lexes

/-- A query in parentheses is read as one factor. -/
lemma exists_factor_of_parse (h : parse query = .ok e) :
    ∃ f : Derivation .factor, f.tree = e ∧
      Lexes ('(' :: (query ++ [')'])) (f.tokens.map Token.spelled) := by
  obtain ⟨d, hlexes, rfl⟩ := parse_eq_ok_iff_lexes.1 h
  refine ⟨.group ⟨.leftParen, ['('], 0⟩ rfl d ⟨.rightParen, [')'], 0⟩ rfl, rfl, ?_⟩
  rw [Derivation.tokens_group, List.map_cons, List.map_append]
  exact hlexes.paren

/-! ## Conditions -/

/-- The words that are reserved, in upper case. -/
def reservedWords : List Text := ["AND", "OR", "NOT", "CONTAINS", "NOT_CONTAINS"]

/-- A word that names a field. -/
structure IsFieldWord (w : Text) : Prop extends IsWord w where
  upper : upper w ∉ reservedWords

lemma IsFieldWord.ofWord_eq {w : Text} (hw : IsFieldWord w) : Kind.ofWord w = .word := by
  have hupper := hw.upper
  simp only [reservedWords, List.mem_cons, List.not_mem_nil, or_false, not_or] at hupper
  obtain ⟨hand, hor, hnot, hcontains, hnotContains⟩ := hupper
  rw [Kind.ofWord, if_neg hand, if_neg hor, if_neg hnot, if_neg hcontains, if_neg hnotContains]

/-- The operators that are written as signs. -/
def operatorSigns : List (Text × Operator) :=
  [("==", .eq), ("=", .eq), ("!=", .neq), (">", .gt), (">=", .gte), ("<", .lt), ("<=", .lte)]

/-- The operators that are written as words, in upper case. -/
def operatorWords : List (Text × Operator) :=
  [("CONTAINS", .contains), ("NOT_CONTAINS", .notContains)]

/-- The spellings of an operator.  Its word can be in any letter case. -/
inductive Spells : Text → Operator → Prop where
  | sign {sign : Text} {op : Operator} (hsign : (sign, op) ∈ operatorSigns) : Spells sign op
  | word {word : Text} {op : Operator} (hword : IsWord word)
      (hupper : (upper word, op) ∈ operatorWords) : Spells word op

lemma Kind.ofWord_of_mem_operatorWords {word : Text} {op : Operator}
    (h : (upper word, op) ∈ operatorWords) : Kind.ofWord word = .comparison op := by
  simp only [operatorWords, List.mem_cons, Prod.mk.injEq, List.not_mem_nil, or_false] at h
  rcases h with ⟨hupper, rfl⟩ | ⟨hupper, rfl⟩ <;> rw [Kind.ofWord, hupper] <;> rfl

lemma Lexes.operator_space {sign t : Text} {op : Operator} {spelled : List (Kind × Text)}
    (hsign : Spells sign op) (h : Lexes t spelled) :
    Lexes (sign ++ ' ' :: t) ((.comparison op, sign) :: spelled) := by
  cases hsign with
  | sign hsign =>
    have hspace : (' ' :: t).head? ≠ some '=' := by simp
    have hblank : Lexes (' ' :: t) spelled := .blank (by decide) h
    simp only [operatorSigns, List.mem_cons, Prod.mk.injEq, List.not_mem_nil, or_false] at hsign
    rcases hsign with ⟨rfl, rfl⟩ | ⟨rfl, rfl⟩ | ⟨rfl, rfl⟩ | ⟨rfl, rfl⟩ | ⟨rfl, rfl⟩ | ⟨rfl, rfl⟩ |
      ⟨rfl, rfl⟩
    · exact .token (.sign _ (by decide)) hblank
    · exact .token (.shortSign (by decide) hspace) hblank
    · exact .token (.sign _ (by decide)) hblank
    · exact .token (.shortSign (by decide) hspace) hblank
    · exact .token (.sign _ (by decide)) hblank
    · exact .token (.shortSign (by decide) hspace) hblank
    · exact .token (.sign _ (by decide)) hblank
  | word hword hupper =>
    have hlexes := h.word_space hword
    rwa [Kind.ofWord_of_mem_operatorWords hupper] at hlexes

lemma exists_spells (op : Operator) : ∃ sign, Spells sign op := by
  cases op with
  | eq => exact ⟨['='], .sign (by decide)⟩
  | neq => exact ⟨['!', '='], .sign (by decide)⟩
  | gt => exact ⟨['>'], .sign (by decide)⟩
  | gte => exact ⟨['>', '='], .sign (by decide)⟩
  | lt => exact ⟨['<'], .sign (by decide)⟩
  | lte => exact ⟨['<', '='], .sign (by decide)⟩
  | contains =>
    have hword : IsWord "CONTAINS" := by decide +kernel
    exact ⟨_, .word hword (by decide +kernel)⟩
  | notContains =>
    have hword : IsWord "NOT_CONTAINS" := by decide +kernel
    exact ⟨_, .word hword (by decide +kernel)⟩

/-- A condition, with its value in quotes and with escapes. -/
lemma parse_condition {w sign : Text} {op : Operator} (hw : IsFieldWord w)
    (hsign : Spells sign op) (v : Text) :
    parse (w ++ " " ++ sign ++ " \"" ++ escapePhrase v ++ "\"") = .ok (.leaf ⟨lower w, op, v⟩) := by
  have hvalue : Lexes ('"' :: (escapePhrase v ++ ['"'])) [(.quoted, v)] :=
    .token (.quoted (unquote_escapePhrase v [])) .nil
  have hlexes := (hvalue.operator_space hsign).word_space hw.toIsWord
  rw [hw.ofWord_eq] at hlexes
  have hparse : parse (w ++ ' ' :: (sign ++ ' ' :: '"' :: (escapePhrase v ++ ['"']))) =
      .ok (.leaf ⟨lower w, op, v⟩) :=
    parse_of_factor (.condition ⟨.word, w, 0⟩ ⟨.comparison op, sign, 0⟩ ⟨.quoted, v, 0⟩ op rfl rfl
      (.inr rfl)) hlexes
  simpa using hparse

/-! ## Queries -/

section

variable {q₁ q₂ : Text} {t₁ t₂ : Expr Condition}

lemma parse_paren (h : parse q₁ = .ok t₁) : parse ("(" ++ q₁ ++ ")") = .ok t₁ := by
  obtain ⟨f, rfl, hlexes⟩ := exists_factor_of_parse h
  exact parse_of_factor f hlexes

lemma parse_not (h : parse q₁ = .ok t₁) : parse ("NOT (" ++ q₁ ++ ")") = .ok (.negation t₁) := by
  obtain ⟨f, rfl, hlexes⟩ := exists_factor_of_parse h
  have hkind : Kind.ofWord ['N', 'O', 'T'] = .not := by decide +kernel
  have hword : IsWord ['N', 'O', 'T'] := by decide +kernel
  have hnot := hlexes.word_space hword
  rw [hkind] at hnot
  exact parse_of_factor (.negation ⟨.not, ['N', 'O', 'T'], 0⟩ rfl f) hnot

lemma parse_and (h₁ : parse q₁ = .ok t₁) (h₂ : parse q₂ = .ok t₂) :
    parse ("(" ++ q₁ ++ ") AND (" ++ q₂ ++ ")") = .ok (.binary .and t₁ t₂) := by
  obtain ⟨f₁, rfl, hlexes₁⟩ := exists_factor_of_parse h₁
  obtain ⟨f₂, rfl, hlexes₂⟩ := exists_factor_of_parse h₂
  have hkind : Kind.ofWord ['A', 'N', 'D'] = .and := by decide +kernel
  have hword : IsWord ['A', 'N', 'D'] := by decide +kernel
  have hjoined := hlexes₁.joined hword hlexes₂
  refine parse_eq_ok_iff_lexes.2 ⟨.expression (.term f₁ (.andFactor ⟨.and, ['A', 'N', 'D'], 0⟩ rfl
    f₂ .noFactors)) .noTerms, ?_, rfl⟩
  simpa [Token.spelled, hkind] using hjoined

lemma parse_or (h₁ : parse q₁ = .ok t₁) (h₂ : parse q₂ = .ok t₂) :
    parse ("(" ++ q₁ ++ ") OR (" ++ q₂ ++ ")") = .ok (.binary .or t₁ t₂) := by
  obtain ⟨f₁, rfl, hlexes₁⟩ := exists_factor_of_parse h₁
  obtain ⟨f₂, rfl, hlexes₂⟩ := exists_factor_of_parse h₂
  have hkind : Kind.ofWord ['O', 'R'] = .or := by decide +kernel
  have hword : IsWord ['O', 'R'] := by decide +kernel
  have hjoined := hlexes₁.joined hword hlexes₂
  refine parse_eq_ok_iff_lexes.2 ⟨.expression (.term f₁ .noFactors) (.orTerm ⟨.or, ['O', 'R'], 0⟩
    rfl (.term f₂ .noFactors) .noTerms), ?_, rfl⟩
  simpa [Token.spelled, hkind] using hjoined

end

/-- Every tree over conditions on fields that a word can name is the parse of a text. -/
lemma exists_parse_eq {t : Expr Condition}
    (ht : ∀ c ∈ t.leaves, ∃ w, IsFieldWord w ∧ lower w = c.field) :
    ∃ query, parse query = .ok t := by
  induction t with
  | leaf c =>
    obtain ⟨w, hw, hfield⟩ := ht c (List.mem_singleton_self c)
    obtain ⟨sign, hsign⟩ := exists_spells c.operator
    exact ⟨_, by rw [parse_condition hw hsign c.value, hfield]⟩
  | negation child ih =>
    obtain ⟨q, hq⟩ := ih ht
    exact ⟨_, parse_not hq⟩
  | binary connective left right ihl ihr =>
    obtain ⟨q₁, hq₁⟩ := ihl fun c hc => ht c (List.mem_append_left _ hc)
    obtain ⟨q₂, hq₂⟩ := ihr fun c hc => ht c (List.mem_append_right _ hc)
    cases connective with
    | and => exact ⟨_, parse_and hq₁ hq₂⟩
    | or => exact ⟨_, parse_or hq₁ hq₂⟩

/-- **Queries compose as text.**  Queries that parse can be joined by AND and by OR, negated, and
put in parentheses, and the tree of what comes out is put together from theirs.  A condition on a
field that is named by a word, with any operator and any value in quotes, parses to that condition.
So every tree over such conditions is the parse of a text. -/
theorem parse_composes :
    (∀ {q₁ q₂ : Text} {t₁ t₂ : Expr Condition}, parse q₁ = .ok t₁ → parse q₂ = .ok t₂ →
      parse ("(" ++ q₁ ++ ") AND (" ++ q₂ ++ ")") = .ok (.binary .and t₁ t₂) ∧
      parse ("(" ++ q₁ ++ ") OR (" ++ q₂ ++ ")") = .ok (.binary .or t₁ t₂) ∧
      parse ("NOT (" ++ q₁ ++ ")") = .ok (.negation t₁) ∧
      parse ("(" ++ q₁ ++ ")") = .ok t₁) ∧
    (∀ {w sign : Text} {op : Operator}, IsFieldWord w → Spells sign op →
      ∀ v : Text, parse (w ++ " " ++ sign ++ " \"" ++ escapePhrase v ++ "\"") =
        .ok (.leaf ⟨lower w, op, v⟩)) ∧
    (∀ t : Expr Condition, (∀ c ∈ t.leaves, ∃ w, IsFieldWord w ∧ lower w = c.field) →
      ∃ query, parse query = .ok t) :=
  ⟨fun h₁ h₂ => ⟨parse_and h₁ h₂, parse_or h₁ h₂, parse_not h₁, parse_paren h₁⟩,
    parse_condition, fun _ => exists_parse_eq⟩

/-- A value that ends in a backslash, an operator in mixed case, and a query next to itself. -/
theorem parse_composes_of_backslash :
    let query : Text := "Msg Not_Contains \"a)\\\\\""
    let t : Expr Condition := .leaf ⟨"msg", .notContains, "a)\\"⟩
    parse query = .ok t ∧
      parse ("(" ++ query ++ ") AND (" ++ query ++ ")") = .ok (.binary .and t t) ∧
      ∃ query', parse query' = .ok (.negation (.binary .or t t)) := by
  intro query t
  have hw : IsFieldWord "Msg" := ⟨by decide +kernel, by decide +kernel⟩
  have hsign : Spells "Not_Contains" .notContains :=
    .word (by decide +kernel) (by decide +kernel)
  have hquery : parse query = .ok t := parse_composes.2.1 hw hsign "a)\\"
  refine ⟨hquery, (parse_composes.1 hquery hquery).1, parse_composes.2.2 _ fun c hc => ?_⟩
  obtain rfl : c = ⟨"msg", .notContains, "a)\\"⟩ := by simpa [Expr.leaves, t] using hc
  exact ⟨"Msg", hw, by decide +kernel⟩

end LogSearch.Query
