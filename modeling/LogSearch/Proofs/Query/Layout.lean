import LogSearch.Proofs.Query.Composing
import LogSearch.Proofs.Query.Tiling
import LogSearch.Proofs.Text.LetterCase

/-!
# Layout and letter case

A query can be written in another form (`Relaid`): with other white space between its tokens and at
its ends, and with its reserved words and the names of its fields in other letter case.  The two
forms parse to the same tree, and so they compile to the same text or the same fault
(`parse_relaid`).

Token by token the two forms are read alike (`Relaid.exists_lexes`).  A token is the same whatever
comes after it, as long as that begins alike (`BeginsLike`).  A reserved word stays the one that it
is, since its upper case stays the same.  The automaton looks at the text of a token only to take
the name of a field, in lower case, and to take a value (`State.run_alike`).  A value cannot pass
for the name of a field here: it has no operator behind it.
-/

namespace LogSearch.Query

open Text

variable {query query' source source' rest rest' : Text} {s : Kind × Text}

/-! ## The same query in another form -/

/-- The kinds of the reserved words. -/
def reservedKinds : List Kind :=
  [.and, .or, .not, .comparison .contains, .comparison .notContains]

/-- The letter case of a token in front of a text does not matter.  The token is a reserved word, or
it is the name of a field, which is a word with an operator behind it. -/
def CaseFree (s : Kind × Text) (rest : Text) : Prop :=
  s.1 ∈ reservedKinds ∨
    s.1 = .word ∧ ∃ op sign later, Lexes rest ((.comparison op, sign) :: later)

/-- The two are the same query in another form.  There is white space between tokens in the second
one wherever there is in the first one, and both have any white space at their ends. -/
inductive Relaid : Text → Text → Prop where
  | ending {white white' : Text} (hwhite : isBlankText white) (hwhite' : isBlankText white') :
      Relaid white white'
  | token {white white' source source' rest rest' : Text} {s : Kind × Text}
      (hwhite : isBlankText white) (hwhite' : isBlankText white')
      (hkept : white ≠ [] → white' ≠ []) (hread : Reads (source ++ rest) s rest)
      (hsource : source' = source ∨ CaseFree s rest ∧ SameLetters source source')
      (hrest : Relaid rest rest') :
      Relaid (white ++ (source ++ rest)) (white' ++ (source' ++ rest'))

/-! ## What comes after a token -/

/-- The second text begins with white space, or with the same letter as the first one. -/
def BeginsLike (rest rest' : Text) : Prop :=
  ∀ d ∈ rest'.head?, isBlank d ∨ ∃ c ∈ rest.head?, c.toLower = d.toLower

lemma BeginsLike.isWordChar_eq_false (h : BeginsLike rest rest')
    (hrest : ∀ c ∈ rest.head?, isWordChar c = false) : ∀ d ∈ rest'.head?, isWordChar d = false := by
  intro d hd
  obtain hblank | ⟨c, hc, hsame⟩ := h d hd
  · exact isWordChar_of_isBlank hblank
  · rw [← congr_toLower isWordChar (by decide +kernel) hsame]
    exact hrest c hc

lemma BeginsLike.head?_ne (h : BeginsLike rest rest') (hrest : rest.head? ≠ some '=') :
    rest'.head? ≠ some '=' := by
  intro hd
  obtain hblank | ⟨c, hc, hsame⟩ := h '=' hd
  · exact absurd hblank (by decide)
  · have hsign : decide (c = '=') = decide ('=' = '=') :=
      congr_toLower (fun e => decide (e = '=')) (by decide +kernel) hsame
    obtain rfl : c = '=' := by simpa using hsign
    exact hrest hc

lemma Reads.source_ne_nil (h : Reads (source ++ rest) s rest) : source ≠ [] := by
  obtain ⟨front, hfront, happend⟩ := h.exists_front
  rwa [List.append_cancel_right happend]

lemma head?_append_of_isBlankText {white more : Text} (hne : white ≠ [])
    (hwhite : isBlankText white) : ∀ d ∈ (white ++ more).head?, isBlank d := by
  cases white with
  | nil => exact absurd rfl hne
  | cons c white =>
    rintro d ⟨⟩
    exact List.all_eq_true.1 hwhite _ List.mem_cons_self

lemma Relaid.beginsLike (h : Relaid query query') : BeginsLike query query' := by
  cases h with
  | @ending white white' hwhite hwhite' =>
    exact fun d hd => .inl (List.all_eq_true.1 hwhite' d (List.mem_of_mem_head? hd))
  | @token white white' source source' rest rest' s hwhite hwhite' hkept hread hsource hrest =>
    intro d hd
    by_cases hne : white' = []
    · -- then the tokens are at the beginning, and neither is empty
      obtain rfl : white = [] := by
        by_contra hwhite
        exact hkept hwhite hne
      subst hne
      obtain ⟨c, more, rfl⟩ := List.exists_cons_of_ne_nil hread.source_ne_nil
      obtain rfl | ⟨-, hsame⟩ := hsource
      · exact .inr ⟨d, hd, rfl⟩
      · obtain ⟨c', more', rfl, hletter, -⟩ := sameLetters_cons_iff.1 hsame
        obtain rfl : c' = d := Option.some.inj hd
        exact .inr ⟨c, rfl, hletter⟩
    · exact .inl (head?_append_of_isBlankText hne hwhite' d hd)

/-! ## One token -/

/-- A token is the same in front of another text that begins alike. -/
lemma Reads.congr_rest (h : Reads (source ++ rest) s rest) (hlike : BeginsLike rest rest') :
    Reads (source ++ rest') s rest' := by
  generalize happend : source ++ rest = t at h
  cases h with
  | sign sign hsign =>
    obtain rfl := List.append_cancel_right happend
    exact .sign source hsign
  | @shortSign c _ _ hsign hrest =>
    obtain rfl : source = [c] := List.append_cancel_right happend
    exact .shortSign hsign (hlike.head?_ne hrest)
  | @quoted _ text _ hquote =>
    obtain ⟨body, rfl, hbody⟩ := unquote_eq_some_iff.1 hquote
    have hsplit : source ++ rest = '"' :: (body ++ ['"']) ++ rest := by simp [happend]
    obtain rfl := List.append_cancel_right hsplit
    exact (isSource_quoted hbody rest').reads
  | @word c more _ hword hrest =>
    obtain rfl : source = c :: more := List.append_cancel_right happend
    exact .word more hword (hlike.isWordChar_eq_false hrest)

/-- A word is a word of the same kind in other letter case. -/
lemma Reads.respelled (h : Reads (source ++ rest) s rest) (hkind : s.1 ∈ .word :: reservedKinds)
    (hsame : SameLetters source source') (hlike : BeginsLike rest rest') :
    s.2 = source ∧ Reads (source' ++ rest') (s.1, source') rest' := by
  generalize happend : source ++ rest = t at h
  cases h with
  | sign sign hsign =>
    have htable : ∀ s ∈ signs, s.2 ∉ Kind.word :: reservedKinds := by decide
    exact absurd hkind (htable _ hsign)
  | shortSign hsign =>
    have htable : ∀ s ∈ shortSigns, s.2 ∉ Kind.word :: reservedKinds := by decide
    exact absurd hkind (htable _ hsign)
  | quoted => simp [reservedKinds] at hkind
  | @word c more _ hword hrest =>
    obtain rfl : source = c :: more := List.append_cancel_right happend
    have hsameKind : Kind.ofWord source' = Kind.ofWord (c :: more) := by
      rw [Kind.ofWord, Kind.ofWord, hsame.upper_eq]
    have hword' := hsame.forall_mem (p := isWordChar) (by decide +kernel) hword
    obtain ⟨c', more', rfl, -⟩ := sameLetters_cons_iff.1 hsame
    rw [← hsameKind]
    exact ⟨rfl, .word more' hword' (hlike.isWordChar_eq_false hrest)⟩

lemma Reads.word_space {word : Text} {kind : Kind} (hword : IsWord word)
    (hkind : Kind.ofWord word = kind) (more : Text) :
    Reads (word ++ ' ' :: more) (kind, word) (' ' :: more) := by
  subst hkind
  obtain ⟨c, letters, rfl⟩ := List.exists_cons_of_ne_nil hword.ne_nil
  refine .word letters hword.isWordChar ?_
  rintro d ⟨⟩
  decide +kernel

/-! ## All tokens -/

/-- The tokens are the same but for the letter case of reserved words and of names of fields. -/
inductive Alike : List (Kind × Text) → List (Kind × Text) → Prop where
  | nil : Alike [] []
  | same (s : Kind × Text) {more more' : List (Kind × Text)} (hmore : Alike more more') :
      Alike (s :: more) (s :: more')
  | reserved {kind : Kind} (word word' : Text) {more more' : List (Kind × Text)}
      (hkind : kind ∈ reservedKinds) (hmore : Alike more more') :
      Alike ((kind, word) :: more) ((kind, word') :: more')
  | field {name name' sign : Text} {op : Operator} {more more' : List (Kind × Text)}
      (hname : lower name = lower name') (hmore : Alike ((.comparison op, sign) :: more) more') :
      Alike ((.word, name) :: (.comparison op, sign) :: more) ((.word, name') :: more')

lemma Lexes.unique {spelled spelled' : List (Kind × Text)} (h : Lexes query spelled)
    (h' : Lexes query spelled') : spelled = spelled' :=
  (h.tokens_eq 0).1.symm.trans (h'.tokens_eq 0).1

/-- Two forms of a query are read alike. -/
lemma Relaid.exists_lexes (h : Relaid query query') :
    ∃ spelled spelled', Lexes query spelled ∧ Lexes query' spelled' ∧ Alike spelled spelled' := by
  induction h with
  | @ending white white' hwhite hwhite' =>
    have hlexes := Lexes.nil.blanks hwhite
    have hlexes' := Lexes.nil.blanks hwhite'
    rw [List.append_nil] at hlexes hlexes'
    exact ⟨[], [], hlexes, hlexes', .nil⟩
  | @token white white' source source' rest rest' s hwhite hwhite' hkept hread hsource hrest ih =>
    obtain ⟨spelled, spelled', hlexes, hlexes', halike⟩ := ih
    have hlike := hrest.beginsLike
    have hform : Lexes (white ++ (source ++ rest)) (s :: spelled) :=
      (Lexes.token hread hlexes).blanks hwhite
    obtain rfl | ⟨hreserved | ⟨hword, op, sign, later, hoperator⟩, hsame⟩ := hsource
    · have hread' := hread.congr_rest hlike
      exact ⟨_, _, hform, (Lexes.token hread' hlexes').blanks hwhite', .same s halike⟩
    · obtain ⟨-, hread'⟩ := hread.respelled (List.mem_cons_of_mem _ hreserved) hsame hlike
      exact ⟨_, _, hform, (Lexes.token hread' hlexes').blanks hwhite',
        .reserved s.2 source' hreserved halike⟩
    · obtain rfl := hlexes.unique hoperator
      obtain ⟨kind, name⟩ := s
      obtain rfl : kind = .word := hword
      obtain ⟨rfl, hread'⟩ := hread.respelled List.mem_cons_self hsame hlike
      exact ⟨_, _, hform, (Lexes.token hread' hlexes').blanks hwhite',
        .field hsame.lower_eq halike⟩

/-! ## The automaton -/

namespace State

variable {state state' : State} {t u : Token} {ts us : List Token}

/-- Of a reserved word the automaton looks at nothing but the kind. -/
lemma Takes.congr_kind (h : state.Takes t state') (hkind : u.kind = t.kind)
    (hreserved : t.kind ∈ reservedKinds) : state.Takes u state' := by
  cases h with
  | negation ht => exact .negation (hkind.trans ht)
  | opening ht => exact .opening (hkind.trans ht)
  | field ht => exact absurd hreserved (by rw [ht]; decide)
  | operator ht => exact .operator (hkind.trans ht)
  | value ht => rcases ht with ht | ht <;> exact absurd hreserved (by rw [ht]; decide)
  | and ht => exact .and (hkind.trans ht)
  | or ht => exact .or (hkind.trans ht)
  | closing ht => exact .closing (hkind.trans ht)

/-- A word that is taken in with an operator behind it is the name of a field. -/
lemma Takes.field_of_operator {next : State} {op : Operator} (h : state.Takes t next)
    (ht : t.kind = .word) (hnext : next.Takes u state') (hu : u.kind = .comparison op) :
    ∃ enclosing level, state = ⟨enclosing, level, .factor⟩ ∧
      next = ⟨enclosing, level, .operator (lower t.text)⟩ := by
  cases h with
  | field => exact ⟨_, _, rfl, rfl⟩
  | value =>
    -- no operator is taken in behind a value
    cases hnext with
    | and hkind => simp [hu] at hkind
    | or hkind => simp [hu] at hkind
    | closing hkind => simp [hu] at hkind
  | negation hkind => simp [ht] at hkind
  | opening hkind => simp [ht] at hkind
  | operator hkind => simp [ht] at hkind
  | and hkind => simp [ht] at hkind
  | or hkind => simp [ht] at hkind
  | closing hkind => simp [ht] at hkind

/-- The run: the automaton takes in tokens that are alike in the same way. -/
lemma run_alike {spelled spelled' : List (Kind × Text)} (h : Alike spelled spelled')
    (hspelled : ts.map Token.spelled = spelled) (hspelled' : us.map Token.spelled = spelled')
    (hrun : state.run ts = .ok state') : state.run us = .ok state' := by
  induction h generalizing state ts us with
  | nil =>
    obtain rfl := List.map_eq_nil_iff.1 hspelled
    obtain rfl := List.map_eq_nil_iff.1 hspelled'
    exact hrun
  | same s hmore ih =>
    obtain ⟨t, ts, rfl, ht, hts⟩ := List.map_eq_cons_iff.1 hspelled
    obtain ⟨u, us, rfl, hu, hus⟩ := List.map_eq_cons_iff.1 hspelled'
    obtain ⟨next, htakes, hrest⟩ := exists_takes_of_run hrun
    rw [run_cons (htakes.congr (hu.trans ht.symm)), ih hts hus hrest]
  | reserved word word' hkind hmore ih =>
    obtain ⟨t, ts, rfl, ht, hts⟩ := List.map_eq_cons_iff.1 hspelled
    obtain ⟨u, us, rfl, hu, hus⟩ := List.map_eq_cons_iff.1 hspelled'
    obtain ⟨rfl, -⟩ := Prod.mk.inj ht
    obtain ⟨hsame, -⟩ := Prod.mk.inj hu
    obtain ⟨next, htakes, hrest⟩ := exists_takes_of_run hrun
    rw [run_cons (htakes.congr_kind hsame hkind), ih hts hus hrest]
  | @field name name' sign op more more' hname hmore ih =>
    obtain ⟨t, ts, rfl, ht, hts⟩ := List.map_eq_cons_iff.1 hspelled
    obtain ⟨u, us, rfl, hu, hus⟩ := List.map_eq_cons_iff.1 hspelled'
    obtain ⟨sign, later, rfl, hsign, -⟩ := List.map_eq_cons_iff.1 hts
    obtain ⟨hkind, rfl⟩ := Prod.mk.inj ht
    obtain ⟨hkind', rfl⟩ := Prod.mk.inj hu
    obtain ⟨hoperator, -⟩ := Prod.mk.inj hsign
    obtain ⟨next, htakes, hrest⟩ := exists_takes_of_run hrun
    obtain ⟨after, htakesSign, -⟩ := exists_takes_of_run hrest
    obtain ⟨enclosing, level, rfl, rfl⟩ := htakes.field_of_operator hkind htakesSign hoperator
    rw [run_cons (.field hkind'), ← hname, ih hts hus hrest]

end State

/-! ## Queries -/

lemma parse_of_alike {spelled spelled' : List (Kind × Text)} {e : Expr Condition}
    (hlexes : Lexes query spelled) (hlexes' : Lexes query' spelled')
    (halike : Alike spelled spelled') (h : parse query = .ok e) : parse query' = .ok e := by
  obtain ⟨d, hd, rfl⟩ := parse_eq_ok_iff_lexes.1 h
  obtain ⟨hspelled, hending⟩ := hlexes'.tokens_eq 0
  obtain ⟨level, term, hclose, hrun⟩ := d.isRead []
  have htokens := State.run_alike halike (hd.unique hlexes) hspelled hrun
  rw [parse, State.initial, tokens, Cursor.start, htokens, hending]
  exact congrArg Except.ok hclose

/-- A query that parses does not consist of white space. -/
lemma isBlankText_eq_false_of_parse {e : Expr Condition} (h : parse query = .ok e) :
    isBlankText query = false := by
  cases hblank : isBlankText query with
  | false => rfl
  | true =>
    have hlexes := Lexes.nil.blanks hblank
    rw [List.append_nil] at hlexes
    obtain ⟨hspelled, hending⟩ := hlexes.tokens_eq 0
    have hnone := List.map_eq_nil_iff.1 hspelled
    rw [parse, tokens, Cursor.start, hnone, hending] at h
    cases h

/-- **Layout and letter case do not matter.**  A query that parses parses to the same tree in every
other form, and compiles to the same text, or has the same fault. -/
theorem parse_relaid {e : Expr Condition} (h : Relaid query query') (hparse : parse query = .ok e) :
    parse query' = .ok e ∧ ∀ z, compile z query' = compile z query := by
  obtain ⟨spelled, spelled', hlexes, hlexes', halike⟩ := h.exists_lexes
  have hparse' := parse_of_alike hlexes hlexes' halike hparse
  refine ⟨hparse', fun z => ?_⟩
  rw [compile_of_parse (isBlankText_eq_false_of_parse hparse') hparse',
    compile_of_parse (isBlankText_eq_false_of_parse hparse) hparse]

/-- A reserved word with letters outside ASCII, the name of a field in other letter case, and a
value that stays as it is. -/
theorem parse_relaid_of_dotless :
    let query : Text := "not Level contaınſ \"Aa\""
    let query' : Text := "\tNOT\u2003lEVEL  CONTAıNſ\r\n\"Aa\" "
    let e : Expr Condition := .negation (.leaf ⟨"level", .contains, "Aa"⟩)
    Relaid query query' ∧ parse query = .ok e ∧ parse query' = .ok e ∧
      ∀ z, compile z query' = compile z query := by
  intro query query' e
  let not : Text := ['n', 'o', 't']
  let level : Text := ['L', 'e', 'v', 'e', 'l']
  let contains : Text := ['c', 'o', 'n', 't', 'a', 'ı', 'n', 'ſ']
  let value : Text := ['"', 'A', 'a', '"']
  let level' : Text := ['l', 'E', 'V', 'E', 'L']
  let contains' : Text := ['C', 'O', 'N', 'T', 'A', 'ı', 'N', 'ſ']
  -- what is behind each of the tokens
  let rest₃ : Text := [' '] ++ (value ++ [])
  let rest₂ : Text := [' '] ++ (contains ++ rest₃)
  let rest₁ : Text := [' '] ++ (level ++ rest₂)
  have hnot : Reads (not ++ rest₁) (.not, not) rest₁ :=
    .word_space (by decide +kernel) (by decide +kernel) _
  have hlevel : Reads (level ++ rest₂) (.word, level) rest₂ :=
    .word_space (by decide +kernel) (by decide +kernel) _
  have hcontains : Reads (contains ++ rest₃) (.comparison .contains, contains) rest₃ :=
    .word_space (by decide +kernel) (by decide +kernel) _
  have hvalue : Reads (value ++ []) (.quoted, ['A', 'a']) [] := .quoted rfl
  have hoperator : Lexes rest₂ [(.comparison .contains, contains), (.quoted, ['A', 'a'])] :=
    .blank (by decide) (.token hcontains (.blank (by decide) (.token hvalue .nil)))
  have hquery : [] ++ (not ++ rest₁) = query := by decide +kernel
  have hquery' : ['\t'] ++ (['N', 'O', 'T'] ++ (['\u2003'] ++ (level' ++ ([' ', ' '] ++
      (contains' ++ (['\r', '\n'] ++ (value ++ [' ']))))))) = query' := by decide +kernel
  have hparse : parse query = .ok e := by
    rw [← hquery]
    exact parse_of_factor (.negation ⟨.not, not, 0⟩ rfl (.condition ⟨.word, level, 0⟩
      ⟨.comparison .contains, contains, 0⟩ ⟨.quoted, ['A', 'a'], 0⟩ _ rfl rfl (.inr rfl)))
      (.token hnot (.blank (by decide) (.token hlevel hoperator)))
  have hrelaid : Relaid query query' := by
    rw [← hquery, ← hquery']
    refine .token rfl rfl (by simp) hnot (.inr ⟨.inl (by decide), by decide⟩) ?_
    refine .token rfl rfl (by simp) hlevel (.inr ⟨.inr ⟨rfl, _, _, _, hoperator⟩, by decide⟩) ?_
    refine .token rfl rfl (by simp) hcontains (.inr ⟨.inl (by decide), by decide⟩) ?_
    exact .token rfl rfl (by simp) hvalue (.inl rfl) (.ending rfl rfl)
  obtain ⟨hparse', hcompile⟩ := parse_relaid hrelaid hparse
  exact ⟨hrelaid, hparse, hparse', hcompile⟩

end LogSearch.Query
