import LogSearch.Proofs.Query.Lexing
import LogSearch.Proofs.Query.Readback

/-!
# How tokens are spelled

A token is read off the front of a text, and what it is depends on no more of the text than the
token itself and the one character after it.  `Reads` says this for every kind of token: a sign is
read as it stands, a sign that could be longer ends where no sign of equality follows, a quoted text
ends at its quote, and a word ends where no word character follows.  `Lexes` says that a text is
read to its end as a sequence of tokens.  The two are another account of the lexer, by what stands
in the text and without positions (`lexes_of_ending`, `Lexes.tokens_eq`).

The account composes.  A text may be followed by another one that does not begin with a word
character or a sign of equality, and then each of the two is read as it is read alone
(`Lexes.append`).  White space is such a text.  This gives `tokens_spaced`: the tokens of a text,
written one after the other with any white space between them, are read again as the same tokens.
-/

namespace LogSearch

namespace Query

open Text

/-! ## Characters -/

lemma isWordChar_of_isBlank {c : Char} (hc : isBlank c) : isWordChar c = false :=
  of_isBlank (p := fun c => isWordChar c = false) (by decide +kernel) hc

lemma isBlank_of_isWordChar {c : Char} (hc : isWordChar c) : isBlank c = false := by
  cases hblank : isBlank c with
  | false => rfl
  | true => rw [← hc, isWordChar_of_isBlank hblank]

lemma notMem_signs_of_isWordChar {c : Char} (hc : isWordChar c) : c ∉ ("()\"=!<>" : Text) := by
  have htable : (("()\"=!<>" : Text).all fun d => !isWordChar d) = true := by decide +kernel
  intro hmem
  have hsign := List.all_eq_true.1 htable c hmem
  rw [hc] at hsign
  exact absurd hsign (by decide)

/-! ## One token -/

/-- What a token says wherever it stands: its kind and its text. -/
def Token.spelled (t : Token) : Kind × Text := (t.kind, t.text)

/-- The signs that are read as they stand, each with the kind of its token. -/
def signs : List (Text × Kind) :=
  [(['('], .leftParen), ([')'], .rightParen), (['=', '='], .comparison .eq),
    (['!', '='], .comparison .neq), (['>', '='], .comparison .gte), (['<', '='], .comparison .lte)]

/-- The signs that are longer where a sign of equality follows them. -/
def shortSigns : List (Char × Kind) :=
  [('=', .comparison .eq), ('>', .comparison .gt), ('<', .comparison .lt)]

/-- A text begins with a token, and after that comes the rest. -/
inductive Reads : Text → Kind × Text → Text → Prop where
  | sign (sign : Text) {rest : Text} {kind : Kind} (hsign : (sign, kind) ∈ signs) :
      Reads (sign ++ rest) (kind, sign) rest
  | shortSign {c : Char} {rest : Text} {kind : Kind} (hsign : (c, kind) ∈ shortSigns)
      (hrest : rest.head? ≠ some '=') : Reads (c :: rest) (kind, [c]) rest
  | quoted {after text rest : Text} (hquote : unquote after = some (text, rest)) :
      Reads ('"' :: after) (.quoted, text) rest
  | word {c : Char} (more : Text) {rest : Text} (hword : ∀ d ∈ c :: more, isWordChar d)
      (hrest : ∀ d ∈ rest.head?, isWordChar d = false) :
      Reads (c :: (more ++ rest)) (Kind.ofWord (c :: more), c :: more) rest

lemma head?_ne_of_forall {t : Text} (h : ∀ rest, t = '=' :: rest → False) :
    t.head? ≠ some '=' := by
  cases t with
  | nil => simp
  | cons d rest => exact fun hd => h rest (by rw [Option.some.inj hd])

namespace Reads

/-- The tokens that the lexer reads stand at the beginning of the text. -/
lemma of_read {c : Char} {after text rest : Text} {kind : Kind}
    (h : Lexeme.read c after = .token kind text rest) : Reads (c :: after) (kind, text) rest := by
  rw [Lexeme.read.eq_def] at h
  split at h
  case h_3 =>
    split at h
    next hquote =>
      simp only [Lexeme.token.injEq] at h
      obtain ⟨rfl, rfl, rfl⟩ := h
      exact .quoted hquote
    next => simp at h
  case h_12 =>
    split at h
    next hc =>
      simp only [Lexeme.token.injEq] at h
      obtain ⟨rfl, rfl, rfl⟩ := h
      have hend : ∀ d ∈ (after.dropWhile isWordChar).head?, isWordChar d = false := by
        intro d hd
        have hnot := List.head?_dropWhile_not isWordChar after
        rw [hd] at hnot
        exact hnot
      have hword : ∀ d ∈ c :: after.takeWhile isWordChar, isWordChar d :=
        List.forall_mem_cons.2 ⟨hc, fun d hd => List.mem_takeWhile_imp hd⟩
      have hread := Reads.word _ hword hend
      rwa [List.takeWhile_append_dropWhile] at hread
    next => simp at h
  case h_11 => simp at h
  -- the others are the signs
  all_goals
    simp only [Lexeme.token.injEq] at h
    obtain ⟨rfl, rfl, rfl⟩ := h
  case h_8 hnext => exact .shortSign (by decide) (head?_ne_of_forall hnext)
  case h_9 hnext => exact .shortSign (by decide) (head?_ne_of_forall hnext)
  case h_10 hnext => exact .shortSign (by decide) (head?_ne_of_forall hnext)
  case h_1 => exact .sign ['('] (by decide)
  case h_2 => exact .sign [')'] (by decide)
  case h_4 => exact .sign ['=', '='] (by decide)
  case h_5 => exact .sign ['!', '='] (by decide)
  case h_6 => exact .sign ['>', '='] (by decide)
  case h_7 => exact .sign ['<', '='] (by decide)

variable {t rest : Text} {s : Kind × Text}

/-- What stands at the beginning of a text is read by the lexer. -/
lemma exists_read (h : Reads t s rest) :
    ∃ c after, t = c :: after ∧ isBlank c = false ∧
      Lexeme.read c after = .token s.1 s.2 rest := by
  cases h with
  | sign _ hsign =>
    simp only [signs, List.mem_cons, Prod.mk.injEq, List.not_mem_nil, or_false] at hsign
    rcases hsign with ⟨rfl, rfl⟩ | ⟨rfl, rfl⟩ | ⟨rfl, rfl⟩ | ⟨rfl, rfl⟩ | ⟨rfl, rfl⟩ |
      ⟨rfl, rfl⟩ <;> exact ⟨_, _, rfl, by decide, rfl⟩
  | shortSign hsign hrest =>
    have hnext : ∀ r, rest = '=' :: r → False := fun r hr => hrest (by rw [hr]; rfl)
    simp only [shortSigns, List.mem_cons, Prod.mk.injEq, List.not_mem_nil, or_false] at hsign
    rcases hsign with ⟨rfl, rfl⟩ | ⟨rfl, rfl⟩ | ⟨rfl, rfl⟩ <;>
      exact ⟨_, _, rfl, by decide, by rw [Lexeme.read]; exact hnext⟩
  | quoted hquote => exact ⟨'"', _, rfl, by decide, Lexeme.read_quoted hquote⟩
  | word _ hword hrest =>
    obtain ⟨hc, hmore⟩ := List.forall_mem_cons.1 hword
    exact ⟨_, _, rfl, isBlank_of_isWordChar hc,
      Lexeme.read_word (notMem_signs_of_isWordChar hc) hc hmore hrest⟩

end Reads

lemma Kind.ofWord_ne {kind : Kind} (hkind : kind = .quoted ∨ kind = .ending) (word : Text) :
    Kind.ofWord word ≠ kind := by
  rcases hkind with rfl | rfl <;> simp only [Kind.ofWord] <;> repeat' split
  all_goals simp

/-- A quoted text ends at its quote, whatever follows. -/
lemma unquote_append {t more : Text} {r : Text × Text} (h : unquote t = some r) :
    unquote (t ++ more) = some (r.1, r.2 ++ more) := by
  fun_induction unquote t generalizing r with
  | case1 => simp at h
  | case2 rest =>
    obtain rfl := Option.some.inj h
    rfl
  | case3 c rest ih =>
    obtain ⟨u, hu, rfl⟩ := Option.map_eq_some_iff.1 h
    rw [List.cons_append, List.cons_append, unquote, ih hu]
    rfl
  | case4 c rest hquote hbackslash ih =>
    obtain ⟨u, hu, rfl⟩ := Option.map_eq_some_iff.1 h
    -- a backslash in the last place would have no quote after it
    have hpair : c ≠ '\\' := by
      rintro rfl
      cases rest with
      | nil => simp [unquote] at hu
      | cons d rest => exact hbackslash d rest rfl rfl
    rw [List.cons_append, unquote, ih hu]
    · rfl
    · exact hquote
    · exact fun _ _ hc => absurd hc hpair

/-- A token as it is written: a quoted text in quotes and with escapes, any other as its text. -/
def written (s : Kind × Text) : Text :=
  if s.1 = .quoted then '"' :: (escapePhrase s.2 ++ ['"']) else s.2

/-- What may follow any token without becoming a part of it. -/
def Parts (more : Text) : Prop := ∀ d ∈ more.head?, isWordChar d = false ∧ d ≠ '='

lemma parts_of_isBlankText {white more : Text} (hne : white ≠ []) (hwhite : isBlankText white) :
    Parts (white ++ more) := by
  cases white with
  | nil => exact absurd rfl hne
  | cons c white =>
    intro d hd
    obtain rfl : c = d := by simpa using hd
    simp only [isBlankText, List.all_cons, Bool.and_eq_true] at hwhite
    refine ⟨isWordChar_of_isBlank hwhite.1, ?_⟩
    rintro rfl
    exact absurd hwhite.1 (by decide)

namespace Reads

variable {t rest more : Text} {s : Kind × Text}

/-- A token is the same whatever follows the text. -/
lemma append (h : Reads t s rest) (hmore : Parts more) : Reads (t ++ more) s (rest ++ more) := by
  cases h with
  | sign sign hsign =>
    rw [List.append_assoc]
    exact .sign sign hsign
  | shortSign hsign hrest =>
    refine .shortSign hsign ?_
    cases rest with
    | nil => exact fun hd => (hmore '=' hd).2 rfl
    | cons d rest => exact hrest
  | quoted hquote => exact .quoted (unquote_append hquote)
  | word more hword hrest =>
    rw [List.cons_append, List.append_assoc]
    refine .word more hword fun d hd => ?_
    cases rest with
    | nil => exact (hmore d hd).1
    | cons e rest => exact hrest d hd

lemma kind_ne_ending (h : Reads t s rest) : s.1 ≠ .ending := by
  cases h with
  | sign _ hsign =>
    have htable : (signs.all fun s => s.2 ≠ .ending) = true := by decide
    simpa using List.all_eq_true.1 htable _ hsign
  | shortSign hsign hrest =>
    have htable : (shortSigns.all fun s => s.2 ≠ .ending) = true := by decide
    simpa using List.all_eq_true.1 htable _ hsign
  | quoted hquote => simp
  | word _ hword hrest => exact Kind.ofWord_ne (.inr rfl) _

/-- A token that was read is read again where it is written alone. -/
lemma written (h : Reads t s rest) : Reads (written s) s [] := by
  cases h with
  | @sign sign rest kind hsign =>
    have htable : (signs.all fun s => s.1 = Query.written (s.2, s.1)) = true := by decide
    have hwritten : sign = Query.written (kind, sign) := by
      simpa using List.all_eq_true.1 htable _ hsign
    have hread : Reads (sign ++ []) (kind, sign) [] := .sign sign hsign
    rw [List.append_nil] at hread
    rwa [← hwritten]
  | @shortSign c rest kind hsign hrest =>
    have htable : (shortSigns.all fun s => Query.written (s.2, [s.1]) = [s.1]) = true := by decide
    have hwritten : Query.written (kind, [c]) = [c] := by
      simpa using List.all_eq_true.1 htable _ hsign
    rw [hwritten]
    exact .shortSign hsign (by simp)
  | @quoted after text rest hquote => exact .quoted (unquote_escapePhrase text [])
  | @word c more rest hword hrest =>
    have hread : Reads (c :: (more ++ [])) (Kind.ofWord (c :: more), c :: more) [] :=
      .word more hword (by simp)
    rw [List.append_nil] at hread
    rwa [Query.written, if_neg (Kind.ofWord_ne (.inl rfl) _)]

end Reads

/-! ## All tokens -/

/-- A text is read from its beginning to its end as these tokens. -/
inductive Lexes : Text → List (Kind × Text) → Prop where
  | nil : Lexes [] []
  | blank {c : Char} {rest : Text} {spelled : List (Kind × Text)} (hc : isBlank c)
      (hrest : Lexes rest spelled) : Lexes (c :: rest) spelled
  | token {t rest : Text} {s : Kind × Text} {spelled : List (Kind × Text)} (hread : Reads t s rest)
      (hrest : Lexes rest spelled) : Lexes t (s :: spelled)

namespace Cursor

variable {here after : Cursor}

lemma tokens_of_fault {fault : SyntaxFault} (h : here.next = (.error fault, after)) :
    here.tokens = ⟨[], .error fault⟩ := by
  rw [tokens]
  split
  next hfault =>
    rw [h, Prod.mk.injEq, Except.error.injEq] at hfault
    rw [hfault.1]
  next hnext =>
    rw [h] at hnext
    simp at hnext

lemma tokens_of_ending {t : Token} (h : here.next = (.ok t, after)) (ht : t.kind = .ending) :
    here.tokens = ⟨[], .ok t⟩ := by
  rw [tokens]
  split
  next hfault =>
    rw [h] at hfault
    simp at hfault
  next hnext =>
    rw [h, Prod.mk.injEq, Except.ok.injEq] at hnext
    obtain ⟨rfl, -⟩ := hnext
    rw [dif_pos ht]

/-- Two places with the same next token have the same tokens after it. -/
lemma tokens_eq_of_next_eq (h : here.next = after.next) : here.tokens = after.tokens := by
  rcases hnext : after.next with ⟨fault | t, later⟩
  · rw [tokens_of_fault (h.trans hnext), tokens_of_fault hnext]
  · by_cases ht : t.kind = .ending
    · rw [tokens_of_ending (h.trans hnext) ht, tokens_of_ending hnext ht]
    · rw [tokens_of_next (h.trans hnext) ht, tokens_of_next hnext ht]

/-- A fault that is not behind white space is the next one. -/
lemma exists_next_of_fault {c : Char} {more rest : Text} {cause : SyntaxCause}
    (hc : isBlank c = false) (hread : Lexeme.read c more = .fault cause rest) (position : Nat) :
    ∃ after, (Cursor.mk position (c :: more)).next = (.error ⟨cause, some position⟩, after) := by
  have hskip : (Cursor.mk position (c :: more)).skipBlanks = ⟨position, c :: more⟩ := by
    simp [skipBlanks, moveTo, hc]
  rw [next, hskip]
  simp only [hread]
  exact ⟨_, rfl⟩

end Cursor

variable {t : Text} {spelled : List (Kind × Text)}

/-- A text that is read to its end has just these tokens, from whatever place on. -/
lemma Lexes.tokens_eq (h : Lexes t spelled) (position : Nat) :
    (Cursor.mk position t).tokens.tokens.map Token.spelled = spelled ∧
      (Cursor.mk position t).tokens.ending = .ok ⟨.ending, [], position + t.length⟩ := by
  induction h generalizing position with
  | nil =>
    rw [Cursor.tokens_nil]
    exact ⟨rfl, rfl⟩
  | @blank c rest spelled hc hrest ih =>
    rw [Cursor.tokens_eq_of_next_eq (Cursor.next_blank hc position rest), List.length_cons,
      Nat.add_comm rest.length, ← Nat.add_assoc]
    exact ih (position + 1)
  | @token t rest s spelled hread hrest ih =>
    obtain ⟨c, after, rfl, hc, hlexeme⟩ := hread.exists_read
    have hshorter := Lexeme.read_shortens hlexeme
    have hend : position + (after.length + 1 - rest.length) + rest.length =
        position + (c :: after).length := by
      rw [List.length_cons]
      omega
    rw [Cursor.tokens_of_next (Cursor.next_of_read hc hlexeme position) hread.kind_ne_ending,
      ← hend]
    obtain ⟨htokens, hending⟩ := ih (position + (after.length + 1 - rest.length))
    exact ⟨congrArg (s :: ·) htokens, hending⟩

/-- A text without a lexical fault is read to its end as its tokens. -/
lemma lexes_of_ending {position : Nat} {last : Token}
    (h : (Cursor.mk position t).tokens.ending = .ok last) :
    Lexes t ((Cursor.mk position t).tokens.tokens.map Token.spelled) := by
  induction hlength : t.length using Nat.strong_induction_on generalizing position t with
  | _ n ih =>
    cases t with
    | nil =>
      rw [Cursor.tokens_nil]
      exact .nil
    | cons c after =>
      rw [List.length_cons] at hlength
      cases hc : isBlank c with
      | true =>
        rw [Cursor.tokens_eq_of_next_eq (Cursor.next_blank hc position after)] at h ⊢
        exact .blank hc (ih after.length (by omega) h rfl)
      | false =>
        cases hlexeme : Lexeme.read c after with
        | fault cause rest =>
          obtain ⟨later, hnext⟩ := Cursor.exists_next_of_fault hc hlexeme position
          rw [Cursor.tokens_of_fault hnext] at h
          cases h
        | token kind text rest =>
          have hread := Reads.of_read hlexeme
          have hshorter := Lexeme.read_shortens hlexeme
          rw [Cursor.tokens_of_next (Cursor.next_of_read hc hlexeme position)
            hread.kind_ne_ending] at h ⊢
          exact .token hread (ih rest.length (by omega) h rfl)

namespace Lexes

variable {more white : Text} {spelled' : List (Kind × Text)} {s : Kind × Text}

/-- A text and another one behind it are read one after the other. -/
lemma append (h : Lexes t spelled) (hmore : Lexes more spelled') (hparts : Parts more) :
    Lexes (t ++ more) (spelled ++ spelled') := by
  induction h with
  | nil => exact hmore
  | blank hc _ ih => exact .blank hc ih
  | token hread _ ih => exact .token (hread.append hparts) ih

lemma blanks (hwhite : isBlankText white) (h : Lexes t spelled) : Lexes (white ++ t) spelled := by
  induction white with
  | nil => exact h
  | cons c white ih =>
    simp only [isBlankText, List.all_cons, Bool.and_eq_true] at hwhite
    exact .blank hwhite.1 (ih hwhite.2)

/-- Every token of a text is read alone as it is written. -/
lemma written_of_mem (h : Lexes t spelled) (hs : s ∈ spelled) : Lexes (written s) [s] := by
  induction h with
  | nil => exact absurd hs List.not_mem_nil
  | blank _ _ ih => exact ih hs
  | token hread _ ih =>
    rcases List.mem_cons.1 hs with rfl | hs
    · exact .token hread.written .nil
    · exact ih hs

end Lexes

/-! ## Writing tokens again -/

/-- Tokens written one after the other, each but the last with a separator behind it. -/
def spaced (separator : Nat → Text) : List (Kind × Text) → Text
  | [] => []
  | [s] => written s
  | s :: s' :: rest =>
    written s ++ (separator 0 ++ spaced (fun n => separator (n + 1)) (s' :: rest))

/-- Tokens that are read alone are read one after the other with white space between them. -/
lemma lexes_spaced {separator : Nat → Text}
    (hseparator : ∀ n, separator n ≠ [] ∧ isBlankText (separator n))
    (hspelled : ∀ s ∈ spelled, Lexes (written s) [s]) :
    Lexes (spaced separator spelled) spelled := by
  induction spelled generalizing separator with
  | nil => exact .nil
  | cons s rest ih =>
    obtain ⟨hs, hrest⟩ := List.forall_mem_cons.1 hspelled
    cases rest with
    | nil => exact hs
    | cons s' rest =>
      have hlater := ih (fun n => hseparator (n + 1)) hrest
      obtain ⟨hne, hwhite⟩ := hseparator 0
      exact hs.append (hlater.blanks hwhite) (parts_of_isBlankText hne hwhite)

/-- **Tokens written again are read again.**  Take a text without a lexical fault, and write its
tokens one after the other, with any white space between neighbours, quoted texts in quotes and with
their escapes.  What is written has no lexical fault either, and it has the same tokens, of the same
kinds and with the same texts, up to its end. -/
theorem tokens_spaced {query : Text} {last : Token} (hlexes : (tokens query).ending = .ok last)
    {separator : Nat → Text} (hseparator : ∀ n, separator n ≠ [] ∧ isBlankText (separator n)) :
    let again := spaced separator ((tokens query).tokens.map Token.spelled)
    (tokens again).tokens.map Token.spelled = (tokens query).tokens.map Token.spelled ∧
      (tokens again).ending = .ok ⟨.ending, [], again.length⟩ := by
  intro again
  have hquery := lexes_of_ending hlexes
  have hagain : Lexes again ((tokens query).tokens.map Token.spelled) :=
    lexes_spaced hseparator fun s hs => hquery.written_of_mem hs
  obtain ⟨htokens, hending⟩ := hagain.tokens_eq 0
  rw [Nat.zero_add] at hending
  exact ⟨htokens, hending⟩

/-- Tokens without white space between them, a quoted text that holds a quote and a backslash, and
separators that are not ASCII. -/
theorem tokens_spaced_of_quotes :
    let query : Text := "msg>=\"a\\\"\\\\\"AnD(x"
    let separator : Nat → Text := fun n => if n = 0 then ['\u00a0'] else ['\t', '\u2028']
    let spelled : List (Kind × Text) :=
      [(.word, "msg"), (.comparison .gte, ">="), (.quoted, "a\"\\"), (.and, "AnD"),
        (.leftParen, "("), (.word, "x")]
    (∃ last, (tokens query).ending = .ok last) ∧
      (∀ n, separator n ≠ [] ∧ isBlankText (separator n)) ∧
      (tokens (spaced separator spelled)).tokens.map Token.spelled = spelled := by
  intro query separator spelled
  have hquery : Lexes query spelled :=
    .token (.word ['s', 'g'] (List.all_eq_true.1 (by decide +kernel))
      (fun d hd => by obtain rfl := Option.some.inj hd; decide +kernel)) <|
    .token (.sign ['>', '='] (by decide)) <|
    .token (.quoted rfl) <|
    .token (.word ['n', 'D'] (List.all_eq_true.1 (by decide +kernel))
      (fun d hd => by obtain rfl := Option.some.inj hd; decide +kernel)) <|
    .token (.sign ['('] (by decide)) <|
    .token (.word [] (List.all_eq_true.1 (by decide +kernel)) (by simp)) .nil
  have hseparator : ∀ n, separator n ≠ [] ∧ isBlankText (separator n) := by
    intro n
    simp only [separator]
    split <;> decide
  obtain ⟨htokens, hending⟩ := hquery.tokens_eq 0
  have hagain := (tokens_spaced hending hseparator).1
  have hsame : (tokens query).tokens.map Token.spelled = spelled := htokens
  rw [hsame] at hagain
  exact ⟨⟨_, hending⟩, hseparator, hagain⟩

end Query

end LogSearch
