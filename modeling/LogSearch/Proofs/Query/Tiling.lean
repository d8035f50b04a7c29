import LogSearch.Proofs.Query.Places

/-!
# The lexer tiles a query

Wherever the lexer stands in a query, its next call does one of three things (`Call`).  It answers
the ending token where nothing but white space is left; it answers the token that begins at the
first other character; or it reports a fault, because no token begins there.  It never goes back,
and it does not leave the query.  A token takes some characters of the query (`Token.Spans`), and
which ones is said here by what stands there and what follows (`IsSource`): a word is as long as it
can be, a sign is the longer one where both fit, and a quoted text ends at the first quote that no
backslash stands before.  This last rule does without the lexer: `Escapes` relates what stands
between two quotes to what it says.

Calls after one another lay the tokens side by side, with nothing but white space between them
(`Tiles`).  `lexer_tiles` puts this together.
-/

namespace LogSearch.Query

open Text

/-! ## Between quotes -/

/-- What stands between two quotes, and what it says.  A backslash stands for the character after
it, and a quote does not stand there by itself. -/
inductive Escapes : Text → Text → Prop where
  | nil : Escapes [] []
  | plain {c : Char} {body text : Text} (hquote : c ≠ '"') (hbackslash : c ≠ '\\')
      (hrest : Escapes body text) : Escapes (c :: body) (c :: text)
  | escaped {c : Char} {body text : Text} (hrest : Escapes body text) :
      Escapes ('\\' :: c :: body) (c :: text)

lemma Escapes.unquote_append {body text : Text} (h : Escapes body text) (rest : Text) :
    unquote (body ++ '"' :: rest) = some (text, rest) := by
  induction h with
  | nil => rfl
  | plain hquote hbackslash hrest ih =>
    rw [List.cons_append, unquote, ih]
    · rfl
    · exact hquote
    · exact fun _ _ hc => absurd hc hbackslash
  | escaped hrest ih =>
    rw [List.cons_append, List.cons_append, unquote, ih]
    rfl

/-- A quoted text ends at its first quote that is not escaped. -/
lemma unquote_eq_some_iff {t text rest : Text} :
    unquote t = some (text, rest) ↔ ∃ body, t = body ++ '"' :: rest ∧ Escapes body text := by
  constructor
  · intro h
    fun_induction unquote t generalizing text with
    | case1 => simp at h
    | case2 after =>
      obtain ⟨rfl, rfl⟩ := Prod.mk.inj (Option.some.inj h)
      exact ⟨[], rfl, .nil⟩
    | case3 c after ih =>
      obtain ⟨⟨text', rest'⟩, hr, hparts⟩ := Option.map_eq_some_iff.1 h
      obtain ⟨rfl, rfl⟩ := Prod.mk.inj hparts
      obtain ⟨body, rfl, hbody⟩ := ih hr
      exact ⟨'\\' :: c :: body, rfl, .escaped hbody⟩
    | case4 c after hquote hbackslash ih =>
      obtain ⟨⟨text', rest'⟩, hr, hparts⟩ := Option.map_eq_some_iff.1 h
      obtain ⟨rfl, rfl⟩ := Prod.mk.inj hparts
      obtain ⟨body, rfl, hbody⟩ := ih hr
      -- a backslash here would have nothing behind it, but there is the quote
      have hpair : c ≠ '\\' := by
        rintro rfl
        cases body <;> exact hbackslash _ _ rfl rfl
      exact ⟨c :: body, rfl, .plain hquote hpair hbody⟩
  · rintro ⟨body, rfl, hbody⟩
    exact hbody.unquote_append rest

/-! ## The characters of a token -/

/-- The signs of two characters. -/
def doubleSigns : List Text := [['=', '='], ['!', '='], ['>', '='], ['<', '=']]

/-- A token has these characters, and this follows. -/
structure IsSource (source : Text) (s : Kind × Text) (rest : Text) : Prop where
  ne_nil : source ≠ []
  reads : Reads (source ++ rest) s rest
  /-- The text of a token is what stands there, -/
  text : s.1 ≠ .quoted → s.2 = source
  /-- except that a quoted text has no quotes and no escaping backslashes. -/
  quoted : s.1 = .quoted → ∃ body, source = '"' :: (body ++ ['"']) ∧ Escapes body s.2
  /-- A word is as long as it can be. -/
  word : (∃ c ∈ source.head?, isWordChar c) →
    (∀ c ∈ source, isWordChar c) ∧ ∀ c ∈ rest.head?, isWordChar c = false
  /-- A sign of two characters is read wherever it stands. -/
  sign : ∀ double ∈ doubleSigns, double <+: source ++ rest → source = double

lemma exists_of_mem_doubleSigns {double : Text} (h : double ∈ doubleSigns) :
    ∃ c ∈ ['=', '!', '>', '<'], double = [c, '='] := by
  simpa [doubleSigns] using h

lemma not_prefix_of_head {c : Char} (hc : c ∉ ['=', '!', '>', '<']) {double more : Text}
    (h : double ∈ doubleSigns) : ¬ double <+: c :: more := by
  obtain ⟨d, hd, rfl⟩ := exists_of_mem_doubleSigns h
  intro hprefix
  obtain ⟨rfl, -⟩ := List.cons_prefix_cons.1 hprefix
  exact hc hd

lemma isSource_sign {sign rest : Text} {kind : Kind} (h : (sign, kind) ∈ signs) :
    IsSource sign (kind, sign) rest := by
  have htable : ∀ s ∈ signs, s.1 ≠ [] ∧ s.2 ≠ .quoted ∧
      s.1.head?.any isWordChar = false ∧
      (s.1.length = 2 ∨ s.1 = ['('] ∨ s.1 = [')']) := by
    decide +kernel
  obtain ⟨hne, hkind, hword, hsize⟩ := htable _ h
  refine ⟨hne, .sign sign h, fun _ => rfl, fun hquoted => absurd hquoted hkind, ?_, ?_⟩
  · rintro ⟨c, hc, hwordChar⟩
    rw [Option.mem_def.1 hc, Option.any_some, hwordChar] at hword
    contradiction
  · intro double hdouble hprefix
    rcases hsize with hsize | hsize | hsize
    · -- two beginnings of one text that are of the same length
      obtain ⟨d, -, rfl⟩ := exists_of_mem_doubleSigns hdouble
      have hsame := List.prefix_of_prefix_length_le hprefix (List.prefix_append sign rest)
        (Nat.le_of_eq hsize.symm)
      exact (hsame.eq_of_length hsize.symm).symm
    · obtain rfl : sign = ['('] := hsize
      exact absurd hprefix (not_prefix_of_head (by decide) hdouble)
    · obtain rfl : sign = [')'] := hsize
      exact absurd hprefix (not_prefix_of_head (by decide) hdouble)

lemma isSource_shortSign {c : Char} {rest : Text} {kind : Kind} (h : (c, kind) ∈ shortSigns)
    (hrest : rest.head? ≠ some '=') : IsSource [c] (kind, [c]) rest := by
  have htable : ∀ s ∈ shortSigns, s.2 ≠ .quoted ∧ isWordChar s.1 = false := by decide +kernel
  obtain ⟨hkind, hword⟩ := htable _ h
  refine ⟨List.cons_ne_nil c [], .shortSign h hrest, fun _ => rfl,
    fun hquoted => absurd hquoted hkind, ?_, ?_⟩
  · rintro ⟨d, hd, hwordChar⟩
    obtain rfl : c = d := Option.some.inj hd
    rw [hword] at hwordChar
    contradiction
  · intro double hdouble hprefix
    obtain ⟨d, -, rfl⟩ := exists_of_mem_doubleSigns hdouble
    obtain ⟨-, hnext⟩ := List.cons_prefix_cons.1 hprefix
    obtain ⟨after, rfl⟩ := hnext
    exact absurd rfl hrest

lemma isSource_quoted {body text : Text} (h : Escapes body text) (rest : Text) :
    IsSource ('"' :: (body ++ ['"'])) (.quoted, text) rest := by
  have happend : '"' :: (body ++ ['"']) ++ rest = '"' :: (body ++ '"' :: rest) := by simp
  refine ⟨List.cons_ne_nil _ _, ?_, fun hkind => absurd rfl hkind, fun _ => ⟨body, rfl, h⟩, ?_, ?_⟩
  · rw [happend]
    exact .quoted (h.unquote_append rest)
  · rintro ⟨d, hd, hwordChar⟩
    obtain rfl : '"' = d := Option.some.inj hd
    exact absurd hwordChar (by decide +kernel)
  · intro double hdouble hprefix
    rw [happend] at hprefix
    exact absurd hprefix (not_prefix_of_head (by decide) hdouble)

lemma isSource_word {c : Char} {more rest : Text} (hword : ∀ d ∈ c :: more, isWordChar d)
    (hrest : ∀ d ∈ rest.head?, isWordChar d = false) :
    IsSource (c :: more) (Kind.ofWord (c :: more), c :: more) rest := by
  have hsign : c ∉ ['=', '!', '>', '<'] := by
    have htable : (['=', '!', '>', '<'].all fun d => !isWordChar d) = true := by decide +kernel
    intro hc
    have hnot := List.all_eq_true.1 htable c hc
    rw [hword c List.mem_cons_self] at hnot
    contradiction
  exact ⟨List.cons_ne_nil c more, .word more hword hrest, fun _ => rfl,
    fun hquoted => absurd hquoted (Kind.ofWord_ne (.inl rfl) _), fun _ => ⟨hword, hrest⟩,
    fun double hdouble hprefix => absurd hprefix (not_prefix_of_head hsign hdouble)⟩

/-- What is read off a text are characters at its beginning. -/
lemma Reads.exists_source {t rest : Text} {s : Kind × Text} (h : Reads t s rest) :
    ∃ source, t = source ++ rest ∧ IsSource source s rest := by
  cases h with
  | sign sign hsign => exact ⟨sign, rfl, isSource_sign hsign⟩
  | @shortSign c _ _ hsign hrest => exact ⟨[c], rfl, isSource_shortSign hsign hrest⟩
  | quoted hquote =>
    obtain ⟨body, rfl, hbody⟩ := unquote_eq_some_iff.1 hquote
    exact ⟨'"' :: (body ++ ['"']), by simp, isSource_quoted hbody rest⟩
  | @word c more _ hword hrest => exact ⟨c :: more, rfl, isSource_word hword hrest⟩

/-! ## Places in a query -/

/-- The place in a query behind the first characters, so many of them. -/
def Cursor.at (query : Text) (place : Nat) : Cursor := ⟨place, query.drop place⟩

/-- From one place to another there is only white space, and none follows. -/
structure Gap (query : Text) (place start : Nat) : Prop where
  le : place ≤ start
  blank : isBlankText (query.extract place start)
  first : ∃ c ∈ (query.drop start).head?, isBlank c = false

/-- A token takes the characters of a query from where it stands up to a place. -/
structure Token.Spans (query : Text) (t : Token) (stop : Nat) : Prop where
  lt : t.position < stop
  le : stop ≤ query.length
  source : IsSource (query.extract t.position stop) t.spelled (query.drop stop)

/-- What a call of the lexer comes to at a place of a query, and the place after it. -/
inductive Call (query : Text) (place : Nat) : Except SyntaxFault Token × Cursor → Prop where
  | ending (hblank : isBlankText (query.drop place)) :
      Call query place (.ok ⟨.ending, [], query.length⟩, .at query query.length)
  | token {t : Token} {stop : Nat} (hgap : Gap query place t.position)
      (hspans : t.Spans query stop) : Call query place (.ok t, .at query stop)
  | fault {cause : SyntaxCause} {start stop : Nat} (hgap : Gap query place start)
      (hunreadable : Unreadable (query.drop start)) (hstart : start ≤ stop)
      (hstop : stop ≤ query.length) :
      Call query place (.error ⟨cause, some start⟩, .at query stop)

namespace Cursor

variable {query : Text} {place start : Nat}

lemma moveTo_at {source rest : Text} (hstart : start ≤ query.length)
    (h : query.drop start = source ++ rest) :
    (Cursor.at query start).moveTo rest = .at query (start + source.length) ∧
      start + source.length ≤ query.length ∧
      query.extract start (start + source.length) = source ∧
      query.drop (start + source.length) = rest := by
  have hlength := congrArg List.length h
  rw [List.length_drop, List.length_append] at hlength
  have hdrop : query.drop (start + source.length) = rest := by
    rw [← List.drop_drop, h, List.drop_left]
  refine ⟨?_, by omega, ?_, hdrop⟩
  · simp only [moveTo, Cursor.at, hdrop, List.length_drop, Cursor.mk.injEq, and_true]
    omega
  · rw [List.extract_eq_take_drop, h, Nat.add_sub_cancel_left, List.take_left]

/-- White space is passed over up to the first other character, or up to the end. -/
lemma exists_start (hplace : place ≤ query.length) :
    (isBlankText (query.drop place) ∧
        (Cursor.at query place).skipBlanks = .at query query.length) ∨
      ∃ start ≤ query.length, Gap query place start ∧
        (Cursor.at query place).skipBlanks = .at query start := by
  have hsplit : query.drop place =
      (query.drop place).takeWhile isBlank ++ (query.drop place).dropWhile isBlank :=
    List.takeWhile_append_dropWhile.symm
  obtain ⟨hmove, hle, hextract, hdrop⟩ := moveTo_at hplace hsplit
  have hwhite : isBlankText ((query.drop place).takeWhile isBlank) :=
    List.all_eq_true.2 fun c hc => List.mem_takeWhile_imp hc
  cases hrest : (query.drop place).dropWhile isBlank with
  | nil =>
    rw [hrest, List.append_nil] at hsplit
    rw [hrest] at hdrop
    have hend : place + ((query.drop place).takeWhile isBlank).length = query.length := by
      have hlength := List.drop_eq_nil_iff.1 hdrop
      omega
    rw [hend] at hmove
    exact .inl ⟨hsplit ▸ hwhite, hmove⟩
  | cons c after =>
    refine .inr ⟨_, hle, ⟨Nat.le_add_right .., hextract.symm ▸ hwhite, c, ?_, ?_⟩, hmove⟩
    · rw [hdrop, hrest]
      rfl
    · have hnot := List.head?_dropWhile_not isBlank (query.drop place)
      rwa [hrest] at hnot

end Cursor

/-- Where reading goes on after a fault is not before the fault. -/
lemma Lexeme.exists_append_of_fault {c : Char} {after rest : Text} {cause : SyntaxCause}
    (h : Lexeme.read c after = .fault cause rest) : ∃ front, c :: after = front ++ rest := by
  rw [Lexeme.read.eq_def] at h
  split at h
  case h_3 =>
    split at h
    next => simp at h
    next =>
      obtain ⟨-, rfl⟩ := Lexeme.fault.inj h
      exact ⟨_, (List.append_nil _).symm⟩
  case h_11 =>
    obtain ⟨-, rfl⟩ := Lexeme.fault.inj h
    exact ⟨['!'], rfl⟩
  case h_12 =>
    split at h
    next => simp at h
    next =>
      obtain ⟨-, rfl⟩ := Lexeme.fault.inj h
      exact ⟨[], rfl⟩
  all_goals simp at h

/-- The step: every call of the lexer comes to one of the three. -/
lemma Cursor.call {query : Text} {place : Nat} (hplace : place ≤ query.length) :
    Call query place (Cursor.at query place).next := by
  rw [next]
  obtain ⟨hblank, hskip⟩ | ⟨start, hstart, hgap, hskip⟩ := exists_start hplace
  · rw [hskip]
    simp only [Cursor.at, List.drop_length]
    have hcall : Call query place (.ok ⟨.ending, [], query.length⟩, .at query query.length) :=
      .ending hblank
    rwa [Cursor.at, List.drop_length] at hcall
  · obtain ⟨c, hc, hnotBlank⟩ := hgap.first
    obtain ⟨after, hafter⟩ := List.head?_eq_some_iff.1 hc
    have hrest : (Cursor.at query start).rest = c :: after := hafter
    rw [hskip]
    simp only [hrest]
    cases hlexeme : Lexeme.read c after with
    | token kind text rest =>
      obtain ⟨source, hsplit, hsource⟩ := (Reads.of_read hlexeme).exists_source
      rw [← hafter] at hsplit
      obtain ⟨hmove, hle, hextract, hdrop⟩ := moveTo_at hstart hsplit
      have hlonger := List.length_pos_iff.2 hsource.ne_nil
      simp only [hmove]
      refine Call.token (t := ⟨kind, text, start⟩) hgap ⟨Nat.lt_add_of_pos_right hlonger, hle, ?_⟩
      rw [hextract, hdrop]
      exact hsource
    | fault cause rest =>
      obtain ⟨front, hsplit⟩ := Lexeme.exists_append_of_fault hlexeme
      rw [← hafter] at hsplit
      obtain ⟨hmove, hle, -, -⟩ := moveTo_at hstart hsplit
      have hunreadable := unreadable_of_read hnotBlank hlexeme
      simp only [hmove]
      exact .fault hgap (hafter ▸ hunreadable) (Nat.le_add_right ..) hle

/-! ## One call after another -/

/-- The tokens of a stream stand in a query side by side from a place on, with nothing but white
space between them, up to the end or to where no token begins. -/
inductive Tiles (query : Text) : Nat → TokenStream → Prop where
  | ending {place : Nat} (hblank : isBlankText (query.drop place)) :
      Tiles query place ⟨[], .ok ⟨.ending, [], query.length⟩⟩
  | fault {place start : Nat} {cause : SyntaxCause} (hgap : Gap query place start)
      (hunreadable : Unreadable (query.drop start)) :
      Tiles query place ⟨[], .error ⟨cause, some start⟩⟩
  | token {place stop : Nat} {t : Token} {stream : TokenStream} (hgap : Gap query place t.position)
      (hspans : t.Spans query stop) (hrest : Tiles query stop stream) :
      Tiles query place ⟨t :: stream.tokens, stream.ending⟩

lemma Token.Spans.kind_ne_ending {query : Text} {t : Token} {stop : Nat} (h : t.Spans query stop) :
    t.kind ≠ .ending :=
  h.source.reads.kind_ne_ending

/-- The run: the tokens that are read from a place on tile the query. -/
lemma Cursor.tiles {query : Text} {place : Nat} (hplace : place ≤ query.length) :
    Tiles query place (Cursor.at query place).tokens := by
  induction hleft : query.length - place using Nat.strong_induction_on generalizing place with
  | _ left ih =>
    have hcall := call hplace
    rcases hnext : (Cursor.at query place).next with ⟨answer, after⟩
    rw [hnext] at hcall
    cases hcall with
    | ending hblank =>
      rw [tokens_of_ending hnext rfl]
      exact .ending hblank
    | fault hgap hunreadable =>
      rw [tokens_of_fault hnext]
      exact .fault hgap hunreadable
    | token hgap hspans =>
      rw [tokens_of_next hnext hspans.kind_ne_ending]
      have hlt := hspans.lt
      have hle := hspans.le
      have hfrom := hgap.le
      exact .token hgap hspans (ih _ (by omega) hle rfl)

/-- Every token takes a character at least. -/
lemma Tiles.length_le {query : Text} {place : Nat} {stream : TokenStream}
    (h : Tiles query place stream) : stream.tokens.length ≤ query.length - place := by
  induction h with
  | ending => exact Nat.zero_le _
  | fault => exact Nat.zero_le _
  | token hgap hspans hrest ih =>
    have hlt := hspans.lt
    have hle := hspans.le
    have hfrom := hgap.le
    simp only [List.length_cons]
    omega

lemma Gap.not_isBlankText {query : Text} {place start : Nat} (h : Gap query place start) :
    ¬ isBlankText (query.drop place) := by
  obtain ⟨c, hc, hnot⟩ := h.first
  have hmem : c ∈ query.drop place :=
    (List.drop_sublist_drop_left query h.le).subset (List.mem_of_mem_head? hc)
  intro hblank
  have hyes : isBlank c = true := List.all_eq_true.1 hblank c hmem
  rw [hnot] at hyes
  contradiction

/-- Where nothing but white space is left, the lexer goes to the end, and there it stays. -/
lemma Cursor.next_of_blank {query : Text} {place : Nat} (hplace : place ≤ query.length)
    (hblank : isBlankText (query.drop place)) :
    (Cursor.at query place).next =
      (.ok ⟨.ending, [], query.length⟩, .at query query.length) := by
  have hcall := call hplace
  generalize (Cursor.at query place).next = answer at hcall
  cases hcall with
  | ending => rfl
  | token hgap => exact absurd hblank hgap.not_isBlankText
  | fault hgap => exact absurd hblank hgap.not_isBlankText

lemma Cursor.next_iterate_of_blank {query : Text} {place : Nat} (hplace : place ≤ query.length)
    (hblank : isBlankText (query.drop place)) (calls : Nat) :
    ((fun c : Cursor => c.next.2)^[calls] (.at query place)).next =
      (.ok ⟨.ending, [], query.length⟩, .at query query.length) := by
  have hend : (Cursor.at query query.length).next =
      (.ok ⟨.ending, [], query.length⟩, .at query query.length) := by
    refine next_of_blank (Nat.le_refl _) ?_
    rw [List.drop_length]
    rfl
  cases calls with
  | zero => exact next_of_blank hplace hblank
  | succ calls =>
    have hstays : (fun c : Cursor => c.next.2)^[calls] (.at query query.length) =
        .at query query.length := Function.iterate_fixed (congrArg Prod.snd hend) calls
    rw [Function.iterate_succ_apply, next_of_blank hplace hblank, hstays, hend]

/-- **The lexer tiles a query.**  Let it stand at any place of a query.

* It answers the ending token just when nothing but white space is left, and then it answers that
  token, at the end of the query, as often as it is asked.
* Any other token that it answers begins at the first character that is not white space.  It takes
  the characters from there to the place at which the lexer stands then, at least one.
* A fault is reported just when no token begins at that character.  The lexer does not go back then
  either, and stays in the query.
* So a query has at most as many tokens as characters, and the ending one.  They stand side by side,
  with nothing but white space between them. -/
theorem lexer_tiles {query : Text} {place : Nat} (hplace : place ≤ query.length) :
    let here := Cursor.at query place
    ((∃ t, here.next.1 = .ok t ∧ t.kind = .ending) ↔ isBlankText (query.drop place)) ∧
      (isBlankText (query.drop place) → ∀ calls,
        ((fun c : Cursor => c.next.2)^[calls] here).next =
          (.ok ⟨.ending, [], query.length⟩, .at query query.length)) ∧
      (∀ t after, here.next = (.ok t, after) → t.kind ≠ .ending →
        Gap query place t.position ∧ ∃ stop, t.Spans query stop ∧ after = .at query stop) ∧
      (∀ fault after, here.next = (.error fault, after) → ∃ start stop,
        fault.position = some start ∧ Gap query place start ∧ Unreadable (query.drop start) ∧
          start ≤ stop ∧ stop ≤ query.length ∧ after = .at query stop) ∧
      here.tokens.tokens.length + 1 ≤ query.length - place + 1 ∧
      Tiles query place here.tokens := by
  intro here
  have htiles : Tiles query place here.tokens := Cursor.tiles hplace
  have hlength := htiles.length_le
  have hcall : Call query place here.next := Cursor.call hplace
  refine ⟨?_, Cursor.next_iterate_of_blank hplace, fun t after hnext hkind => ?_,
    fun fault after hnext => ?_, by omega, htiles⟩
  · generalize here.next = answer at hcall
    cases hcall with
    | ending hblank => exact iff_of_true ⟨_, rfl, rfl⟩ hblank
    | @token t stop hgap hspans =>
      refine iff_of_false ?_ hgap.not_isBlankText
      rintro ⟨u, hu, hending⟩
      obtain rfl := Except.ok.inj hu
      exact hspans.kind_ne_ending hending
    | fault hgap =>
      refine iff_of_false ?_ hgap.not_isBlankText
      rintro ⟨u, hu, -⟩
      contradiction
  · rw [hnext] at hcall
    cases hcall with
    | ending => exact absurd rfl hkind
    | token hgap hspans => exact ⟨hgap, _, hspans, rfl⟩
  · rw [hnext] at hcall
    cases hcall with
    | fault hgap hunreadable hstart hstop =>
      exact ⟨_, _, rfl, hgap, hunreadable, hstart, hstop, rfl⟩

/-- From the middle of a word on: the rest of the word, a sign, a quoted text with an escaped quote,
and a sign that is none. -/
theorem lexer_tiles_of_quotes :
    let query : Text := "level>=\"a\\\"\" !"
    let here := Cursor.at query 3
    3 ≤ query.length ∧ here.next = (.ok ⟨.word, ['e', 'l'], 3⟩, .at query 5) ∧
      (Cursor.at query 5).next = (.ok ⟨.comparison .gte, ['>', '='], 5⟩, .at query 7) ∧
      (Cursor.at query 7).next = (.ok ⟨.quoted, ['a', '"'], 7⟩, .at query 12) ∧
      (Cursor.at query 12).next = (.error ⟨.unexpectedOperator '!', some 13⟩, .at query 14) ∧
      here.tokens.tokens.length + 1 ≤ 12 ∧ Tiles query 3 here.tokens := by
  intro query here
  have hplace : 3 ≤ query.length := by decide
  have hword : here.next = (.ok ⟨.word, ['e', 'l'], 3⟩, .at query 5) := by decide +kernel
  have hsign : (Cursor.at query 5).next = (.ok ⟨.comparison .gte, ['>', '='], 5⟩, .at query 7) := by
    decide +kernel
  have hquoted : (Cursor.at query 7).next = (.ok ⟨.quoted, ['a', '"'], 7⟩, .at query 12) := by
    decide +kernel
  have hfault : (Cursor.at query 12).next =
      (.error ⟨.unexpectedOperator '!', some 13⟩, .at query 14) := by
    decide +kernel
  obtain ⟨-, -, -, -, hlength, htiles⟩ := lexer_tiles hplace
  exact ⟨hplace, hword, hsign, hquoted, hfault, hlength, htiles⟩

end LogSearch.Query
