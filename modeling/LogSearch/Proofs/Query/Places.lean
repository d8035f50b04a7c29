import LogSearch.Proofs.Query.Spelling

/-!
# Where tokens stand

A token keeps the number of characters before it, and a fault of the lexer keeps the place where it
shows.  `Scans` is the account of the lexer that goes with this: what it reads off a text that
begins at a position, token by token, until the text ends or something stands there that is no token
(`Cursor.scans`).  Seen from the whole query (`StandsIn`), every token is spelled where it says that
it stands, tokens stand there in their order, and reading ends behind the last character or at the
first place that cannot be read.
-/

namespace LogSearch.Query

open Text

/-- Something other than white space stands at the beginning of a text, and it is no token. -/
def Unreadable (t : Text) : Prop :=
  (∃ c ∈ t.head?, isBlank c = false) ∧ ∀ s rest, ¬ Reads t s rest

/-! ## The characters of a token -/

lemma exists_append_of_unquote {t : Text} {r : Text × Text} (h : unquote t = some r) :
    ∃ front, t = front ++ r.2 := by
  fun_induction unquote t generalizing r with
  | case1 => simp at h
  | case2 rest =>
    obtain rfl := Option.some.inj h
    exact ⟨['"'], rfl⟩
  | case3 c rest ih =>
    obtain ⟨u, hu, rfl⟩ := Option.map_eq_some_iff.1 h
    obtain ⟨front, rfl⟩ := ih hu
    exact ⟨'\\' :: c :: front, rfl⟩
  | case4 c rest _ _ ih =>
    obtain ⟨u, hu, rfl⟩ := Option.map_eq_some_iff.1 h
    obtain ⟨front, rfl⟩ := ih hu
    exact ⟨c :: front, rfl⟩

/-- A token takes some characters off the front of the text. -/
lemma Reads.exists_front {t rest : Text} {s : Kind × Text} (h : Reads t s rest) :
    ∃ front, front ≠ [] ∧ t = front ++ rest := by
  cases h with
  | sign sign hsign =>
    have htable : (signs.all fun s => s.1 ≠ []) = true := by decide
    exact ⟨sign, by simpa using List.all_eq_true.1 htable _ hsign, rfl⟩
  | @shortSign c => exact ⟨[c], List.cons_ne_nil c [], rfl⟩
  | quoted hquote =>
    obtain ⟨front, rfl⟩ := exists_append_of_unquote hquote
    exact ⟨'"' :: front, List.cons_ne_nil _ _, rfl⟩
  | @word c more => exact ⟨c :: more, List.cons_ne_nil c more, rfl⟩

/-! ## Reading from a position on -/

/-- What the lexer reads off a text that begins at a position. -/
inductive Scans : Nat → Text → TokenStream → Prop where
  | ending {position : Nat} : Scans position [] ⟨[], .ok ⟨.ending, [], position⟩⟩
  | fault {position : Nat} {t : Text} {cause : SyntaxCause} (ht : Unreadable t) :
      Scans position t ⟨[], .error ⟨cause, some position⟩⟩
  | blank {position : Nat} {c : Char} {rest : Text} {stream : TokenStream} (hc : isBlank c)
      (hrest : Scans (position + 1) rest stream) : Scans position (c :: rest) stream
  | token {position : Nat} {front rest : Text} {s : Kind × Text} {stream : TokenStream}
      (hfront : front ≠ []) (hread : Reads (front ++ rest) s rest)
      (hrest : Scans (position + front.length) rest stream) :
      Scans position (front ++ rest) ⟨⟨s.1, s.2, position⟩ :: stream.tokens, stream.ending⟩

lemma unreadable_of_read {c : Char} {after rest : Text} {cause : SyntaxCause}
    (hc : isBlank c = false) (hlexeme : Lexeme.read c after = .fault cause rest) :
    Unreadable (c :: after) := by
  refine ⟨⟨c, rfl, hc⟩, fun s rest hread => ?_⟩
  obtain ⟨d, more, heq, -, htoken⟩ := hread.exists_read
  obtain ⟨rfl, rfl⟩ := List.cons.inj heq
  rw [hlexeme] at htoken
  cases htoken

/-- The tokens from a cursor on are read off the text behind it. -/
lemma Cursor.scans (position : Nat) (t : Text) :
    Scans position t (Cursor.mk position t).tokens := by
  induction hlength : t.length using Nat.strong_induction_on generalizing position t with
  | _ n ih =>
    cases t with
    | nil =>
      rw [Cursor.tokens_nil]
      exact .ending
    | cons c after =>
      rw [List.length_cons] at hlength
      cases hc : isBlank c with
      | true =>
        rw [Cursor.tokens_eq_of_next_eq (Cursor.next_blank hc position after)]
        exact .blank hc (ih after.length (by omega) (position + 1) after rfl)
      | false =>
        cases hlexeme : Lexeme.read c after with
        | fault cause rest =>
          obtain ⟨later, hnext⟩ := Cursor.exists_next_of_fault hc hlexeme position
          rw [Cursor.tokens_of_fault hnext]
          exact .fault (unreadable_of_read hc hlexeme)
        | token kind text rest =>
          have hread := Reads.of_read hlexeme
          have hshorter := Lexeme.read_shortens hlexeme
          obtain ⟨front, hfront, happend⟩ := hread.exists_front
          have htaken : after.length + 1 - rest.length = front.length := by
            have hsum := congrArg List.length happend
            simp only [List.length_cons, List.length_append] at hsum
            omega
          rw [Cursor.tokens_of_next (Cursor.next_of_read hc hlexeme position)
            hread.kind_ne_ending, htaken]
          rw [happend] at hread ⊢
          exact .token hfront hread (ih rest.length (by omega) _ rest rfl)

/-! ## Seen from the query -/

/-- How reading a query ends, and where. -/
inductive EndsAt (query : Text) : Except SyntaxFault Token → Nat → Prop where
  | ending : EndsAt query (.ok ⟨.ending, [], query.length⟩) query.length
  | fault {cause : SyntaxCause} {place : Nat} (hplace : Unreadable (query.drop place)) :
      EndsAt query (.error ⟨cause, some place⟩) place

/-- The tokens of a stream stand in a query, from a place on, one behind the other. -/
structure StandsIn (query : Text) (place : Nat) (stream : TokenStream) : Prop where
  reads : ∀ t ∈ stream.tokens, place ≤ t.position ∧
    ∃ rest, Reads (query.drop t.position) t.spelled rest
  ordered : stream.tokens.Pairwise fun t u => t.position < u.position
  ends : ∃ last, EndsAt query stream.ending last ∧ place ≤ last ∧
    ∀ t ∈ stream.tokens, t.position < last

/-- What is read off the rest of a query stands in the query. -/
lemma Scans.standsIn {position : Nat} {t : Text} {stream : TokenStream}
    (h : Scans position t stream) {query before : Text} (hquery : query = before ++ t)
    (hposition : before.length = position) : StandsIn query position stream := by
  induction h generalizing before with
  | @ending position =>
    obtain rfl : query.length = position := by simpa [hquery] using hposition
    exact ⟨by simp, .nil, _, .ending, le_rfl, by simp⟩
  | @fault position t cause ht =>
    have hdrop : query.drop position = t := by rw [hquery, ← hposition, List.drop_left]
    exact ⟨by simp, .nil, position, .fault (hdrop ▸ ht), le_rfl, by simp⟩
  | @blank position c rest stream _ hrest ih =>
    obtain ⟨hreads, hordered, last, hends, hle, hlast⟩ :=
      @ih (before ++ [c]) (by simp [hquery]) (by simp [hposition])
    refine ⟨fun t ht => ?_, hordered, last, hends, by omega, hlast⟩
    obtain ⟨hplace, hread⟩ := hreads t ht
    exact ⟨by omega, hread⟩
  | @token position front rest s stream hfront hread hrest ih =>
    obtain ⟨hreads, hordered, last, hends, hle, hlast⟩ :=
      @ih (before ++ front) (by simp [hquery]) (by simp [hposition])
    have hdrop : query.drop position = front ++ rest := by
      rw [hquery, ← hposition, List.drop_left]
    have hpos : 0 < front.length := List.length_pos_iff.2 hfront
    refine ⟨?_, List.pairwise_cons.2 ⟨fun t ht => ?_, hordered⟩, last, hends, by omega, ?_⟩
    · refine List.forall_mem_cons.2 ⟨⟨le_rfl, rest, hdrop ▸ hread⟩, fun t ht => ?_⟩
      obtain ⟨hplace, hread⟩ := hreads t ht
      exact ⟨by omega, hread⟩
    · have hplace := (hreads t ht).1
      show position < t.position
      omega
    · exact List.forall_mem_cons.2 ⟨show position < last by omega, hlast⟩

lemma tokens_standsIn (query : Text) : StandsIn query 0 (tokens query) :=
  (Cursor.scans 0 query).standsIn (List.nil_append query).symm rfl

lemma EndsAt.le_length {query : Text} {ending : Except SyntaxFault Token} {last : Nat}
    (h : EndsAt query ending last) : last ≤ query.length := by
  cases h with
  | ending => exact le_rfl
  | fault hplace =>
    obtain ⟨⟨c, hc, -⟩, -⟩ := hplace
    by_contra hbeyond
    rw [List.drop_eq_nil_of_le (by omega)] at hc
    cases hc

/-! ## The tokens before a place -/

/-- The tokens of a query that begin before a place. -/
def tokensBefore (query : Text) (place : Nat) : List Token :=
  (tokens query).tokens.filter fun t => t.position < place

lemma tokensBefore_token {query : Text} {before after : List Token} {t : Token}
    (h : (tokens query).tokens = before ++ t :: after) :
    tokensBefore query t.position = before := by
  have hordered := (tokens_standsIn query).ordered
  rw [h, List.pairwise_append, List.pairwise_cons] at hordered
  obtain ⟨-, ⟨hafter, -⟩, hbefore⟩ := hordered
  rw [tokensBefore, h, List.filter_append, List.filter_eq_self.2, List.filter_eq_nil_iff.2,
    List.append_nil]
  · refine List.forall_mem_cons.2 ⟨by simp, fun u hu => ?_⟩
    have hlt := hafter u hu
    simp only [decide_eq_true_eq]
    omega
  · exact fun u hu => decide_eq_true (hbefore u hu t List.mem_cons_self)

end LogSearch.Query
