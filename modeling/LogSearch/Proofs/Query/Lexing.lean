import LogSearch.Proofs.Text.Cutting
import LogSearch.Query.Cursor

/-!
# Reading tokens one by one

What `Cursor.next` makes of the beginning of a text, whatever follows.  White space is passed over
(`next_blank`).  Then comes a lexeme (`next_of_read`): a word ends where a character follows that is
no word character (`Lexeme.read_word`), and a quoted text ends at its quote
(`Lexeme.read_quoted`).  The tokens of a query are found by taking off one after the other
(`tokens_of_next`).
-/

namespace LogSearch.Query

open Text

/-! ## Lexemes -/

lemma Lexeme.read_word {c : Char} {more rest : Text} (hsign : c ∉ ("()\"=!<>" : Text))
    (hc : isWordChar c) (hmore : ∀ d ∈ more, isWordChar d)
    (hrest : ∀ d ∈ rest.head?, isWordChar d = false) :
    Lexeme.read c (more ++ rest) = .token (Kind.ofWord (c :: more)) (c :: more) rest := by
  obtain ⟨htake, hdrop⟩ := span_append hmore hrest
  rw [Lexeme.read.eq_def]
  split
  case h_12 => simp only [hc, if_true, htake, hdrop]
  -- the other cases are those of the signs
  all_goals exact absurd (by decide) hsign

lemma Lexeme.read_quoted {after text rest : Text} (h : unquote after = some (text, rest)) :
    Lexeme.read '"' after = .token .quoted text rest := by
  simp only [Lexeme.read, h]

/-! ## The next token -/

namespace Cursor

variable {position : Nat} {c : Char} {more rest text : Text} {kind : Kind} {t : Token}

lemma next_blank (hc : isBlank c) (position : Nat) (rest : Text) :
    (Cursor.mk position (c :: rest)).next = (Cursor.mk (position + 1) rest).next := by
  have hskip : (Cursor.mk position (c :: rest)).skipBlanks =
      (Cursor.mk (position + 1) rest).skipBlanks := by
    have hle := (List.dropWhile_suffix (l := rest) isBlank).length_le
    simp only [skipBlanks, moveTo, List.dropWhile_cons_of_pos hc, List.length_cons]
    congr 1
    omega
  rw [next, next, hskip]

/-- A lexeme that begins with a character that is not blank is the next token. -/
lemma next_of_read (hc : isBlank c = false) (hread : Lexeme.read c more = .token kind text rest)
    (position : Nat) :
    (Cursor.mk position (c :: more)).next =
      (.ok ⟨kind, text, position⟩, ⟨position + (more.length + 1 - rest.length), rest⟩) := by
  have hskip : (Cursor.mk position (c :: more)).skipBlanks = ⟨position, c :: more⟩ := by
    simp [skipBlanks, moveTo, hc]
  rw [next, hskip]
  simp only [hread, moveTo, List.length_cons]

lemma next_nil (position : Nat) :
    (Cursor.mk position []).next = (.ok ⟨.ending, [], position⟩, ⟨position, []⟩) := by
  simp [next, skipBlanks, moveTo]

lemma tokens_of_next {here after : Cursor} (h : here.next = (.ok t, after))
    (ht : t.kind ≠ .ending) :
    here.tokens = ⟨t :: after.tokens.tokens, after.tokens.ending⟩ := by
  rw [tokens]
  split
  next hfault =>
    rw [h] at hfault
    simp at hfault
  next hnext =>
    rw [h, Prod.mk.injEq, Except.ok.injEq] at hnext
    obtain ⟨rfl, rfl⟩ := hnext
    rw [dif_neg ht]

lemma tokens_nil (position : Nat) :
    (Cursor.mk position []).tokens = ⟨[], .ok ⟨.ending, [], position⟩⟩ := by
  rw [tokens]
  split
  next hfault => simp [next_nil] at hfault
  next hnext =>
    rw [next_nil, Prod.mk.injEq, Except.ok.injEq] at hnext
    obtain ⟨rfl, -⟩ := hnext
    rw [dif_pos rfl]

end Cursor

end LogSearch.Query
