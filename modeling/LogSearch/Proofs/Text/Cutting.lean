import LogSearch.Text.Basic
import LogSearch.Text.Letters
import Mathlib.Data.List.TakeWhile
import Mathlib.Tactic.Lemma

/-!
# Cutting and trimming

Texts are cut at the first occurrence of a character, after a run of characters, after a beginning,
split at every occurrence of a character, and trimmed at both ends.  Each of these is described here
by the text put together again: what is cut off is a part of the text that can be named, and nothing
else is lost.

White space is a table of a few ranges (`of_isBlank`), so a property of all of it is one look at the
table; no letter is white space.
-/

namespace LogSearch.Text

variable {c : Char} {t before after : Text}

/-! ## Cutting -/

lemma cutAt?_append (ht : c ∉ t) (rest : Text) : cutAt? c (t ++ c :: rest) = some (t, rest) := by
  induction t with
  | nil => simp [cutAt?]
  | cons d t ih =>
    rw [List.mem_cons, not_or] at ht
    rw [List.cons_append, cutAt?, if_neg (Ne.symm ht.1), ih ht.2]
    rfl

lemma cutAt?_eq_some_iff :
    cutAt? c t = some (before, after) ↔ c ∉ before ∧ t = before ++ c :: after := by
  constructor
  · intro h
    induction t generalizing before with
    | nil => simp [cutAt?] at h
    | cons d t ih =>
      rw [cutAt?] at h
      split at h
      next hd =>
        obtain ⟨rfl, rfl⟩ := Prod.mk.inj (Option.some.inj h)
        exact ⟨List.not_mem_nil, by rw [hd, List.nil_append]⟩
      next hd =>
        obtain ⟨⟨front, behind⟩, hcut, hparts⟩ := Option.map_eq_some_iff.1 h
        obtain ⟨rfl, rfl⟩ := Prod.mk.inj hparts
        obtain ⟨hfront, rfl⟩ := ih hcut
        rw [List.mem_cons, not_or]
        exact ⟨⟨Ne.symm hd, hfront⟩, rfl⟩
  · rintro ⟨hbefore, rfl⟩
    exact cutAt?_append hbefore after

/-- The longest run of items with a property ends where it was written to end. -/
lemma span_append {α : Type} {p : α → Bool} {run rest : List α} (hrun : ∀ a ∈ run, p a)
    (hrest : ∀ a ∈ rest.head?, p a = false) :
    (run ++ rest).takeWhile p = run ∧ (run ++ rest).dropWhile p = rest := by
  rw [List.takeWhile_append_of_pos hrun, List.dropWhile_append_of_pos hrun]
  cases rest with
  | nil => simp
  | cons a rest =>
    have ha : p a = false := hrest a rfl
    simp [ha]

lemma after?_append (start rest : Text) : after? start (start ++ rest) = some rest := by
  rw [after?, if_pos (by simp), List.drop_left]

lemma after?_singleton_eq_some_iff : after? [c] t = some after ↔ t = c :: after := by
  constructor
  · intro h
    cases t with
    | nil => simp [after?] at h
    | cons d t =>
      rw [after?] at h
      split at h
      next hstart =>
        obtain rfl : c = d := by simpa using hstart
        rw [← Option.some.inj h]
        rfl
      next => contradiction
  · rintro rfl
    exact after?_append [c] after

lemma after?_singleton_eq_none_iff : after? [c] t = none ↔ t.head? ≠ some c := by
  cases t with
  | nil => simp [after?]
  | cons d t => grind [after?]

/-! ## Splitting -/

section Split

variable {piece : Text} {pieces : List Text}

lemma join_cons_cons (separator piece next : Text) (pieces : List Text) :
    join separator (piece :: next :: pieces) =
      piece ++ separator ++ join separator (next :: pieces) := rfl

lemma splitAt_of_notMem (ht : c ∉ t) : splitAt c t = [t] := by
  induction t with
  | nil => rfl
  | cons d t ih =>
    rw [List.mem_cons, not_or] at ht
    rw [splitAt, if_neg (Ne.symm ht.1), ih ht.2]

lemma splitAt_append_cons (ht : c ∉ t) (rest : Text) :
    splitAt c (t ++ c :: rest) = t :: splitAt c rest := by
  induction t with
  | nil => rw [List.nil_append, splitAt, if_pos rfl]
  | cons d t ih =>
    rw [List.mem_cons, not_or] at ht
    rw [List.cons_append, splitAt, if_neg (Ne.symm ht.1), ih ht.2]

lemma splitAt_join (hpieces : ∀ piece ∈ pieces, c ∉ piece) (hne : pieces ≠ []) :
    splitAt c (join [c] pieces) = pieces := by
  induction pieces with
  | nil => exact absurd rfl hne
  | cons piece pieces ih =>
    rw [List.forall_mem_cons] at hpieces
    cases pieces with
    | nil => exact splitAt_of_notMem hpieces.1
    | cons next pieces =>
      rw [join_cons_cons, List.append_assoc, List.singleton_append, splitAt_append_cons hpieces.1,
        ih hpieces.2 (List.cons_ne_nil next pieces)]

/-- The pieces of a text are those without the separator of which it is the join. -/
lemma eq_splitAt_iff :
    pieces = splitAt c t ↔ pieces ≠ [] ∧ (∀ piece ∈ pieces, c ∉ piece) ∧ join [c] pieces = t := by
  constructor
  · rintro rfl
    induction hlength : t.length using Nat.strongRecOn generalizing t with
    | _ n ih =>
      by_cases hc : c ∈ t
      · obtain ⟨before, after, rfl, hbefore⟩ := List.eq_append_cons_of_mem hc
        obtain ⟨hne, hpieces, hjoin⟩ := ih after.length (by simp [← hlength]; omega) rfl
        obtain ⟨next, pieces, hnext⟩ := List.exists_cons_of_ne_nil hne
        rw [splitAt_append_cons hbefore, List.forall_mem_cons]
        refine ⟨List.cons_ne_nil _ _, ⟨hbefore, hpieces⟩, ?_⟩
        rw [hnext, join_cons_cons, ← hnext, hjoin, List.append_assoc, List.singleton_append]
      · rw [splitAt_of_notMem hc, List.forall_mem_singleton]
        exact ⟨List.cons_ne_nil t [], hc, rfl⟩
  · rintro ⟨hne, hpieces, rfl⟩
    rw [splitAt_join hpieces hne]

end Split

/-! ## White space -/

lemma Ranges.exists_mem_of_contains {ranges : Ranges} {n : Nat} (h : ranges.contains n) :
    ∃ range ∈ ranges, range.1 ≤ n ∧ n ≤ range.2 := by
  induction ranges with
  | nil => simp [Ranges.contains] at h
  | cons range rest ih =>
    rw [Ranges.contains] at h
    split at h
    next => simp at h
    next hlow =>
      split at h
      next hhigh => exact ⟨range, List.mem_cons_self, by omega, hhigh⟩
      next =>
        obtain ⟨range, hmem, hin⟩ := ih h
        exact ⟨range, List.mem_cons_of_mem _ hmem, hin⟩

/-- What holds of the code points in the table holds of all white space. -/
lemma of_isBlank {p : Char → Prop}
    (htable : ∀ range ∈ blanks, ∀ k ≤ range.2 - range.1, p (Char.ofNat (range.1 + k)))
    (hc : isBlank c) : p c := by
  obtain ⟨range, hmem, hlow, hhigh⟩ := Ranges.exists_mem_of_contains hc
  have hchar := htable range hmem (c.toNat - range.1) (by omega)
  rwa [Nat.add_sub_cancel' hlow, Char.ofNat_toNat] at hchar

lemma isBlank_of_isLetter (hc : isLetter c) : isBlank c = false := by
  have hletter : isBlank c → isLetter c = false :=
    of_isBlank (p := fun c => isLetter c = false) (by decide +kernel)
  cases hblank : isBlank c with
  | false => rfl
  | true => rw [← hc, hletter hblank]

/-! ## Trimming -/

/-- What is trimmed off the end of two texts together goes into the first one only if nothing is
left of the second one. -/
lemma trimEndBy_append (drop : Char → Bool) (t u : Text) :
    trimEndBy drop (t ++ u) =
      if trimEndBy drop u = [] then trimEndBy drop t else t ++ trimEndBy drop u := by
  simp only [trimEndBy, List.reverse_append, List.dropWhile_append, List.isEmpty_iff,
    List.reverse_eq_nil_iff]
  split
  · rfl
  · rw [List.reverse_append, List.reverse_reverse]

lemma trimEndBy_eq_nil_iff {drop : Char → Bool} : trimEndBy drop t = [] ↔ ∀ c ∈ t, drop c := by
  simp [trimEndBy]

/-- The last character of a text that was trimmed is not one of those that are trimmed off. -/
lemma drop_of_mem_getLast?_trimEndBy {drop : Char → Bool} (hc : c ∈ (trimEndBy drop t).getLast?) :
    drop c = false := by
  have hhead := List.head?_dropWhile_not drop t.reverse
  rw [trimEndBy, List.getLast?_reverse] at hc
  rwa [Option.mem_def.1 hc] at hhead

lemma trimEndBy_eq_self {drop : Char → Bool} (hlast : ∀ c ∈ t.getLast?, drop c = false) :
    trimEndBy drop t = t := by
  rcases List.eq_nil_or_concat t with rfl | ⟨front, c, rfl⟩
  · rfl
  · have hc : drop c = false := hlast c (by simp)
    simp [trimEndBy, hc]

lemma strip_eq_self (hfirst : ∀ c ∈ t.head?, isBlank c = false)
    (hlast : ∀ c ∈ t.getLast?, isBlank c = false) : strip t = t := by
  have hdrop : ∀ {u : Text}, (∀ c ∈ u.head?, isBlank c = false) → u.dropWhile isBlank = u := by
    intro u hu
    cases u with
    | nil => rfl
    | cons c rest => simp [hu c rfl]
  rw [strip, trimBy, hdrop hfirst, hdrop (by rwa [List.head?_reverse]), List.reverse_reverse]

lemma strip_eq_self_of_forall (h : ∀ c ∈ t, isBlank c = false) : strip t = t :=
  strip_eq_self (fun c hc => h c (List.mem_of_mem_head? hc))
    (fun c hc => h c (List.mem_of_mem_getLast? hc))

lemma exists_eq_append_strip (t : Text) :
    ∃ front back, t = front ++ strip t ++ back ∧ isBlankText front ∧ isBlankText back := by
  let rest := t.dropWhile isBlank
  refine ⟨t.takeWhile isBlank, (rest.reverse.takeWhile isBlank).reverse, ?_, List.all_takeWhile, ?_⟩
  · have hrest : rest = strip t ++ (rest.reverse.takeWhile isBlank).reverse := by
      rw [strip, trimBy, ← List.reverse_append, List.takeWhile_append_dropWhile,
        List.reverse_reverse]
    rw [List.append_assoc, ← hrest, List.takeWhile_append_dropWhile]
  · rw [isBlankText, List.all_reverse]
    exact List.all_takeWhile

lemma isBlank_of_mem_getLast?_strip (hc : c ∈ (strip t).getLast?) : isBlank c = false := by
  have hhead := List.head?_dropWhile_not isBlank (t.dropWhile isBlank).reverse
  rw [strip, trimBy, List.getLast?_reverse] at hc
  rw [Option.mem_def.1 hc] at hhead
  exact hhead

lemma isBlank_of_mem_head?_strip (hc : c ∈ (strip t).head?) : isBlank c = false := by
  have hhead := List.head?_dropWhile_not isBlank t
  have hfirst : (t.dropWhile isBlank).head? = some c := by
    rw [← (t.dropWhile isBlank).reverse_reverse, ← List.takeWhile_append_dropWhile
      (p := isBlank) (l := (t.dropWhile isBlank).reverse), List.reverse_append, List.head?_append]
    rw [strip, trimBy] at hc
    rw [Option.mem_def.1 hc]
    rfl
  rw [hfirst] at hhead
  exact hhead

lemma strip_strip (t : Text) : strip (strip t) = strip t :=
  strip_eq_self (fun _ => isBlank_of_mem_head?_strip) (fun _ => isBlank_of_mem_getLast?_strip)

/-- A trimmed text stays trimmed behind a text that does not begin with white space. -/
lemma strip_append_eq_self {front : Text} (hfront : ∀ c ∈ front.head?, isBlank c = false)
    (ht : strip t = t) (hne : t ≠ []) : strip (front ++ t) = front ++ t := by
  refine strip_eq_self (fun c hc => ?_) (fun c hc => ?_)
  · cases front with
    | nil =>
      rw [List.nil_append, ← ht] at hc
      exact isBlank_of_mem_head?_strip hc
    | cons d front => exact hfront c hc
  · have hend : (front ++ t).getLast? = t.getLast? := by
      rw [List.getLast?_append, List.getLast?_eq_some_getLast hne]
      rfl
    rw [hend, ← ht] at hc
    exact isBlank_of_mem_getLast?_strip hc

lemma strip_append_of_isBlankText {white : Text} (hwhite : isBlankText white) (t : Text) :
    strip (white ++ t) = strip t := by
  rw [strip, trimBy, List.dropWhile_append_of_pos (List.all_eq_true.1 hwhite)]
  rfl

/-- Only the front of a text is stripped off if it does not end with white space. -/
lemma exists_eq_append_strip_of_last (hlast : ∀ c ∈ t.getLast?, isBlank c = false) :
    ∃ front, t = front ++ strip t ∧ isBlankText front := by
  obtain ⟨front, back, ht, hfront, hback⟩ := exists_eq_append_strip t
  have hnothing : back = [] := by
    by_contra hne
    have hmem := List.getLast_mem hne
    have hblank := List.all_eq_true.1 hback _ hmem
    have hend : t.getLast? = some (back.getLast hne) := by
      rw [ht, List.getLast?_append, List.getLast?_eq_some_getLast hne]
      rfl
    rw [hlast _ hend] at hblank
    contradiction
  rw [hnothing, List.append_nil] at ht
  exact ⟨front, ht, hfront⟩

lemma strip_eq_nil_iff : strip t = [] ↔ isBlankText t := by
  constructor
  · intro h
    obtain ⟨front, back, ht, hfront, hback⟩ := exists_eq_append_strip t
    rw [ht, h, List.append_nil, isBlankText, List.all_append, Bool.and_eq_true]
    exact ⟨hfront, hback⟩
  · intro h
    rw [strip, trimBy, List.dropWhile_eq_nil_iff.2 (List.all_eq_true.1 h)]
    rfl

end LogSearch.Text
