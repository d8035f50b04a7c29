import LogSearch.Proofs.Ingestion.OnePass
import LogSearch.Proofs.Text.Subparts
import Mathlib

/-!
# The text of a file and the texts of its lines

A file is read line by line: its bytes are cut after every line feed, and the bytes of each line are
read as a text of their own.  The result is the same as if all bytes were read as one text and this
text were cut after every line feed (`decoded_line_by_line`).

That is so of any bytes.  A line may begin or end in the middle of a character, but the line feed
behind it is a byte of ASCII: it is never part of a run that is replaced, and nothing else is read
as one.  So the same line feeds stand in the bytes and in the text, and what stands between two of
them is read without a look at what stands around.

`CutAfter` says what it is to cut a list after every occurrence of a mark, for bytes and for
characters alike.
-/

namespace LogSearch.Ingestion

/-! ## Cutting after a mark -/

section Cut

variable {α : Type} {mark : α} {whole whole' : List α} {pieces pieces' : List (List α)}

/-- The pieces of a list that is cut after every occurrence of a mark.  What is left after the last
one is a piece of its own, if there is anything. -/
inductive CutAfter (mark : α) : List α → List (List α) → Prop where
  | nothing : CutAfter mark [] []
  | last {piece : List α} (hne : piece ≠ []) (hmark : mark ∉ piece) : CutAfter mark piece [piece]
  | next (front : List α) {rest : List α} {pieces : List (List α)} (hfront : mark ∉ front)
      (hrest : CutAfter mark rest pieces) :
      CutAfter mark (front ++ mark :: rest) ((front ++ [mark]) :: pieces)

/-- What stands before the first mark, and what stands behind it. -/
lemma eq_of_append_mark {front front' rest rest' : List α} (hfront : mark ∉ front)
    (hfront' : mark ∉ front') (h : front ++ mark :: rest = front' ++ mark :: rest') :
    front = front' ∧ rest = rest' := by
  -- if one front were longer, the other mark would stand in it
  obtain ⟨between, rfl, hbetween⟩ | ⟨between, rfl, hbetween⟩ := List.append_eq_append_iff.1 h
  all_goals
    cases between with
    | nil =>
      rw [List.nil_append, List.cons.injEq] at hbetween
      exact ⟨by simp, by rw [hbetween.2]⟩
    | cons a between =>
      obtain ⟨rfl, -⟩ := List.cons.inj hbetween
      simp at hfront hfront'

lemma CutAfter.unique (h : CutAfter mark whole pieces) (h' : CutAfter mark whole' pieces')
    (heq : whole = whole') : pieces = pieces' := by
  induction h generalizing whole' pieces' with
  | nothing =>
    cases h' with
    | nothing => rfl
    | last hne => exact absurd heq.symm hne
    | next => simp at heq
  | last hne hmark =>
    cases h' with
    | nothing => exact absurd heq hne
    | last => rw [heq]
    | next => simp [heq] at hmark
  | next front hfront hrest ih =>
    cases h' with
    | nothing => simp at heq
    | last _ hmark => simp [← heq] at hmark
    | next front' hfront' hrest' =>
      obtain ⟨rfl, rfl⟩ := eq_of_append_mark hfront hfront' heq
      rw [ih hrest' rfl]

end Cut

/-- Lines are what the bytes are cut into after every line feed. -/
lemma cutAfter_splitLines (bytes : Bytes) : CutAfter 10 bytes (splitLines bytes) := by
  induction bytes with
  | nil => exact .nothing
  | cons b rest ih =>
    rw [splitLines]
    split
    next hfeed =>
      rw [hfeed]
      exact .next [] List.not_mem_nil ih
    next hother =>
      -- the byte goes to the front of the first line, or is a line if there is none
      generalize splitLines rest = lines at ih ⊢
      cases ih with
      | nothing => exact .last (List.cons_ne_nil b []) (by simpa using Ne.symm hother)
      | last hne hmark => exact .last (List.cons_ne_nil b rest) (by simp [Ne.symm hother, hmark])
      | next front hfront hrest =>
        exact .next (b :: front) (by simp [Ne.symm hother, hfront]) hrest

/-! ## Reading line by line -/

lemma notMem_decodeLossy {bytes : Bytes} (h : (10 : UInt8) ∉ bytes) :
    '\n' ∉ Utf8.decodeLossy bytes :=
  fun hmem => h (Utf8.mem_of_mem_decodeLossy (by decide) hmem)

lemma decodeLossy_ne_nil {bytes : Bytes} (h : bytes ≠ []) : Utf8.decodeLossy bytes ≠ [] := by
  obtain ⟨b, rest, rfl⟩ := List.exists_cons_of_ne_nil h
  rw [Utf8.decodeLossy, ne_eq, List.map_eq_nil_iff]
  exact Utf8.itemsFrom_cons_ne_nil

/-- Where bytes are cut, their text is cut, and into the texts of the pieces. -/
lemma CutAfter.map_decodeLossy {bytes : Bytes} {lines : List Bytes} (h : CutAfter 10 bytes lines) :
    CutAfter '\n' (Utf8.decodeLossy bytes) (lines.map Utf8.decodeLossy) := by
  induction h with
  | nothing => exact .nothing
  | last hne hmark => exact .last (decodeLossy_ne_nil hne) (notMem_decodeLossy hmark)
  | next front hfront _ ih =>
    have hfeed : ∀ behind, Utf8.decodeLossy (front ++ 10 :: behind) =
        Utf8.decodeLossy front ++ '\n' :: Utf8.decodeLossy behind :=
      Utf8.decodeLossy_append_cons (by decide) front
    rw [List.map_cons, hfeed, hfeed]
    exact .next _ (notMem_decodeLossy hfront) ih

/-- **Reading line by line is reading the whole.**  Of any bytes,

* the lines are what is left when the bytes are cut after every line feed;
* the texts of the lines are what is left when the text of all bytes is cut after every line feed;
* what each of them is read as is the text in which one replacement stands for every longest run
  that is no character;
* the lengths of the lines add up to the number of bytes;
* at each moment of the reading the offset has moved by the number of bytes that were taken, which
  are those at the front, and in the end by the number of all. -/
theorem decoded_line_by_line (bytes : Bytes) :
    (∀ lines, CutAfter 10 bytes lines ↔ lines = splitLines bytes) ∧
      (∀ texts, CutAfter '\n' (Utf8.decodeLossy bytes) texts ↔
        texts = (splitLines bytes).map Utf8.decodeLossy) ∧
      (∀ input text, Utf8.LossyText input text ↔ text = Utf8.decodeLossy input) ∧
      ((splitLines bytes).map List.length).sum = bytes.length ∧
      ∀ f : OpenFile,
        (∀ k, let taken := (splitLines bytes).take k
          taken.flatten <+: bytes ∧
            (taken.foldl OpenFile.takeLine f).offset = f.offset + taken.flatten.length) ∧
          ((splitLines bytes).foldl OpenFile.takeLine f).offset = f.offset + bytes.length := by
  have hbytes := cutAfter_splitLines bytes
  refine ⟨fun lines => ⟨fun h => h.unique hbytes rfl, ?_⟩,
    fun texts => ⟨fun h => h.unique hbytes.map_decodeLossy rfl, ?_⟩,
    fun input text => Utf8.lossyText_iff, ?_, fun f => ⟨fun k => ⟨?_, ?_⟩, ?_⟩⟩
  · rintro rfl
    exact hbytes
  · rintro rfl
    exact hbytes.map_decodeLossy
  · rw [← List.length_flatten, flatten_splitLines]
  · refine ⟨((splitLines bytes).drop k).flatten, ?_⟩
    rw [← List.flatten_append, List.take_append_drop, flatten_splitLines]
  · exact (OpenFile.foldl_takeLine _ f).2.1
  · rw [(OpenFile.foldl_takeLine _ f).2.1, flatten_splitLines]

/-- A line feed in the middle of a character leaves no character on either side of it. -/
example : (splitLines [0xE2, 0x82, 0x0A, 0xAC, 0x61]).map Utf8.decodeLossy =
    [[Utf8.replacement, '\n'], [Utf8.replacement, 'a']] := by
  decide

end LogSearch.Ingestion
