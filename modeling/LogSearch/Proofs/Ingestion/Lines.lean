import LogSearch.Ingestion.OpenFile
import Mathlib.Tactic.Lemma

/-!
# Lines and blocks

`splitLines` cuts bytes after every line feed.  What is needed of it is that nothing is lost
(`flatten_splitLines`), that the lines after a line are the lines of the bytes after it
(`splitLines_eq_cons`), and that bytes can be cut into lines piece by piece where a piece ends
with a line feed (`splitLines_append`).  A cut anywhere else makes two lines out of one.

Reading goes on after a wait with the bytes that were fetched before it and not yet taken.  If
the file is what it was, the blocks make no difference: what is left is what was left before,
less the bytes that were taken (`OpenFile.remaining_rest`).
-/

namespace LogSearch.Ingestion

/-! ## Lines -/

/-- The lines put together are the bytes. -/
lemma flatten_splitLines (bytes : Bytes) : (splitLines bytes).flatten = bytes := by
  induction bytes with
  | nil => rfl
  | cons b rest ih =>
    rw [splitLines]
    split
    · simp [ih]
    · cases hrest : splitLines rest with
      | nil => simpa [hrest] using ih
      | cons line lines => simpa [hrest] using ih

lemma splitLines_eq_nil {bytes : Bytes} : splitLines bytes = [] ↔ bytes = [] := by
  constructor
  · intro h
    rw [← flatten_splitLines bytes, h, List.flatten_nil]
  · rintro rfl
    rfl

lemma ne_nil_of_mem_splitLines {bytes line : Bytes} (h : line ∈ splitLines bytes) : line ≠ [] := by
  induction bytes generalizing line with
  | nil => simp [splitLines] at h
  | cons b rest ih =>
    rw [splitLines] at h
    split at h
    · rcases List.mem_cons.1 h with rfl | h
      · exact List.cons_ne_nil _ _
      · exact ih h
    · cases hrest : splitLines rest with
      | nil =>
        rw [hrest, List.mem_singleton] at h
        exact h ▸ List.cons_ne_nil _ _
      | cons first others =>
        rw [hrest, List.mem_cons] at h
        rcases h with rfl | h
        · exact List.cons_ne_nil _ _
        · exact ih (hrest ▸ List.mem_cons_of_mem _ h)

lemma splitLines_eq_cons {bytes line : Bytes} {lines : List Bytes}
    (h : splitLines bytes = line :: lines) :
    splitLines (bytes.drop line.length) = lines := by
  induction bytes generalizing line with
  | nil => simp [splitLines] at h
  | cons b rest ih =>
    rw [splitLines] at h
    split at h
    · obtain ⟨rfl, rfl⟩ := List.cons.inj h
      simp
    · cases hrest : splitLines rest with
      | nil =>
        rw [hrest] at h
        obtain ⟨rfl, rfl⟩ := List.cons.inj h
        obtain rfl := splitLines_eq_nil.1 hrest
        simp [splitLines]
      | cons first others =>
        rw [hrest] at h
        obtain ⟨rfl, rfl⟩ := List.cons.inj h
        simpa using ih hrest

lemma splitLines_append {bytes more : Bytes} (h : bytes = [] ∨ bytes.getLast? = some 10) :
    splitLines (bytes ++ more) = splitLines bytes ++ splitLines more := by
  induction bytes with
  | nil => rfl
  | cons b rest ih =>
    have hlast : (b :: rest).getLast? = some 10 := h.resolve_left (List.cons_ne_nil _ _)
    cases hrest : rest with
    | nil =>
      subst hrest
      obtain rfl : b = 10 := by simpa using hlast
      simp [splitLines]
    | cons c others =>
      rw [← hrest]
      rw [hrest, List.getLast?_cons_cons, ← hrest] at hlast
      have hlines : splitLines rest ≠ [] := by simp [splitLines_eq_nil, hrest]
      rw [List.cons_append, splitLines, splitLines, ih (.inr hlast)]
      split
      · rfl
      · cases hfirst : splitLines rest with
        | nil => exact absurd hfirst hlines
        | cons line lines => rfl

/-- There are as many lines as line feeds, and one more if the bytes do not end with one. -/
lemma length_splitLines (bytes : Bytes) :
    (splitLines bytes).length =
      bytes.count 10 + if bytes = [] ∨ bytes.getLast? = some 10 then 0 else 1 := by
  induction bytes with
  | nil => rfl
  | cons b rest ih =>
    cases hrest : rest with
    | nil =>
      rw [splitLines]
      by_cases hfeed : b = 10
      · rw [if_pos hfeed, hfeed]
        rfl
      · rw [if_neg hfeed]
        simp [splitLines, hfeed]
    | cons c more =>
      have hlast : (b :: rest).getLast? = rest.getLast? := by rw [hrest, List.getLast?_cons_cons]
      have hne : rest ≠ [] := hrest ▸ List.cons_ne_nil c more
      rw [← hrest, splitLines, List.count_cons, hlast]
      simp only [List.cons_ne_nil, false_or]
      simp only [hne, false_or] at ih
      by_cases hfeed : b = 10
      · simp only [hfeed, if_true, List.length_cons, beq_self_eq_true]
        omega
      · have hlines : splitLines rest ≠ [] := mt splitLines_eq_nil.1 hne
        simp only [hfeed, if_false, beq_iff_eq]
        cases hsplit : splitLines rest with
        | nil => exact absurd hsplit hlines
        | cons line lines =>
          rw [hsplit] at ih
          simpa using ih

/-! ## Blocks -/

namespace OpenFile

/-- What is left of a file that has not changed is what was left less what was taken, in whatever
blocks it was fetched. -/
lemma remaining_rest (f : OpenFile) (content : Bytes) :
    (f.rest content).remaining content = (f.remaining content).drop f.taken := by
  rw [rest]
  split
  next htaken =>
    rw [remaining, remaining, List.drop_append_of_le_length htaken]
  next htaken =>
    simp only [remaining]
    generalize hunfetched : content.drop f.next = unfetched
    generalize hsize : (f.taken - f.fetched.length + blockSize - 1) / blockSize * blockSize = size
    have hblock : blockSize = 4096 := rfl
    have henough : f.taken - f.fetched.length ≤ size := by
      rw [← hsize, hblock]
      omega
    have hlater : content.drop (f.next + (unfetched.take size).length) = unfetched.drop size := by
      rw [← List.drop_drop, hunfetched, List.length_take]
      rcases Nat.le_total size unfetched.length with hle | hle
      · rw [Nat.min_eq_left hle]
      · rw [Nat.min_eq_right hle, List.drop_length, List.drop_of_length_le hle]
    have hdrop : (f.fetched ++ unfetched).drop f.taken =
        unfetched.drop (f.taken - f.fetched.length) := by
      rw [List.drop_append, List.drop_of_length_le (by omega), List.nil_append]
    rw [hlater, hdrop]
    rcases Nat.le_total (f.taken - f.fetched.length) unfetched.length with hle | hle
    · rw [← List.drop_append_of_le_length (by rw [List.length_take]; omega),
        List.take_append_drop]
    · rw [List.drop_of_length_le (by rw [List.length_take]; omega),
        List.drop_of_length_le (by omega), List.drop_of_length_le hle]
      rfl

lemma rest_frame (f : OpenFile) (content : Bytes) :
    (f.rest content).path = f.path ∧ (f.rest content).number = f.number ∧
      (f.rest content).offset = f.offset ∧ (f.rest content).lines = f.lines ∧
      (f.rest content).failsAfter = f.failsAfter ∧ (f.rest content).taken = 0 := by
  rw [rest]
  split <;> exact ⟨rfl, rfl, rfl, rfl, rfl, rfl⟩

end OpenFile

end LogSearch.Ingestion
