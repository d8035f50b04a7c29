import LogSearch.Text.Case
import Mathlib

/-!
# Upper case twice is upper case once

A case map is idempotent if it moves none of the characters to which it moves others
(`CaseMap.image_eq_of_mem_image`).  For the upper-case map this is a fact about its tables, which
have some 1,400 characters on either side.  The tables are compared as sets of code points: a set
of numbers is the number whose bits they are (`bits`), and two sets are disjoint if these numbers
have no bit in common.  That is one operation on numbers, instead of a look-up for every
character.

ASCII is treated apart by `upperChar`, but in agreement with the tables: a character that the
tables do not move is no small letter.
-/

namespace LogSearch.Text

/-! ## Sets of numbers -/

/-- A set of numbers, as the number whose bits they are. -/
def bits (numbers : List Nat) : Nat := numbers.foldr (fun n b => b ||| 1 <<< n) 0

lemma testBit_bits (numbers : List Nat) (n : Nat) :
    (bits numbers).testBit n = decide (n ∈ numbers) := by
  induction numbers with
  | nil => simp [bits]
  | cons k rest ih =>
    have hbits : bits (k :: rest) = bits rest ||| 1 <<< k := rfl
    rw [hbits, Nat.testBit_or, ih, Nat.one_shiftLeft, Nat.testBit_two_pow]
    by_cases hk : n = k
    · simp [hk]
    · simp [hk, Ne.symm hk]

/-- Sets without a bit in common are disjoint. -/
lemma notMem_of_bits_and {these those : List Nat} (h : bits these &&& bits those = 0) {n : Nat}
    (hn : n ∈ these) : n ∉ those := by
  intro hn'
  have hbit : (bits these &&& bits those).testBit n = true := by
    rw [Nat.testBit_and, testBit_bits, testBit_bits]
    simp [hn, hn']
  simp [h] at hbit

/-! ## Case maps -/

/-- The distances from the first code point of a run to those that it moves. -/
def CaseRun.steps (r : CaseRun) : List Nat :=
  (List.range (r.last - r.first + 1)).filter (· % r.step = 0)

lemma CaseRun.exists_step {r : CaseRun} {n image : Nat} (h : r.image? n = some image) :
    ∃ k ∈ r.steps, n = r.first + k ∧ image = r.target + k := by
  rw [image?] at h
  split at h
  next hrun =>
    obtain ⟨hfirst, hlast, hstep⟩ := hrun
    refine ⟨n - r.first, ?_, by omega, (Option.some.inj h).symm⟩
    rw [steps, List.mem_filter, List.mem_range]
    exact ⟨by omega, by simpa using hstep⟩
  next => simp at h

namespace CaseMap

/-- The code points that a map moves. -/
def moved (m : CaseMap) : List Nat :=
  m.several.map (·.1) ++ m.runs.flatMap fun r => r.steps.map (r.first + ·)

/-- The code points to which a map moves others. -/
def reached (m : CaseMap) : List Nat :=
  m.several.flatMap (·.2) ++ m.runs.flatMap fun r => r.steps.map (r.target + ·)

variable {m : CaseMap} {c d : Char}

lemma mem_of_lookup_eq_some {entries : List (Nat × List Nat)} {n : Nat} {image : List Nat}
    (h : entries.lookup n = some image) : (n, image) ∈ entries := by
  obtain ⟨before, after, rfl, -⟩ := List.lookup_eq_some_iff.1 h
  exact List.mem_append_right _ List.mem_cons_self

/-- A character is moved to reached ones, or it stays where it is. -/
lemma mem_image (hd : d ∈ m.image c) :
    (∃ n ∈ m.reached, d = Char.ofNat n) ∨ (d = c ∧ m.image c = [c]) := by
  rw [image] at hd ⊢
  split at hd
  next image himage =>
    obtain ⟨n, hn, rfl⟩ := List.mem_map.1 hd
    refine .inl ⟨n, List.mem_append_left _ ?_, rfl⟩
    exact List.mem_flatMap.2 ⟨_, mem_of_lookup_eq_some himage, hn⟩
  next =>
    split at hd
    next n hn =>
      obtain ⟨r, hr, himage⟩ := List.exists_of_findSome?_eq_some hn
      obtain ⟨k, hk, -, rfl⟩ := r.exists_step himage
      refine .inl ⟨r.target + k, List.mem_append_right _ ?_, List.mem_singleton.1 hd⟩
      exact List.mem_flatMap.2 ⟨r, hr, List.mem_map_of_mem hk⟩
    next => exact .inr ⟨List.mem_singleton.1 hd, rfl⟩

lemma image_of_notMem_moved (hc : c.toNat ∉ m.moved) : m.image c = [c] := by
  rw [moved, List.mem_append, not_or] at hc
  obtain ⟨hseveral, hruns⟩ := hc
  have hlookup : m.several.lookup c.toNat = none := by
    cases h : m.several.lookup c.toNat with
    | none => rfl
    | some image => exact absurd (List.mem_map_of_mem (mem_of_lookup_eq_some h)) hseveral
  have hfind : m.runs.findSome? (·.image? c.toNat) = none := by
    rw [List.findSome?_eq_none_iff]
    intro r hr
    cases h : r.image? c.toNat with
    | none => rfl
    | some image =>
      obtain ⟨k, hk, hfirst, -⟩ := r.exists_step h
      exact absurd (List.mem_flatMap.2 ⟨r, hr, List.mem_map.2 ⟨k, hk, hfirst.symm⟩⟩) hruns
  rw [image, hlookup, hfind]

end CaseMap

/-! ## Upper case -/

/-- No character is moved twice. -/
lemma reached_upperMap_apart : bits upperMap.reached &&& bits upperMap.moved = 0 := by
  decide +kernel

/-- All code points that are reached are those of characters. -/
lemma reached_upperMap_valid :
    (upperMap.reached.all fun n => n.blt 0xD800 || (Nat.blt 0xDFFF n && n.blt 0x110000)) = true := by
  decide +kernel

/-- A character that another one is moved to is not moved itself. -/
lemma toNat_notMem_moved_of_mem_reached {n : Nat} (hn : n ∈ upperMap.reached) :
    (Char.ofNat n).toNat ∉ upperMap.moved := by
  have hvalid := List.all_eq_true.1 reached_upperMap_valid n hn
  have hchar : n.isValidChar := by
    simp only [Nat.blt_eq, Bool.or_eq_true, Bool.and_eq_true] at hvalid
    exact hvalid
  have hnumber : (Char.ofNat n).toNat = n := by
    rw [Char.ofNat, dif_pos hchar]
    rfl
  rw [hnumber]
  exact notMem_of_bits_and reached_upperMap_apart hn

lemma toUpper_of_notMem_moved {c : Char} (hc : c.toNat ∉ upperMap.moved) : c.toUpper = c := by
  by_cases hsmall : 97 ≤ c.toNat ∧ c.toNat ≤ 122
  · have hrun : CaseRun.mk 0x61 0x7A 1 0x41 ∈ upperMap.runs := List.mem_cons_self
    have hstep : c.toNat - 97 ∈ (CaseRun.mk 0x61 0x7A 1 0x41).steps := by
      rw [CaseRun.steps, List.mem_filter, List.mem_range]
      exact ⟨show c.toNat - 97 < 122 - 97 + 1 by omega, by simp [Nat.mod_one]⟩
    refine absurd (List.mem_append_right _ ?_) hc
    exact List.mem_flatMap.2
      ⟨_, hrun, List.mem_map.2 ⟨_, hstep, show 97 + (c.toNat - 97) = c.toNat by omega⟩⟩
  · rw [Char.toUpper, dif_neg]
    exact hsmall

lemma toUpper_toUpper_of_ascii {c : Char} (hc : c.toNat < 128) :
    c.toUpper.toNat < 128 ∧ c.toUpper.toUpper = c.toUpper := by
  have htable : ∀ n < 128, (Char.ofNat n).toUpper.toNat < 128 ∧
      (Char.ofNat n).toUpper.toUpper = (Char.ofNat n).toUpper := by decide +kernel
  have hchar := htable c.toNat hc
  rwa [Char.ofNat_toNat] at hchar

/-- The characters of an upper case are in upper case. -/
lemma upperChar_of_mem_upperChar {c d : Char} (hd : d ∈ upperChar c) : upperChar d = [d] := by
  rw [upperChar] at hd
  split at hd
  next hascii =>
    obtain rfl := List.mem_singleton.1 hd
    obtain ⟨hascii', hsame⟩ := toUpper_toUpper_of_ascii hascii
    rw [upperChar, if_pos hascii', hsame]
  next hother =>
    rcases CaseMap.mem_image hd with ⟨n, hn, rfl⟩ | ⟨rfl, himage⟩
    · have hstays := toNat_notMem_moved_of_mem_reached hn
      rw [upperChar]
      split
      · rw [toUpper_of_notMem_moved hstays]
      · exact CaseMap.image_of_notMem_moved hstays
    · rw [upperChar, if_neg hother, himage]

/-- **A text in upper case is its own upper case**, whatever characters it was made from. -/
lemma upper_upper (t : Text) : upper (upper t) = upper t := by
  have hstays : ∀ d ∈ upper t, upperChar d = [d] := by
    intro d hd
    obtain ⟨c, -, hc⟩ := List.mem_flatMap.1 hd
    exact upperChar_of_mem_upperChar hc
  generalize upper t = u at hstays
  induction u with
  | nil => rfl
  | cons d rest ih =>
    have hrest := ih fun e he => hstays e (List.mem_cons_of_mem _ he)
    have hcons : upper (d :: rest) = upperChar d ++ upper rest := rfl
    rw [hcons, hrest, hstays d List.mem_cons_self]
    rfl

end LogSearch.Text
