import LogSearch.Text.Case
import Mathlib.Tactic.Lemma

/-!
# Letters of ASCII in either case

Two texts may differ in the case of their ASCII letters only (`SameLetters`).  Then they have the
same upper case and the same lower case.  For upper case this holds of every character by itself.
Lower case depends on the characters around a capital sigma, but on no more of them than whether
they have case and whether they are looked through, and an ASCII letter has the same of both in
either case.

What holds of all characters follows from a look at the ASCII table (`congr_toLower`).
-/

namespace LogSearch.Text

/-- The texts differ in the case of ASCII letters only. -/
def SameLetters (t u : Text) : Prop := t.map Char.toLower = u.map Char.toLower

instance (t u : Text) : Decidable (SameLetters t u) :=
  inferInstanceAs (Decidable (t.map Char.toLower = u.map Char.toLower))

variable {α : Type} {c d : Char} {t u before before' : Text}

/-! ## Characters -/

lemma toLower_of_not_ascii (hc : ¬ c.toNat < 128) : c.toLower = c := by
  have hcapital : ¬ (c.val ≥ 'A'.val ∧ c.val ≤ 'Z'.val) := fun h =>
    hc (Nat.lt_of_le_of_lt h.2 (by decide))
  exact dif_neg hcapital

/-- What tells no ASCII letter from its capital tells no two characters apart that differ in case
only. -/
lemma congr_toLower (f : Char → α)
    (htable : ∀ n < 128, f (Char.ofNat n) = f (Char.ofNat n).toLower)
    (h : c.toLower = d.toLower) : f c = f d := by
  have hlower (e : Char) : f e = f e.toLower := by
    by_cases he : e.toNat < 128
    · have hascii := htable e.toNat he
      rwa [Char.ofNat_toNat] at hascii
    · rw [toLower_of_not_ascii he]
  rw [hlower c, hlower d, h]

/-! ## Texts -/

lemma sameLetters_cons_iff :
    SameLetters (c :: t) u ↔ ∃ d u', u = d :: u' ∧ c.toLower = d.toLower ∧ SameLetters t u' := by
  simp only [SameLetters, List.map_cons]
  rw [eq_comm, List.map_eq_cons_iff]
  constructor
  · rintro ⟨d, u', rfl, hd, hu⟩
    exact ⟨d, u', rfl, hd.symm, hu.symm⟩
  · rintro ⟨d, u', rfl, hd, hu⟩
    exact ⟨d, u', rfl, hd.symm, hu.symm⟩

lemma eq_nil_of_sameLetters (h : SameLetters [] u) : u = [] :=
  List.map_eq_nil_iff.1 (Eq.symm h)

/-- A property of all characters of a text is one of the other text as well. -/
lemma SameLetters.forall_mem {p : Char → Bool}
    (htable : ∀ n < 128, p (Char.ofNat n) = p (Char.ofNat n).toLower) (h : SameLetters t u)
    (ht : ∀ c ∈ t, p c) : ∀ d ∈ u, p d := by
  induction t generalizing u with
  | nil =>
    rw [eq_nil_of_sameLetters h]
    simp
  | cons c t ih =>
    obtain ⟨d, u, rfl, hhead, htail⟩ := sameLetters_cons_iff.1 h
    obtain ⟨hc, ht⟩ := List.forall_mem_cons.1 ht
    rw [congr_toLower p htable hhead] at hc
    exact List.forall_mem_cons.2 ⟨hc, ih htail ht⟩

/-! ## Upper case -/

lemma SameLetters.upper_eq (h : SameLetters t u) : upper t = upper u := by
  induction t generalizing u with
  | nil => rw [eq_nil_of_sameLetters h]
  | cons c t ih =>
    obtain ⟨d, u, rfl, hhead, htail⟩ := sameLetters_cons_iff.1 h
    have hchar : upperChar c = upperChar d := congr_toLower upperChar (by decide +kernel) hhead
    simp only [upper, List.flatMap_cons, hchar] at ih ⊢
    rw [ih htail]

/-! ## Lower case -/

/-- Whether a character with case is met does not depend on the case. -/
lemma SameLetters.meetsCased_eq (h : SameLetters t u) : meetsCased t = meetsCased u := by
  induction t generalizing u with
  | nil => rw [eq_nil_of_sameLetters h]
  | cons c t ih =>
    obtain ⟨d, u, rfl, hhead, htail⟩ := sameLetters_cons_iff.1 h
    have hignored : caseIgnored.contains c.toNat = caseIgnored.contains d.toNat :=
      congr_toLower (fun e => caseIgnored.contains e.toNat) (by decide +kernel) hhead
    have hcased : cased.contains c.toNat = cased.contains d.toNat :=
      congr_toLower (fun e => cased.contains e.toNat) (by decide +kernel) hhead
    have htails := ih htail
    simp only [meetsCased, List.dropWhile_cons, ← hignored] at htails ⊢
    cases caseIgnored.contains c.toNat with
    | true => exact htails
    | false => exact hcased

lemma SameLetters.lowerChar_eq (hbefore : SameLetters before before')
    (h : c.toLower = d.toLower) (hafter : SameLetters t u) :
    lowerChar before c t = lowerChar before' d u := by
  have hsigma : c = capitalSigma ↔ d = capitalSigma :=
    decide_eq_decide.1 (congr_toLower (fun e => decide (e = capitalSigma)) (by decide +kernel) h)
  have hother : (if c.toNat < 128 then [c.toLower] else lowerMap.image c) =
      if d.toNat < 128 then [d.toLower] else lowerMap.image d :=
    congr_toLower (fun e => if e.toNat < 128 then [e.toLower] else lowerMap.image e)
      (by decide +kernel) h
  simp only [lowerChar, hbefore.meetsCased_eq, hafter.meetsCased_eq, hother, hsigma]

lemma SameLetters.lowerFrom_eq (hbefore : SameLetters before before') (h : SameLetters t u) :
    lowerFrom before t = lowerFrom before' u := by
  induction t generalizing u before before' with
  | nil => rw [eq_nil_of_sameLetters h, lowerFrom, lowerFrom]
  | cons c t ih =>
    obtain ⟨d, u, rfl, hhead, htail⟩ := sameLetters_cons_iff.1 h
    have hmore : SameLetters (c :: before) (d :: before') :=
      sameLetters_cons_iff.2 ⟨d, before', rfl, hhead, hbefore⟩
    rw [lowerFrom, lowerFrom, hbefore.lowerChar_eq hhead htail, ih hmore htail]

lemma SameLetters.lower_eq (h : SameLetters t u) : lower t = lower u := by
  have hnothing : SameLetters [] [] := rfl
  exact hnothing.lowerFrom_eq h

end LogSearch.Text
