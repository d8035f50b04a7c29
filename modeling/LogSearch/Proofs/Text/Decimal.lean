import LogSearch.Text.Numerals
import Mathlib

/-!
# Decimal digits read back

Numbers are written by `Text.ofNat` and `Text.padded` and read by `Text.toNat?`.  The reader
gives the value of any run of ASCII digits (`toNat?_eq_some`), which the core library knows as
`Nat.ofDigitChars`; what the writers produce is such a run, with the number as its value.  Every
run of digits is written in this way, by its value and its length (`exists_eq_padded`).
-/

namespace LogSearch.Text

/-! ## Reading digits -/

lemma digitValue?_eq_some {c : Char} (h : c.isDigit) : digitValue? c = some (c.toNat - 48) := by
  have hc := Char.isDigit_iff_toNat.1 h
  rw [digitValue?, if_pos]
  exact ⟨Char.le_def.2 (UInt32.le_iff_toNat_le.2 hc.1),
    Char.le_def.2 (UInt32.le_iff_toNat_le.2 hc.2)⟩

lemma isDecimalDigit_of_isDigit {c : Char} (h : c.isDigit) : isDecimalDigit c := by
  have hc : c.toNat < 128 := by
    have := (Char.isDigit_iff_toNat.1 h).2
    have h9 : '9'.toNat = 57 := rfl
    omega
  rw [isDecimalDigit, decimalValue?, if_pos hc, digitValue?_eq_some h]
  rfl

/-- The fold of the reader over digits, from any number read so far. -/
lemma foldl_digitValue? {t : Text} (h : ∀ c ∈ t, c.isDigit) (n : Nat) :
    t.foldl (fun n c => do return 10 * (← n) + (← digitValue? c)) (some n) =
      some (Nat.ofDigitChars 10 t n) := by
  induction t generalizing n with
  | nil => rw [List.foldl_nil, Nat.ofDigitChars_nil]
  | cons c rest ih =>
    have hc : digitValue? c = some (c.toNat - 48) :=
      digitValue?_eq_some (h c (List.mem_cons_self ..))
    have hrest := ih (fun d hd => h d (List.mem_cons_of_mem _ hd)) (10 * n + (c.toNat - 48))
    rw [List.foldl_cons, Nat.ofDigitChars_cons, hc]
    exact hrest

lemma toNat?_eq_some {t : Text} (hne : t ≠ []) (h : ∀ c ∈ t, c.isDigit) :
    toNat? t = some (Nat.ofDigitChars 10 t 0) := by
  cases t with
  | nil => exact absurd rfl hne
  | cons c rest => exact foldl_digitValue? h 0

/-! ## Written numbers -/

lemma isDigit_of_mem_ofNat {n : Nat} {c : Char} (h : c ∈ ofNat n) : c.isDigit :=
  Nat.isDigit_of_mem_toDigits (by decide) (by decide) h

lemma ofNat_ne_nil (n : Nat) : ofNat n ≠ [] := Nat.toDigits_ne_nil

lemma isDigit_of_mem_padded {width n : Nat} {c : Char} (h : c ∈ padded width n) : c.isDigit := by
  simp only [padded, List.mem_append, List.mem_replicate] at h
  rcases h with ⟨-, rfl⟩ | h
  · rfl
  · exact isDigit_of_mem_ofNat h

lemma padded_ne_nil (width n : Nat) : padded width n ≠ [] := by
  simp [padded, ofNat_ne_nil]

lemma length_padded {width n : Nat} (hwidth : 0 < width) (hn : n < 10 ^ width) :
    (padded width n).length = width := by
  have hlength : (ofNat n).length ≤ width :=
    (Nat.length_toDigits_le_iff (by decide) hwidth).2 hn
  simp only [padded, List.length_append, List.length_replicate]
  omega

lemma ofDigitChars_padded (width n : Nat) : Nat.ofDigitChars 10 (padded width n) 0 = n := by
  rw [padded, Nat.ofDigitChars_append, Nat.ofDigitChars_replicate_zero, Nat.mul_zero, ofNat,
    Nat.ofDigitChars_ten_toDigits]

@[simp] lemma toNat?_padded (width n : Nat) : toNat? (padded width n) = some n := by
  rw [toNat?_eq_some (padded_ne_nil width n) fun _ => isDigit_of_mem_padded,
    ofDigitChars_padded]

lemma padded_injective (width : Nat) : Function.Injective (padded width) := by
  intro m n h
  rw [← ofDigitChars_padded width m, h, ofDigitChars_padded]

/-! ## Digits are written numbers -/

/-- The decimal digits among the characters of ASCII are the ten from 0 to 9. -/
lemma isDigit_of_isDecimalDigit {c : Char} (h : isDecimalDigit c) (hascii : c.toNat < 128) :
    c.isDigit := by
  rw [isDecimalDigit, decimalValue?, if_pos hascii, digitValue?] at h
  split at h
  next hc =>
    rw [Char.isDigit_iff_toNat]
    exact ⟨UInt32.le_iff_toNat_le.1 (Char.le_def.1 hc.1),
      UInt32.le_iff_toNat_le.1 (Char.le_def.1 hc.2)⟩
  next => cases h

lemma ofDigitChars_lt {t : Text} (h : ∀ c ∈ t, c.isDigit) (n : Nat) :
    Nat.ofDigitChars 10 t n < (n + 1) * 10 ^ t.length := by
  induction t generalizing n with
  | nil => simp
  | cons c rest ih =>
    obtain ⟨hc, hrest⟩ := List.forall_mem_cons.1 h
    have hdigit := (Char.isDigit_iff_toNat.1 hc).2
    have h9 : '9'.toNat = 57 := rfl
    have h0 : '0'.toNat = 48 := rfl
    calc Nat.ofDigitChars 10 (c :: rest) n
        = Nat.ofDigitChars 10 rest (10 * n + (c.toNat - '0'.toNat)) := Nat.ofDigitChars_cons
      _ < (10 * n + (c.toNat - '0'.toNat) + 1) * 10 ^ rest.length := ih hrest _
      _ ≤ (n + 1) * 10 * 10 ^ rest.length := Nat.mul_le_mul_right _ (by omega)
      _ = (n + 1) * 10 ^ (c :: rest).length := by rw [List.length_cons, Nat.pow_succ]; ring

/-- As many digits with the same value are the same digits. -/
lemma ofDigitChars_injective {t u : Text} (ht : ∀ c ∈ t, c.isDigit) (hu : ∀ c ∈ u, c.isDigit)
    (hlength : t.length = u.length) {m n : Nat}
    (hvalue : Nat.ofDigitChars 10 t m = Nat.ofDigitChars 10 u n) : m = n ∧ t = u := by
  induction t generalizing u m n with
  | nil =>
    obtain rfl := List.length_eq_zero_iff.1 hlength.symm
    simpa using hvalue
  | cons c t ih =>
    cases u with
    | nil => cases hlength
    | cons d u =>
      obtain ⟨hc, ht⟩ := List.forall_mem_cons.1 ht
      obtain ⟨hd, hu⟩ := List.forall_mem_cons.1 hu
      rw [Nat.ofDigitChars_cons, Nat.ofDigitChars_cons] at hvalue
      obtain ⟨hfirst, rfl⟩ := ih ht hu (Nat.succ.inj hlength) hvalue
      have hcs := Char.isDigit_iff_toNat.1 hc
      have hds := Char.isDigit_iff_toNat.1 hd
      have h9 : '9'.toNat = 57 := rfl
      have h0 : '0'.toNat = 48 := rfl
      have hsame : c.toNat = d.toNat := by omega
      exact ⟨by omega, by rw [Char.toNat_inj.1 hsame]⟩

/-- A run of digits is a number, written as wide as the run is long. -/
lemma exists_eq_padded {t : Text} (hne : t ≠ []) (h : ∀ c ∈ t, c.isDigit) :
    ∃ n < 10 ^ t.length, t = padded t.length n := by
  have hlt := ofDigitChars_lt h 0
  rw [Nat.zero_add, Nat.one_mul] at hlt
  refine ⟨Nat.ofDigitChars 10 t 0, hlt, ?_⟩
  have hlength := length_padded (List.length_pos_iff.2 hne) hlt
  exact (ofDigitChars_injective h (fun _ => isDigit_of_mem_padded) hlength.symm
    (ofDigitChars_padded _ _).symm).2

end LogSearch.Text
