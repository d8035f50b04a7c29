import LogSearch.Proofs.Json.Grammar
import LogSearch.Proofs.Json.Written
import LogSearch.Proofs.Text.Cutting

/-!
# Texts and numbers are read by the grammar

The readers of texts and of numbers accept what the grammar has, and nothing else, and they come to
the same meaning.

For texts this is `stringBytes_eq_ok_iff`.  The machine that reads a text takes one byte at a time,
and the grammar one piece of the text, so what is proved goes from one visit of the state `plain` to
the next: over one byte, over an escape, or over the digits of one code unit or two.

A number is read as far as it goes.  The grammar does not ask for this, so a number of the grammar
is read to its end only where nothing follows that would continue it (`EndsNumber`,
`IsNumber.readScalar_eq`).  What is read is a number of the grammar in any case
(`exists_of_readNumber`).
-/

namespace LogSearch.Json

lemma toNat_eq_iff {b : UInt8} (n : Nat) (k : UInt8) (hk : k.toNat = n) : b.toNat = n ↔ b = k :=
  hk ▸ UInt8.toNat_inj

/-! ## Texts -/

section Texts

variable {s state : StringState} {b : UInt8} {n : Nat} {high : Option Nat}
  {input more bytes output rest : Bytes}

lemma step_ne_refused (h : stringBytes s (b :: more) = .ok (bytes, rest)) :
    s.step b ≠ .refused := by
  intro hstep
  rw [stringBytes, hstep] at h
  contradiction

/-- Behind a byte that adds something to the text, the text goes on. -/
lemma exists_of_step_next (hstep : s.step b = .next output state)
    (h : stringBytes s (b :: more) = .ok (bytes, rest)) :
    ∃ bytes', bytes = output ++ bytes' ∧ stringBytes state more = .ok (bytes', rest) := by
  rw [stringBytes_next hstep] at h
  obtain ⟨⟨bytes', rest'⟩, hmore, h⟩ := Except.map_eq_ok_iff.1 h
  obtain ⟨rfl, rfl⟩ := Prod.mk.inj h
  exact ⟨bytes', rfl, hmore⟩

lemma step_control (h : ¬ 32 ≤ b.toNat) : StringState.plain.step b = .refused := by
  simp only [StringState.step]
  rw [if_neg (by omega), if_neg (by omega), if_pos (by omega)]

lemma step_of_not_hexValue? {count value : Nat} (hb : hexValue? b = none) :
    (StringState.digits count value high).step b = .refused := by
  simp only [StringState.step, hb]

lemma unitStep_ne_finished : unitStep n high ≠ .finished := by
  unfold unitStep
  grind

/-- Before the last digit of a code unit, nothing is added. -/
lemma exists_digit_of_stringBytes {count value : Nat} (hcount : count ≠ 3)
    (h : stringBytes (.digits count value high) input = .ok (bytes, rest)) :
    ∃ b d more, input = b :: more ∧ hexValue? b = some d ∧
      stringBytes (.digits (count + 1) (value * 16 + d) high) more = .ok (bytes, rest) := by
  cases input with
  | nil => contradiction
  | cons b more =>
    cases hd : hexValue? b with
    | none => exact absurd (step_of_not_hexValue? hd) (step_ne_refused h)
    | some d =>
      obtain ⟨bytes', rfl, hmore⟩ := exists_of_step_next (step_digits hcount hd) h
      exact ⟨b, d, more, rfl, hd, hmore⟩

/-- After the last digit, the code unit has done what it does. -/
lemma exists_lastDigit_of_stringBytes {value : Nat}
    (h : stringBytes (.digits 3 value high) input = .ok (bytes, rest)) :
    ∃ b d more output state bytes', input = b :: more ∧ hexValue? b = some d ∧
      unitStep (value * 16 + d) high = .next output state ∧ bytes = output ++ bytes' ∧
      stringBytes state more = .ok (bytes', rest) := by
  cases input with
  | nil => contradiction
  | cons b more =>
    cases hd : hexValue? b with
    | none => exact absurd (step_of_not_hexValue? hd) (step_ne_refused h)
    | some d =>
      have hunit : (StringState.digits 3 value high).step b = unitStep (value * 16 + d) high :=
        step_lastDigit hd
      cases hstep : unitStep (value * 16 + d) high with
      | refused => exact absurd (hunit.trans hstep) (step_ne_refused h)
      | finished => exact absurd hstep unitStep_ne_finished
      | next output state =>
        obtain ⟨bytes', rfl, hmore⟩ := exists_of_step_next (hunit.trans hstep) h
        exact ⟨b, d, more, output, state, bytes', rfl, hd, hstep, rfl, hmore⟩

/-- The digits of a code unit are read one after the other. -/
lemma exists_codeUnit_of_stringBytes
    (h : stringBytes (.digits 0 0 high) input = .ok (bytes, rest)) :
    ∃ n more output state bytes', CodeUnit input n more ∧ unitStep n high = .next output state ∧
      bytes = output ++ bytes' ∧ stringBytes state more = .ok (bytes', rest) := by
  obtain ⟨a, k, more, rfl, ha, h⟩ := exists_digit_of_stringBytes (by decide) h
  obtain ⟨b, l, more, rfl, hb, h⟩ := exists_digit_of_stringBytes (by decide) h
  obtain ⟨c, m, more, rfl, hc, h⟩ := exists_digit_of_stringBytes (by decide) h
  obtain ⟨d, n, more, output, state, bytes', rfl, hd, hstep, rfl, hmore⟩ :=
    exists_lastDigit_of_stringBytes h
  rw [Nat.zero_mul, Nat.zero_add] at hstep
  exact ⟨_, more, output, state, bytes', .digits ha hb hc hd, hstep, rfl, hmore⟩

lemma CodeUnit.length_eq (h : CodeUnit input n rest) : input.length = rest.length + 4 := by
  cases h
  rfl

/-- The digits of a code unit do what the unit does. -/
lemma CodeUnit.stringBytes_eq (h : CodeUnit input n more)
    (hstep : unitStep n high = .next output state) :
    stringBytes (.digits 0 0 high) input =
      (stringBytes state more).map fun r => (output ++ r.1, r.2) := by
  obtain ⟨ha, hb, hc, hd⟩ := h
  rw [stringBytes_next (step_digits (by decide) ha), stringBytes_next (step_digits (by decide) hb),
    stringBytes_next (step_digits (by decide) hc)]
  simp only [Nat.zero_mul, Nat.zero_add, Nat.reduceAdd]
  rw [stringBytes_next ((step_lastDigit hd).trans hstep), Except.map_map, Except.map_map,
    Except.map_map]
  rfl

lemma unitStep_high (hhigh : IsHigh n) : unitStep n none = .next [] (.pairBackslash n) := by
  obtain ⟨hleast, hgreatest⟩ := hhigh
  simp only [unitStep, hleast, hgreatest, decide_true, Bool.and_self, if_true]

lemma unitStep_none (hhigh : ¬ IsHigh n) (hlow : ¬ IsLow n) :
    unitStep n none = .next (Utf8.encodeNat n) .plain := by
  rw [IsHigh] at hhigh
  rw [IsLow] at hlow
  simp only [unitStep, Bool.and_eq_true, decide_eq_true_eq]
  rw [if_neg hhigh, if_neg hlow]

lemma unitStep_low {high : Nat} (hlow : IsLow n) :
    unitStep n (some high) = .next (Utf8.encodeNat (pairValue high n)) .plain := by
  have hbounds : (decide (0xDC00 ≤ n) && decide (n < 0xE000)) = true := by simp [hlow.1, hlow.2]
  unfold unitStep pairValue
  dsimp only
  rw [hbounds]
  exact if_pos rfl

lemma unitStep_some_of_not_low {high : Nat} (hlow : ¬ IsLow n) :
    unitStep n (some high) = .refused := by
  rw [IsLow] at hlow
  simp only [unitStep, Bool.and_eq_true, decide_eq_true_eq]
  rw [if_neg hlow]

lemma unitStep_none_of_low (hhigh : ¬ IsHigh n) (hlow : IsLow n) :
    unitStep n none = .refused := by
  rw [IsHigh] at hhigh
  rw [IsLow] at hlow
  simp only [unitStep, Bool.and_eq_true, decide_eq_true_eq]
  rw [if_neg hhigh, if_pos hlow]

/-- After a backslash comes one of the letters, or the one that a code unit follows. -/
lemma escapeStep_eq (letter : UInt8) :
    escapeStep letter.toNat =
      match escapes.lookup letter with
      | some b => .next [b] .plain
      | none => if letter = 117 then .next [] (.digits 0 0 none) else .refused := by
  revert letter
  exact Utf8.forall_byte (by decide +kernel)

lemma CodeUnit.stringBytes_escape (h : CodeUnit input n more)
    (hstep : unitStep n none = .next output state) :
    stringBytes .plain (92 :: 117 :: input) =
      (stringBytes state more).map fun r => (output ++ r.1, r.2) := by
  have hbackslash : StringState.plain.step 92 = .next [] .escape := rfl
  have hletter : StringState.escape.step 117 = .next [] (.digits 0 0 none) := rfl
  rw [stringBytes_next hbackslash, stringBytes_next hletter, h.stringBytes_eq hstep,
    Except.map_map, Except.map_map]
  rfl

lemma CodeUnit.stringBytes_pair {high : Nat} (h : CodeUnit input n more)
    (hstep : unitStep n (some high) = .next output .plain) :
    stringBytes (.pairBackslash high) (92 :: 117 :: input) =
      (stringBytes .plain more).map fun r => (output ++ r.1, r.2) := by
  have hbackslash : (StringState.pairBackslash high).step 92 = .next [] (.pairLetter high) := rfl
  have hletter : (StringState.pairLetter high).step 117 = .next [] (.digits 0 0 (some high)) := rfl
  rw [stringBytes_next hbackslash, stringBytes_next hletter, h.stringBytes_eq hstep,
    Except.map_map, Except.map_map]
  rfl

/-- What is spelled is read. -/
lemma Spells.stringBytes_eq (h : Spells input bytes rest) :
    stringBytes .plain input = .ok (bytes, rest) := by
  induction h with
  | quote => rfl
  | plain hcontrol hquote hbackslash h ih =>
    rw [stringBytes_next (step_plain hcontrol (mt (toNat_eq_iff 34 34 rfl).1 hquote)
      (mt (toNat_eq_iff 92 92 rfl).1 hbackslash)), ih]
    rfl
  | @escaped letter b input bytes rest hmem h ih =>
    have hstep : escapeStep letter.toNat = .next [b] .plain := by rw [escapeStep_eq, hmem]
    rw [Json.stringBytes_escape hstep, ih]
    rfl
  | unit hunit hhigh hlow h ih =>
    rw [hunit.stringBytes_escape (unitStep_none hhigh hlow), ih]
    rfl
  | @pair high low digits more input bytes rest hunit hhigh hunit' hlow h ih =>
    -- which bytes the pair adds does not matter
    have hread {output : Bytes} (hstep : unitStep low (some high) = .next output .plain) :
        stringBytes .plain (92 :: 117 :: digits) = .ok (output ++ bytes, rest) := by
      rw [hunit.stringBytes_escape (unitStep_high hhigh), hunit'.stringBytes_pair hstep, ih]
      rfl
    exact hread (unitStep_low hlow)

/-- Where the machine goes on with one byte only, this byte comes next. -/
lemma exists_mark_of_stringBytes {k : UInt8}
    (hs : ∀ b, s.step b = if b.toNat = k.toNat then .next [] state else .refused)
    (h : stringBytes s input = .ok (bytes, rest)) :
    ∃ more, input = k :: more ∧ stringBytes state more = .ok (bytes, rest) := by
  cases input with
  | nil => contradiction
  | cons b more =>
    have hstep := hs b
    split at hstep
    next hb =>
      obtain ⟨bytes', rfl, hmore⟩ := exists_of_step_next hstep h
      exact ⟨more, by rw [UInt8.toNat_inj.1 hb], hmore⟩
    next => exact absurd hstep (step_ne_refused h)

/-- What follows the escape of a first half is the second one. -/
lemma exists_pair_of_stringBytes {high : Nat}
    (h : stringBytes (.pairBackslash high) input = .ok (bytes, rest)) :
    ∃ digits low more bytes', input = 92 :: 117 :: digits ∧ CodeUnit digits low more ∧ IsLow low ∧
      bytes = Utf8.encodeNat (pairValue high low) ++ bytes' ∧
      stringBytes .plain more = .ok (bytes', rest) := by
  obtain ⟨letter, rfl, hletter⟩ := exists_mark_of_stringBytes (k := 92) (fun _ => rfl) h
  obtain ⟨digits, rfl, hdigits⟩ := exists_mark_of_stringBytes (k := 117) (fun _ => rfl) hletter
  obtain ⟨low, more, output, state, bytes', hunit, hstep, rfl, hmore⟩ :=
    exists_codeUnit_of_stringBytes hdigits
  by_cases hlow : IsLow low
  · rw [unitStep_low hlow] at hstep
    obtain ⟨rfl, rfl⟩ := StringStep.next.inj hstep
    exact ⟨digits, low, more, bytes', rfl, hunit, hlow, rfl, hmore⟩
  · rw [unitStep_some_of_not_low hlow] at hstep
    contradiction

/-- What follows a backslash is a letter with a meaning or the number of a code point. -/
lemma exists_escape_of_stringBytes (h : stringBytes .escape input = .ok (bytes, rest)) :
    (∃ letter b more bytes', input = letter :: more ∧ escapes.lookup letter = some b ∧
        bytes = b :: bytes' ∧ stringBytes .plain more = .ok (bytes', rest)) ∨
      ∃ digits, input = 117 :: digits ∧
        stringBytes (.digits 0 0 none) digits = .ok (bytes, rest) := by
  cases input with
  | nil => contradiction
  | cons letter more =>
    have hstep : StringState.escape.step letter = _ := escapeStep_eq letter
    cases hb : escapes.lookup letter with
    | some b =>
      rw [hb] at hstep
      obtain ⟨bytes', rfl, hmore⟩ := exists_of_step_next hstep h
      exact .inl ⟨letter, b, more, bytes', rfl, hb, rfl, hmore⟩
    | none =>
      simp only [hb] at hstep
      split at hstep
      next hletter =>
        obtain ⟨bytes', rfl, hmore⟩ := exists_of_step_next hstep h
        exact .inr ⟨more, by rw [hletter], hmore⟩
      next => exact absurd hstep (step_ne_refused h)

/-- An escape is spelled, and what comes after it if all that is shorter is. -/
lemma spells_of_escape
    (ih : ∀ {input' bytes' : Bytes}, input'.length < input.length →
      stringBytes .plain input' = .ok (bytes', rest) → Spells input' bytes' rest)
    (h : stringBytes .escape input = .ok (bytes, rest)) : Spells (92 :: input) bytes rest := by
  obtain ⟨letter, b, more, bytes', rfl, hletter, rfl, hmore⟩ | ⟨digits, rfl, hdigits⟩ :=
    exists_escape_of_stringBytes h
  · exact .escaped hletter (ih (Nat.lt_succ_self _) hmore)
  obtain ⟨n, more, output, state, bytes', hunit, hstep, rfl, hmore⟩ :=
    exists_codeUnit_of_stringBytes hdigits
  have hlength : more.length < (117 :: digits).length := by
    rw [List.length_cons, hunit.length_eq]
    omega
  by_cases hhigh : IsHigh n
  · rw [unitStep_high hhigh] at hstep
    obtain ⟨rfl, rfl⟩ := StringStep.next.inj hstep
    obtain ⟨digits', low, more', bytes'', rfl, hunit', hlow, hbytes, hmore'⟩ :=
      exists_pair_of_stringBytes hmore
    have hlength' : more'.length < (117 :: digits).length := by
      refine Nat.lt_trans ?_ hlength
      rw [List.length_cons, List.length_cons, hunit'.length_eq]
      omega
    rw [List.nil_append, hbytes]
    exact .pair hunit hhigh hunit' hlow (ih hlength' hmore')
  by_cases hlow : IsLow n
  · rw [unitStep_none_of_low hhigh hlow] at hstep
    contradiction
  · rw [unitStep_none hhigh hlow] at hstep
    obtain ⟨rfl, rfl⟩ := StringStep.next.inj hstep
    exact .unit hunit hhigh hlow (ih hlength hmore)

/-- What is read was spelled. -/
lemma spells_of_stringBytes (h : stringBytes .plain input = .ok (bytes, rest)) :
    Spells input bytes rest := by
  induction hlength : input.length using Nat.strongRecOn generalizing input bytes with
  | ind length ih =>
    subst hlength
    cases input with
    | nil => contradiction
    | cons b more =>
      have hshorter {input' bytes' : Bytes} (hlength : input'.length < (b :: more).length)
          (hread : stringBytes .plain input' = .ok (bytes', rest)) : Spells input' bytes' rest :=
        ih _ hlength hread rfl
      by_cases hquote : b = 34
      · subst hquote
        obtain ⟨rfl, rfl⟩ := Prod.mk.inj (Except.ok.inj h)
        exact .quote
      by_cases hbackslash : b = 92
      · subst hbackslash
        have hstep : StringState.plain.step 92 = .next [] .escape := rfl
        obtain ⟨bytes', rfl, hmore⟩ := exists_of_step_next hstep h
        exact spells_of_escape (fun hlength => hshorter (Nat.lt_succ_of_lt hlength)) hmore
      by_cases hcontrol : 32 ≤ b.toNat
      · have hstep := step_plain hcontrol (mt (toNat_eq_iff 34 34 rfl).1 hquote)
          (mt (toNat_eq_iff 92 92 rfl).1 hbackslash)
        obtain ⟨bytes', rfl, hmore⟩ := exists_of_step_next hstep h
        exact .plain hcontrol hquote hbackslash (hshorter (Nat.lt_succ_self _) hmore)
      · exact absurd (step_control hcontrol) (step_ne_refused h)

/-- **The bytes of a text are read as they are spelled.** -/
lemma stringBytes_eq_ok_iff :
    stringBytes .plain input = .ok (bytes, rest) ↔ Spells input bytes rest :=
  ⟨spells_of_stringBytes, Spells.stringBytes_eq⟩

end Texts

/-! ## Numbers -/

section Numbers

variable {input number rest unsigned digits : Bytes} {e : Option Int} {negative : Bool} {j : Json}

/-- No digit comes first. -/
def EndsDigits (rest : Bytes) : Prop := ∀ b ∈ rest.head?, isDigit b = false

/-- Nothing comes first that would be a part of a number before it. -/
def EndsNumber (rest : Bytes) : Prop :=
  ∀ b ∈ rest.head?, isDigit b = false ∧ b ≠ 46 ∧ b ≠ 101 ∧ b ≠ 69

lemma IsDigits.span (h : IsDigits digits) (hrest : EndsDigits rest) :
    (digits ++ rest).takeWhile isDigit = digits ∧ (digits ++ rest).dropWhile isDigit = rest :=
  Text.span_append h.2 hrest

lemma isDigits_takeWhile (h : input.takeWhile isDigit ≠ []) : IsDigits (input.takeWhile isDigit) :=
  ⟨h, fun _ hb => List.mem_takeWhile_imp hb⟩

lemma IsDigits.isDigit_of_mem_head? {b : UInt8} (h : IsDigits digits)
    (hb : b ∈ (digits ++ rest).head?) : isDigit b := by
  obtain ⟨hne, hall⟩ := h
  cases digits with
  | nil => contradiction
  | cons c digits =>
    obtain rfl : c = b := by simpa using hb
    exact hall c List.mem_cons_self

/-! ### Fractions -/

lemma IsFraction.eq_nil {fraction : Bytes} (h : IsFraction fraction []) : fraction = [] := by
  cases h with
  | none => rfl
  | point h => exact absurd rfl h.1

lemma IsFraction.read_eq {fraction : Bytes} (h : IsFraction fraction digits)
    (hdigits : EndsDigits rest) (hpoint : ∀ b ∈ rest.head?, b ≠ 46) :
    readFraction (fraction ++ rest) = .ok (digits, rest) := by
  cases h with
  | none =>
    cases rest with
    | nil => rfl
    | cons b rest =>
      have hb : b.toNat ≠ 46 := mt (toNat_eq_iff 46 46 rfl).1 (hpoint b rfl)
      rw [List.nil_append, readFraction, if_neg hb]
  | point h =>
    obtain ⟨htake, hdrop⟩ := h.span hdigits
    have hmark : (46 : UInt8).toNat = 46 := rfl
    rw [List.cons_append, readFraction, if_pos hmark]
    simp only [htake, hdrop]
    rw [if_neg h.1]

lemma exists_of_readFraction (h : readFraction input = .ok (digits, rest)) :
    ∃ fraction, input = fraction ++ rest ∧ IsFraction fraction digits := by
  cases input with
  | nil =>
    obtain ⟨rfl, rfl⟩ := Prod.mk.inj (Except.ok.inj h)
    exact ⟨[], rfl, .none⟩
  | cons b more =>
    rw [readFraction] at h
    split at h
    next hb =>
      obtain rfl : b = 46 := (toNat_eq_iff 46 46 rfl).1 hb
      dsimp only at h
      split at h
      next => contradiction
      next hne =>
        obtain ⟨rfl, rfl⟩ := Prod.mk.inj (Except.ok.inj h)
        refine ⟨46 :: more.takeWhile isDigit, ?_, .point (isDigits_takeWhile hne)⟩
        rw [List.cons_append, List.takeWhile_append_dropWhile]
    next =>
      obtain ⟨rfl, rfl⟩ := Prod.mk.inj (Except.ok.inj h)
      exact ⟨[], rfl, .none⟩

/-! ### Exponents -/

/-- What is left of the input without its sign, if it has one. -/
inductive Signed : Bytes → Bool → Bytes → Prop
  | minus {rest : Bytes} : Signed (45 :: rest) true rest
  | plus {rest : Bytes} : Signed (43 :: rest) false rest
  | none {rest : Bytes} (h : ∀ b ∈ rest.head?, b ≠ 45 ∧ b ≠ 43) : Signed rest false rest

lemma exists_signed (input : Bytes) : ∃ negative unsigned, Signed input negative unsigned := by
  cases input with
  | nil => exact ⟨_, _, .none (by simp)⟩
  | cons b rest =>
    by_cases hminus : b = 45
    · exact ⟨true, rest, hminus ▸ .minus⟩
    by_cases hplus : b = 43
    · exact ⟨false, rest, hplus ▸ .plus⟩
    · exact ⟨_, _, .none (by simpa using ⟨hminus, hplus⟩)⟩

lemma readExponent_of_not_letter {b : UInt8} (hb : ¬ (b = 101 ∨ b = 69)) :
    readExponent (b :: input) = .ok (none, b :: input) := by
  have hvalue : ¬ (b.toNat = 101 ∨ b.toNat = 69) := by
    rwa [toNat_eq_iff 101 101 rfl, toNat_eq_iff 69 69 rfl]
  unfold readExponent
  exact if_neg hvalue

lemma readExponent_of_signed {letter : UInt8} (hletter : letter = 101 ∨ letter = 69)
    (h : Signed input negative unsigned) :
    readExponent (letter :: input) =
      if unsigned.takeWhile isDigit = [] then .error .malformed
      else
        .ok (some (if negative then -digitsValue (unsigned.takeWhile isDigit)
          else digitsValue (unsigned.takeWhile isDigit)), unsigned.dropWhile isDigit) := by
  have hvalue : letter.toNat = 101 ∨ letter.toNat = 69 := by
    rwa [toNat_eq_iff 101 101 rfl, toNat_eq_iff 69 69 rfl]
  unfold readExponent
  dsimp only
  rw [if_pos hvalue]
  cases h with
  | minus => rfl
  | plus => rfl
  | none h =>
    cases input with
    | nil => rfl
    | cons b rest =>
      obtain ⟨hminus, hplus⟩ := h b rfl
      have hminus : b.toNat ≠ 45 := mt (toNat_eq_iff 45 45 rfl).1 hminus
      have hplus : b.toNat ≠ 43 := mt (toNat_eq_iff 43 43 rfl).1 hplus
      simp only [hminus, hplus, if_false]

lemma IsExponent.read_eq {exponent : Bytes} (h : IsExponent exponent e) (hrest : EndsNumber rest) :
    readExponent (exponent ++ rest) = .ok (e, rest) := by
  have hends : EndsDigits rest := fun b hb => (hrest b hb).1
  cases h with
  | none =>
    cases rest with
    | nil => rfl
    | cons b rest =>
      obtain ⟨-, -, hsmall, hlarge⟩ := hrest b rfl
      exact readExponent_of_not_letter (not_or.2 ⟨hsmall, hlarge⟩)
  | @plain letter digits hletter h =>
    obtain ⟨htake, hdrop⟩ := h.span hends
    have hsigned : Signed (digits ++ rest) false (digits ++ rest) := by
      refine .none fun b hb => ?_
      have hdigit := h.isDigit_of_mem_head? hb
      constructor <;> rintro rfl <;> contradiction
    rw [List.cons_append, readExponent_of_signed hletter hsigned, htake, hdrop, if_neg h.1]
    rfl
  | plus hletter h =>
    obtain ⟨htake, hdrop⟩ := h.span hends
    rw [List.cons_append, List.cons_append, readExponent_of_signed hletter .plus, htake, hdrop,
      if_neg h.1]
    rfl
  | minus hletter h =>
    obtain ⟨htake, hdrop⟩ := h.span hends
    rw [List.cons_append, List.cons_append, readExponent_of_signed hletter .minus, htake, hdrop,
      if_neg h.1]
    rfl

lemma exists_of_readExponent (h : readExponent input = .ok (e, rest)) :
    ∃ exponent, input = exponent ++ rest ∧ IsExponent exponent e := by
  cases input with
  | nil =>
    obtain ⟨rfl, rfl⟩ := Prod.mk.inj (Except.ok.inj h)
    exact ⟨[], rfl, .none⟩
  | cons letter more =>
    by_cases hletter : letter = 101 ∨ letter = 69
    · obtain ⟨negative, unsigned, hsigned⟩ := exists_signed more
      rw [readExponent_of_signed hletter hsigned] at h
      split at h
      next => contradiction
      next hne =>
        obtain ⟨rfl, rfl⟩ := Prod.mk.inj (Except.ok.inj h)
        have hdigits := isDigits_takeWhile hne
        have hsplit : unsigned = unsigned.takeWhile isDigit ++ unsigned.dropWhile isDigit :=
          List.takeWhile_append_dropWhile.symm
        cases hsigned with
        | minus =>
          exact ⟨_, congrArg (fun more => letter :: 45 :: more) hsplit, .minus hletter hdigits⟩
        | plus =>
          exact ⟨_, congrArg (fun more => letter :: 43 :: more) hsplit, .plus hletter hdigits⟩
        | none => exact ⟨_, congrArg (letter :: ·) hsplit, .plain hletter hdigits⟩
    · rw [readExponent_of_not_letter hletter] at h
      obtain ⟨rfl, rfl⟩ := Prod.mk.inj (Except.ok.inj h)
      exact ⟨[], rfl, .none⟩

/-! ### Integers and floating-point numbers -/

lemma endsDigits_append {fraction : Bytes} (h : IsFraction fraction digits)
    (hrest : EndsDigits rest) : EndsDigits (fraction ++ rest) := by
  cases h with
  | none => exact hrest
  | point =>
    rw [List.cons_append]
    simp only [EndsDigits, List.head?_cons, Option.mem_def, Option.some.injEq, forall_eq']
    rfl

lemma IsExponent.ends {exponent : Bytes} (h : IsExponent exponent e) (hrest : EndsNumber rest) :
    EndsDigits (exponent ++ rest) ∧ ∀ b ∈ (exponent ++ rest).head?, b ≠ 46 := by
  have hmark {letter : UInt8} {more : Bytes} (hletter : letter = 101 ∨ letter = 69) :
      EndsDigits (letter :: more) ∧ ∀ b ∈ (letter :: more).head?, b ≠ 46 := by
    simp only [EndsDigits, List.head?_cons, Option.mem_def, Option.some.injEq, forall_eq']
    rcases hletter with rfl | rfl <;> exact ⟨rfl, by decide⟩
  cases h with
  | none => exact ⟨fun b hb => (hrest b hb).1, fun b hb => (hrest b hb).2.1⟩
  | plain hletter => exact hmark hletter
  | plus hletter => exact hmark hletter
  | minus hletter => exact hmark hletter

lemma isWhole_iff (h : ∀ b ∈ digits, isDigit b) :
    IsWhole digits ↔ ¬ (digits = [] ∨ (1 < digits.length ∧ digits.head? = some 48)) := by
  rw [IsWhole, IsDigits]
  cases digits with
  | nil => simp
  | cons b digits =>
    cases digits with
    | nil => simpa using h
    | cons c digits => simpa using fun _ => h

/-- What is read as a number is written as one, after its sign. -/
lemma exists_of_readNumber (h : readNumber strict negative input = .ok (j, rest)) :
    ∃ unsigned, input = unsigned ++ rest ∧ IsNumber (sign negative ++ unsigned) j := by
  unfold readNumber at h
  dsimp only at h
  split at h
  next => contradiction
  next hbounds =>
    obtain ⟨⟨digits, more⟩, hpoint, hafter⟩ := Except.bind_eq_ok_iff.1 h
    obtain ⟨⟨e, rest'⟩, hletter, hvalue⟩ := Except.bind_eq_ok_iff.1 hafter
    obtain ⟨fraction, hsplit, hfraction⟩ := exists_of_readFraction hpoint
    obtain ⟨exponent, rfl, hexponent⟩ := exists_of_readExponent hletter
    have hwhole : IsWhole (input.takeWhile isDigit) :=
      (isWhole_iff fun b hb => List.mem_takeWhile_imp hb).2 hbounds
    have hinput : input = input.takeWhile isDigit ++ (fraction ++ (exponent ++ rest')) := by
      rw [← hsplit, List.takeWhile_append_dropWhile]
    dsimp only at hvalue
    split at hvalue
    next hnone =>
      obtain ⟨rfl, rfl⟩ := hnone
      obtain ⟨rfl, rfl⟩ := Prod.mk.inj (Except.ok.inj hvalue)
      obtain rfl := hfraction.eq_nil
      cases hexponent
      exact ⟨_, hinput, .integer negative hwhole⟩
    next hsome =>
      split at hvalue
      next => contradiction
      next hfinite =>
        obtain ⟨rfl, rfl⟩ := Prod.mk.inj (Except.ok.inj hvalue)
        refine ⟨input.takeWhile isDigit ++ (fraction ++ exponent), ?_,
          .float negative hwhole hfraction hexponent hsome rfl fun h => hfinite ⟨h, rfl⟩⟩
        rw [List.append_assoc, List.append_assoc]
        exact hinput

/-- The parts of a number are read as they are written. -/
lemma readNumber_parts (negative : Bool) {whole fraction exponent : Bytes} (hwhole : IsWhole whole)
    (hfraction : IsFraction fraction digits) (hexponent : IsExponent exponent e)
    (hrest : EndsNumber rest) :
    readNumber strict negative (whole ++ (fraction ++ (exponent ++ rest))) =
      if digits = [] ∧ e = none then
        .ok (.int (if negative then -digitsValue whole else digitsValue whole), rest)
      else
        let x := Binary64.ofDecimal negative (digitsValue (whole ++ digits))
          (e.getD 0 - digits.length)
        if x = .infinite negative then .error .malformed else .ok (.float x, rest) := by
  obtain ⟨hdigits, hpoint⟩ := hexponent.ends hrest
  obtain ⟨htake, hdrop⟩ := hwhole.1.span (endsDigits_append hfraction hdigits)
  have hall : ¬ (whole = [] ∨ (1 < whole.length ∧ whole.head? = some 48)) :=
    (isWhole_iff hwhole.1.2).1 hwhole
  unfold readNumber
  rw [htake, hdrop]
  dsimp only
  rw [if_neg hall, hfraction.read_eq hdigits hpoint]
  simp only [bind, Except.bind]
  rw [hexponent.read_eq hrest]
  dsimp only
  split
  · rfl
  · simp only [strict, Bool.not_false, and_true]
    rfl

/-! ### Words -/

lemma word?_eq_some_iff {word : String} :
    word? word input = some rest ↔ input = Utf8.encode word.toList ++ rest := by
  rw [word?]
  constructor
  · intro h
    split at h
    next hword =>
      obtain ⟨more, rfl⟩ := List.isPrefixOf_iff_prefix.1 hword
      rw [List.drop_left] at h
      rw [Option.some.inj h]
    next => contradiction
  · rintro rfl
    rw [if_pos (List.isPrefixOf_iff_prefix.2 (List.prefix_append _ _)), List.drop_left]

lemma word?_eq_none {word : String} {b c : UInt8} (hc : (Utf8.encode word.toList).head? = some c)
    (hb : b ≠ c) : word? word (b :: input) = none := by
  cases h : word? word (b :: input) with
  | none => rfl
  | some rest =>
    have hhead := congrArg List.head? (word?_eq_some_iff.1 h)
    rw [List.head?_cons, List.head?_append, hc] at hhead
    exact absurd (Option.some.inj hhead) hb

lemma readScalar_digit {b : UInt8} (hb : isDigit b) :
    readScalar strict (b :: input) = readNumber strict false (b :: input) := by
  have hword {word : String} {c : UInt8} (hc : (Utf8.encode word.toList).head? = some c)
      (hdigit : isDigit c = false) : word? word (b :: input) = none := by
    refine word?_eq_none hc ?_
    rintro rfl
    rw [hb] at hdigit
    contradiction
  have hnull : word? "null" (b :: input) = none := hword rfl rfl
  have htrue : word? "true" (b :: input) = none := hword rfl rfl
  have hfalse : word? "false" (b :: input) = none := hword rfl rfl
  have hminus : word? "-" (b :: input) = none := hword rfl rfl
  simp only [readScalar, hnull, htrue, hfalse, hminus]
  rfl

lemma readScalar_minus : readScalar strict (45 :: input) = readNumber strict true input := rfl

lemma IsNumber.readScalar_eq (h : IsNumber number j) (hrest : EndsNumber rest) :
    readScalar strict (number ++ rest) = .ok (j, rest) := by
  have hsign {negative : Bool} {whole more : Bytes} (hwhole : IsWhole whole) :
      readScalar strict (sign negative ++ (whole ++ more)) =
        readNumber strict negative (whole ++ more) := by
    cases negative with
    | true => exact readScalar_minus
    | false =>
      obtain ⟨⟨hne, hall⟩, -⟩ := hwhole
      cases whole with
      | nil => contradiction
      | cons b whole => exact readScalar_digit (hall b List.mem_cons_self)
  cases h with
  | integer negative hwhole =>
    have hread := readNumber_parts negative hwhole .none .none hrest
    simp only [List.nil_append, true_and, if_true] at hread
    rw [List.append_assoc, hsign hwhole, hread]
  | float negative hwhole hfraction hexponent hsome hx hfinite =>
    have hread := readNumber_parts negative hwhole hfraction hexponent hrest
    rw [if_neg hsome, ← hx] at hread
    dsimp only at hread
    rw [if_neg hfinite] at hread
    simp only [List.append_assoc]
    rw [hsign hwhole, hread]

end Numbers

end LogSearch.Json
