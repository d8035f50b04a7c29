import LogSearch.Proofs.Time.Forms

/-!
# Written instants read back

An instant is written with the year as it is, while a timestamp has four digits for the year.
`Instant.ofText?` reads the written form: it fills the year up to four digits and reads the
result as a timestamp.  `ofText?_text` says that it gives the instant back, and so two instants
with the same written form are the same.  Read as it is, the written form is a timestamp for the
instant itself from the year 1000 on and no timestamp at all before; this is `reads_back`.

The way there follows the reader.  A valid date and time has digits of the right widths, so that
the written form is spelled by its parts and `Stamp.read?` finds them (`read?_dateTimeText`); the
parts have the values they were written from (`dateTime?_ofDateTime`); and the letter Z makes the
instant the count of microseconds of the date and time, without regard to the zone.
-/

namespace LogSearch

open Text

/-! ## Digits -/

namespace Text

lemma isBlank_eq_false_of_isDigit {c : Char} (h : c.isDigit) : isBlank c = false := by
  have hc := Char.isDigit_iff_toNat.1 h
  have h0 : '0'.toNat = 48 := rfl
  have h9 : '9'.toNat = 57 := rfl
  have habove : ¬ c.toNat < 0x1C ∧ ¬ c.toNat ≤ 0x20 ∧ c.toNat < 0x85 := by omega
  have hlow : ¬ c.toNat < 9 ∧ ¬ c.toNat ≤ 0xD := by omega
  simp only [isBlank, blanks, Ranges.contains, hlow, habove, if_true, if_false]

end Text

/-! ## The characters of an instant -/

/-- An instant is written in digits and five marks. -/
lemma Instant.isDigit_or_mark (i : Instant) :
    ∀ c ∈ i.text, c.isDigit ∨ c ∈ ("-T:.Z" : Text) := by
  have hnumber : ∀ n, ∀ c ∈ Text.ofNat n, c.isDigit ∨ c ∈ ("-T:.Z" : Text) :=
    fun n c hc => .inl (Text.isDigit_of_mem_ofNat hc)
  have hpadded : ∀ width n, ∀ c ∈ Text.padded width n, c.isDigit ∨ c ∈ ("-T:.Z" : Text) :=
    fun width n c hc => .inl (Text.isDigit_of_mem_padded hc)
  have hfraction : ∀ micro, ∀ c ∈ fractionText micro, c.isDigit ∨ c ∈ ("-T:.Z" : Text) := by
    intro micro
    rw [fractionText]
    split
    · simp
    · split <;> exact List.forall_mem_cons.2 ⟨by decide, hpadded _ _⟩
  simp only [text, dateTimeText, List.forall_mem_append, and_assoc]
  exact ⟨hnumber _, by simp, hpadded _ _, by simp, hpadded _ _, by simp, hpadded _ _, by simp,
    hpadded _ _, by simp, hpadded _ _, hfraction _, by simp⟩

lemma Instant.not_mem_text (i : Instant) {c : Char} (hdigit : ¬ c.isDigit)
    (hmark : c ∉ ("-T:.Z" : Text)) : c ∉ i.text :=
  fun hc => (i.isDigit_or_mark c hc).elim hdigit hmark

/-! ## The parts of a timestamp -/

namespace Stamp

/-- The digits of the fraction of a second, as they are written. -/
def fractionDigits (micro : Nat) : Text :=
  if micro = 0 then [] else if micro % 1000 = 0 then padded 3 (micro / 1000) else padded 6 micro

/-- The timestamp of a date and time in universal time. -/
def ofDateTime (d : DateTime) : Stamp :=
  ⟨padded 4 d.year, padded 2 d.month, padded 2 d.day,
    some ⟨padded 2 d.hour, padded 2 d.minute, padded 2 d.second, fractionDigits d.micro,
      some .universal⟩⟩

/-- Seconds and fraction are spelled as they are written. -/
lemma spellsSeconds_written {second : Nat} (hsecond : second < 60) (micro : Nat) :
    SpellsSeconds (padded 2 second) (fractionDigits micro)
      (':' :: (padded 2 second ++ Instant.fractionText micro)) := by
  have hdigits : padded 2 second ∈ digits 2 := padded_mem_digits (by decide) (by omega)
  by_cases hzero : micro = 0
  · have hnothing : fractionDigits micro = [] ∧ Instant.fractionText micro = [] :=
      ⟨if_pos hzero, if_pos hzero⟩
    rw [hnothing.1, hnothing.2, List.append_nil]
    exact .whole hdigits
  · have hpoint : Instant.fractionText micro = '.' :: fractionDigits micro := by
      rw [Instant.fractionText, fractionDigits, if_neg hzero, if_neg hzero]
      split <;> rfl
    have hfraction : fractionDigits micro ∈ someDigits := by
      rw [fractionDigits, if_neg hzero]
      split <;> exact ⟨padded_ne_nil _ _,
        fun c hc => isDecimalDigit_of_isDigit (isDigit_of_mem_padded hc)⟩
    rw [hpoint]
    exact .fraction hdigits hfraction

/-- A written date and time is taken apart at its marks, with the year filled up to four
digits. -/
lemma read?_dateTimeText {d : DateTime} (hd : d.IsValid) :
    read? (List.replicate (4 - (ofNat d.year).length) '0' ++ (Instant.dateTimeText d ++ ['Z'])) =
      some (ofDateTime d) := by
  obtain ⟨-, hyear, -, hmonth, -, hday, hhour, hminute, hsecond, -⟩ := hd
  have hday' : d.day ≤ 31 := Nat.le_trans hday (DateTime.getD_monthLengths_le _ _)
  have hlast : lastYear = 9999 := rfl
  have hwritten : List.replicate (4 - (ofNat d.year).length) '0' ++
      (Instant.dateTimeText d ++ ['Z']) =
      padded 4 d.year ++ ('-' :: (padded 2 d.month ++ ('-' :: (padded 2 d.day ++ ('T' ::
        (padded 2 d.hour ++ (':' :: (padded 2 d.minute ++ (':' :: (padded 2 d.second ++
          (Instant.fractionText d.micro ++ ['Z']))))))))))) := by
    simp [Instant.dateTimeText, padded]
  have hfour : padded 4 d.year ∈ digits 4 := padded_mem_digits (by decide) (by omega)
  have htwo : ∀ n < 100, padded 2 n ∈ digits 2 := fun n hn => padded_mem_digits (by decide) hn
  have hclock := SpellsClock.clock (htwo d.hour (by omega)) (htwo d.minute (by omega))
    (spellsSeconds_written hsecond d.micro) (.universal (show 'Z' ∈ ['Z', 'z'] by decide))
  have hspells := Spells.time hfour (htwo d.month (by omega)) (htwo d.day (by omega))
    (show 'T' ∈ ['T', 't'] by decide) hclock
  rw [hwritten, read?_eq_some_iff]
  simpa [ofDateTime] using hspells

/-! ## The values of the parts -/

lemma fractionMicros?_fractionDigits {micro : Nat} (hmicro : micro < microsPerSecond) :
    fractionMicros? (fractionDigits micro) = some micro := by
  have hsecond : microsPerSecond = 1000000 := rfl
  rw [fractionDigits]
  split
  next hzero =>
    subst hzero
    decide
  next =>
    split
    next hthousand =>
      -- three digits and three zeros: the value of the digits times a thousand
      have hlength : (padded 3 (micro / 1000)).length = 3 :=
        length_padded (by decide) (by omega)
      have hdigits : ∀ c ∈ padded 3 (micro / 1000) ++ List.replicate 3 '0', c.isDigit := by
        intro c hc
        rw [List.mem_append, List.mem_replicate] at hc
        rcases hc with hc | ⟨-, rfl⟩
        · exact isDigit_of_mem_padded hc
        · rfl
      rw [fractionMicros?, List.take_of_length_le (by omega), hlength,
        toNat?_eq_some (by simp) hdigits, Nat.ofDigitChars_append, ofDigitChars_padded,
        Nat.ofDigitChars_replicate_zero]
      congr 1
      omega
    next =>
      have hlength : (padded 6 micro).length = 6 := length_padded (by decide) (by omega)
      rw [fractionMicros?, List.take_of_length_le (by omega), hlength]
      simp

lemma dateTime?_ofDateTime {d : DateTime} (hd : d.IsValid) :
    (ofDateTime d).dateTime? = some d := by
  have hfraction := fractionMicros?_fractionDigits hd.2.2.2.2.2.2.2.2.2
  have hsecond : valueOrZero? (padded 2 d.second) = some d.second := by
    rw [valueOrZero?, if_neg (padded_ne_nil _ _), toNat?_padded]
  have hvalid : DateTime.validated d = some d := if_pos hd
  simp only [dateTime?, ofDateTime, toNat?_padded, Option.bind_eq_bind, Option.bind_some,
    reduceCtorEq, false_and, if_false, hsecond, hfraction]
  exact hvalid

end Stamp

/-! ## Instants -/

namespace Instant

lemma isValid_ofMicros (i : Instant) : (DateTime.ofMicros i.micros).IsValid :=
  DateTime.isValid_ofMicros i.lt_count

/-- A written date and time begins with a digit and ends with a letter, so that nothing is
stripped off. -/
lemma strip_dateTimeText (d : DateTime) (zeros : Nat) :
    Text.strip (List.replicate zeros '0' ++ (dateTimeText d ++ ['Z'])) =
      List.replicate zeros '0' ++ (dateTimeText d ++ ['Z']) := by
  obtain ⟨year, rest, hyear⟩ : ∃ year rest, List.replicate zeros '0' ++ ofNat d.year =
      year :: rest := List.exists_cons_of_ne_nil (by simp [ofNat_ne_nil])
  have hdigit : year.isDigit := by
    have hmem : year ∈ List.replicate zeros '0' ++ ofNat d.year := by simp [hyear]
    rw [List.mem_append, List.mem_replicate] at hmem
    rcases hmem with ⟨-, rfl⟩ | hmem
    · rfl
    · exact isDigit_of_mem_ofNat hmem
  have htext : ∃ more, List.replicate zeros '0' ++ (dateTimeText d ++ ['Z']) =
      (List.replicate zeros '0' ++ ofNat d.year) ++ more := by
    simp [dateTimeText]
  obtain ⟨more, htext⟩ := htext
  apply Text.strip_eq_self
  · intro c hc
    rw [htext, hyear] at hc
    obtain rfl : year = c := by simpa using hc
    exact Text.isBlank_eq_false_of_isDigit hdigit
  · intro c hc
    rw [← List.append_assoc, List.getLast?_append] at hc
    obtain rfl : 'Z' = c := by simpa using hc
    decide

/-- A written date and time with its year filled up to four digits is read as the instant that it
names in universal time, in any zone. -/
lemma read?_dateTimeText (z : Zone) {d : DateTime} (hd : d.IsValid) {i : Instant}
    (hinstant : d.instantAt 0 = .ok i) :
    read? z (List.replicate (4 - (ofNat d.year).length) '0' ++ (dateTimeText d ++ ['Z'])) =
      .ok (some i) := by
  have hsuffix : (Stamp.ofDateTime d).clock.bind (·.suffix) = some .universal := rfl
  rw [read?, strip_dateTimeText, Stamp.read?_dateTimeText hd]
  simp only [Stamp.instant?, Stamp.dateTime?_ofDateTime hd, hsuffix, hinstant]
  rfl

lemma instantAt_ofMicros (i : Instant) : (DateTime.ofMicros i.micros).instantAt 0 = .ok i := by
  have hmicros : ((DateTime.ofMicros i.micros).micros : Int) - microsOfMinutes 0 = i.micros := by
    rw [DateTime.micros_ofMicros]
    simp [microsOfMinutes]
  rw [DateTime.instantAt, hmicros, requireInstant, ofMicros?, dif_pos ⟨by omega, i.lt_count⟩]
  rfl

lemma read?_padded (z : Zone) (i : Instant) :
    read? z (List.replicate (4 - (ofNat (DateTime.ofMicros i.micros).year).length) '0' ++ i.text) =
      .ok (some i) := by
  have htext : i.text = dateTimeText (DateTime.ofMicros i.micros) ++ ['Z'] := by simp [text]
  rw [htext]
  exact read?_dateTimeText z i.isValid_ofMicros i.instantAt_ofMicros

/-- The instant with a written form. -/
def ofText? (t : Text) : Option Instant :=
  match read? ⟨0⟩ (List.replicate (4 - (t.takeWhile Char.isDigit).length) '0' ++ t) with
  | .ok i => i
  | .error _ => none

lemma exists_dateTimeText_eq (d : DateTime) :
    ∃ rest, dateTimeText d = ofNat d.year ++ '-' :: rest := by
  simp [dateTimeText]

/-- The digits in front of a written instant are those of its year. -/
lemma takeWhile_isDigit_text (i : Instant) :
    i.text.takeWhile Char.isDigit = ofNat (DateTime.ofMicros i.micros).year := by
  obtain ⟨rest, hrest⟩ := exists_dateTimeText_eq (DateTime.ofMicros i.micros)
  rw [text, hrest, List.append_assoc,
    List.takeWhile_append_of_pos fun _ => isDigit_of_mem_ofNat]
  simp

/-- **A written instant reads back.** -/
lemma ofText?_text (i : Instant) : ofText? i.text = some i := by
  rw [ofText?, takeWhile_isDigit_text, read?_padded]

end Instant

/-! ## Years of four digits and of fewer -/

/-- The digits of a number are at least four just when it is at least a thousand. -/
lemma Text.four_le_length_ofNat_iff {n : Nat} : 4 ≤ (ofNat n).length ↔ 1000 ≤ n := by
  have hshort : (ofNat n).length ≤ 3 ↔ n < 10 ^ 3 :=
    Nat.length_toDigits_le_iff (by decide) (by decide)
  omega

/-- A text is no timestamp if fewer than four digits stand in front of its first hyphen. -/
lemma Stamp.read?_eq_none_of_short_year {year : Text} (hyear : year.length < 4) (rest : Text) :
    read? (year ++ '-' :: rest) = none := by
  have hhyphen : '-' ∈ (year ++ '-' :: rest).take 4 := by
    obtain ⟨more, hmore⟩ := Nat.exists_eq_add_of_lt hyear
    rw [hmore, Nat.add_assoc, List.take_length_add_append, List.take_succ_cons]
    simp
  have hall : ((year ++ '-' :: rest).take 4).all isDecimalDigit = false :=
    List.all_eq_false.2 ⟨'-', hhyphen, by decide⟩
  have hdigits : digits? 4 (year ++ '-' :: rest) = none := by
    rw [digits?, if_neg (by simp [hall])]
  rw [read?, hdigits]
  rfl

namespace Instant

lemma read?_text (z : Zone) {i : Instant}
    (hyear : 1000 ≤ (DateTime.ofMicros i.micros).year) : read? z i.text = .ok (some i) := by
  have hlength := four_le_length_ofNat_iff.2 hyear
  have hread := read?_padded z i
  generalize ofNat (DateTime.ofMicros i.micros).year = digits at hlength hread
  have hzeros : 4 - digits.length = 0 := by omega
  simpa only [hzeros, List.replicate_zero, List.nil_append] using hread

lemma read?_text_eq_none (z : Zone) {i : Instant}
    (hyear : (DateTime.ofMicros i.micros).year < 1000) : read? z i.text = .ok none := by
  have hshort : (ofNat (DateTime.ofMicros i.micros).year).length < 4 := by
    rw [← Nat.not_le, four_le_length_ofNat_iff]
    omega
  have hstrip : Text.strip i.text = i.text := by
    simpa [text] using strip_dateTimeText (DateTime.ofMicros i.micros) 0
  obtain ⟨rest, hrest⟩ := exists_dateTimeText_eq (DateTime.ofMicros i.micros)
  have htext : i.text = ofNat (DateTime.ofMicros i.micros).year ++ '-' :: (rest ++ ['Z']) := by
    simp [text, hrest]
  rw [read?, hstrip, htext, Stamp.read?_eq_none_of_short_year hshort]

/-- A date and time of the calendar is that of an instant. -/
lemma exists_instantAt_eq_ok {d : DateTime} (hd : d.IsValid) :
    ∃ i : Instant, d.instantAt 0 = .ok i ∧ DateTime.ofMicros i.micros = d := by
  let i : Instant := ⟨d.micros, DateTime.micros_lt_instantCount hd⟩
  have hdate : DateTime.ofMicros i.micros = d := DateTime.ofMicros_micros hd
  have hinstant : d.instantAt 0 = .ok i := by
    have hat := instantAt_ofMicros i
    rwa [hdate] at hat
  exact ⟨i, hinstant, hdate⟩

/-- **Written instants are read as they are.**
* Every date and time of the calendar, taken as universal time, is that of an instant.  It is read
  back from its written form, to the microsecond, from the year 1000 on; before, the written form
  is no timestamp.
* Every instant is that of a date and time of the calendar.
* If a text names an instant from the year 1000 on in some zone, then the written form of this
  instant names an instant with the same written form, in any zone. -/
theorem reads_back (z : Zone) :
    (∀ d : DateTime, d.IsValid → ∃ i : Instant, d.instantAt 0 = .ok i ∧
        i.text = dateTimeText d ++ "Z" ∧
        read? z i.text = .ok (if 1000 ≤ d.year then some i else none)) ∧
      (∀ i : Instant, ∃ d : DateTime, d.IsValid ∧ d.instantAt 0 = .ok i) ∧
      ∀ (t : Text) (i : Instant), read? z t = .ok (some i) →
        1000 ≤ (DateTime.ofMicros i.micros).year →
        ∀ z' : Zone, ∃ j : Instant, read? z' i.text = .ok (some j) ∧ j.text = i.text := by
  refine ⟨?_, ?_, ?_⟩
  · intro d hd
    obtain ⟨i, hinstant, rfl⟩ := exists_instantAt_eq_ok hd
    refine ⟨i, hinstant, rfl, ?_⟩
    by_cases hyear : 1000 ≤ (DateTime.ofMicros i.micros).year
    · rw [if_pos hyear]
      exact read?_text z hyear
    · rw [if_neg hyear]
      exact read?_text_eq_none z (Nat.not_le.1 hyear)
  · intro i
    exact ⟨_, i.isValid_ofMicros, i.instantAt_ofMicros⟩
  · intro t i _ hyear z'
    exact ⟨i, read?_text z' hyear, rfl⟩

/-- A leap day in three digits of the year and in four, and a local time whose instant is on the
day before. -/
theorem reads_back_of_leap_days :
    (∃ i : Instant, i.text = "996-02-29T23:59:59.000001Z" ∧ read? ⟨3600⟩ i.text = .ok none) ∧
      (∃ i : Instant, i.text = "2024-02-29T00:00:00.500Z" ∧ read? ⟨3600⟩ i.text = .ok (some i)) ∧
      ∃ i : Instant, read? ⟨3600⟩ " 2024-03-01T00:30 " = .ok (some i) ∧
        i.text = "2024-02-29T23:30:00Z" ∧
        ∃ j : Instant, read? ⟨-3600⟩ i.text = .ok (some j) ∧ j.text = i.text := by
  obtain ⟨hdates, -, hread⟩ := reads_back ⟨3600⟩
  refine ⟨?_, ?_, ?_⟩
  · obtain ⟨i, -, htext, hnone⟩ := hdates ⟨996, 2, 29, 23, 59, 59, 1⟩ (by decide)
    exact ⟨i, htext.trans (by decide), hnone⟩
  · obtain ⟨i, -, htext, hsome⟩ := hdates ⟨2024, 2, 29, 0, 0, 0, 500000⟩ (by decide)
    exact ⟨i, htext.trans (by decide), hsome⟩
  · let i : Instant := ⟨63844846200000000, by decide⟩
    have hlocal : read? ⟨3600⟩ " 2024-03-01T00:30 " = .ok (some i) := by decide +kernel
    have htext : i.text = "2024-02-29T23:30:00Z" := by decide +kernel
    exact ⟨i, hlocal, htext, hread _ i hlocal (by decide +kernel) ⟨-3600⟩⟩

end Instant

end LogSearch
