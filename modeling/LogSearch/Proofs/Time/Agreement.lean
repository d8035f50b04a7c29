import LogSearch.Proofs.Time.Written

/-!
# The forms of a timestamp agree

The same date and time of day can be written in three forms, and a date in a fourth.  What they name
lies on one line of time.  A date and a time of day show a date and time of the calendar or they do
not, and the suffix has no part in this (`exists_shown`).  If they do not, no form names anything.
If they do, the letter Z makes the instant the count of microseconds of the date and time, and a
distance from universal time is taken off this count, whatever days, months or years are crossed on
the way (`forms_agree`).

A text in digits is described here by the numbers that it is written from: four digits for the year
and two for each of the other parts make up any text of the pattern in ASCII
(`exists_eq_dateText`, `exists_showsTime`).
-/

namespace LogSearch

open Text

namespace Stamp

/-! ## Dates and times of day -/

/-- A date in digits. -/
def dateText (year month day : Nat) : Text :=
  padded 4 year ++ '-' :: (padded 2 month ++ '-' :: padded 2 day)

/-- The text is how a day of the calendar is written. -/
def IsCalendarDate (t : Text) : Prop :=
  ∃ year month day, t = dateText year month day ∧ (DateTime.mk year month day 0 0 0 0).IsValid

/-- The text shows the hour, the minute and the second, with a fraction of the second or without. -/
inductive ShowsTime : Text → Nat → Nat → Nat → Prop where
  | minutes (hour minute : Nat) : ShowsTime (padded 2 hour ++ ':' :: padded 2 minute) hour minute 0
  | seconds (hour minute second : Nat) :
      ShowsTime (padded 2 hour ++ ':' :: (padded 2 minute ++ ':' :: padded 2 second))
        hour minute second
  | fraction (hour minute second : Nat) {fraction : Text} (hne : fraction ≠ [])
      (hfraction : ∀ c ∈ fraction, c.isDigit) :
      ShowsTime
        (padded 2 hour ++ ':' :: (padded 2 minute ++ ':' :: (padded 2 second ++ '.' :: fraction)))
        hour minute second

/-- The text is how a time of day is written. -/
def IsClockTime (t : Text) : Prop :=
  ∃ hour < 24, ∃ minute < 60, ∃ second < 60, ShowsTime t hour minute second

/-- The text is a distance of so many minutes from universal time, less than a day.  The minutes
behind the colon may be 60 or more. -/
inductive IsOffsetText : Text → Int → Prop where
  | east {hours minutes : Nat} (hminutes : minutes < 100) (hday : hours * 60 + minutes < 24 * 60) :
      IsOffsetText ('+' :: (padded 2 hours ++ ':' :: padded 2 minutes)) (hours * 60 + minutes : Nat)
  | west {hours minutes : Nat} (hminutes : minutes < 100) (hday : hours * 60 + minutes < 24 * 60) :
      IsOffsetText ('-' :: (padded 2 hours ++ ':' :: padded 2 minutes))
        (-(hours * 60 + minutes : Nat))

lemma exists_eq_padded_of_mem_digits {width : Nat} {t : Text} (hwidth : 0 < width)
    (ht : t ∈ digits width) (hascii : ∀ c ∈ t, c.toNat < 128) :
    ∃ n < 10 ^ width, t = padded width n := by
  obtain ⟨rfl, hdigits⟩ := ht
  exact exists_eq_padded (List.length_pos_iff.1 hwidth) fun c hc =>
    isDigit_of_isDecimalDigit (hdigits c hc) (hascii c hc)

lemma exists_eq_dateText {t : Text} (ht : t ∈ datePattern) (hascii : ∀ c ∈ t, c.toNat < 128) :
    ∃ year < 10000, ∃ month < 100, ∃ day < 100, t = dateText year month day := by
  obtain ⟨year, hyear, month, hmonth, day, hday, rfl⟩ := mem_datePattern.1 ht
  simp only [List.forall_mem_append, List.forall_mem_cons] at hascii
  obtain ⟨hyearAscii, -, hmonthAscii, -, hdayAscii⟩ := hascii
  obtain ⟨y, hy, rfl⟩ := exists_eq_padded_of_mem_digits (by decide) hyear hyearAscii
  obtain ⟨m, hm, rfl⟩ := exists_eq_padded_of_mem_digits (by decide) hmonth hmonthAscii
  obtain ⟨d, hd, rfl⟩ := exists_eq_padded_of_mem_digits (by decide) hday hdayAscii
  exact ⟨y, hy, m, hm, d, hd, rfl⟩

/-- Every time of day in ASCII shows three numbers. -/
lemma exists_showsTime {t : Text} (ht : t ∈ timePattern) (hascii : ∀ c ∈ t, c.toNat < 128) :
    ∃ hour < 100, ∃ minute < 100, ∃ second < 100, ShowsTime t hour minute second := by
  obtain ⟨hour, hhour, minute, hminute, seconds, second, fraction, hseconds, rfl⟩ :=
    mem_timePattern.1 ht
  simp only [List.forall_mem_append, List.forall_mem_cons] at hascii
  obtain ⟨hhourAscii, -, hminuteAscii, hsecondsAscii⟩ := hascii
  obtain ⟨h, hh, rfl⟩ := exists_eq_padded_of_mem_digits (by decide) hhour hhourAscii
  obtain ⟨m, hm, rfl⟩ := exists_eq_padded_of_mem_digits (by decide) hminute hminuteAscii
  cases hseconds with
  | absent =>
    rw [List.append_nil]
    exact ⟨h, hh, m, hm, 0, by decide, .minutes h m⟩
  | whole hsecond =>
    obtain ⟨-, hsecondAscii⟩ := List.forall_mem_cons.1 hsecondsAscii
    obtain ⟨s, hs, rfl⟩ := exists_eq_padded_of_mem_digits (by decide) hsecond hsecondAscii
    exact ⟨h, hh, m, hm, s, hs, .seconds h m s⟩
  | fraction hsecond hfraction =>
    simp only [List.forall_mem_append, List.forall_mem_cons] at hsecondsAscii
    obtain ⟨-, hsecondAscii, -, hfractionAscii⟩ := hsecondsAscii
    obtain ⟨s, hs, rfl⟩ := exists_eq_padded_of_mem_digits (by decide) hsecond hsecondAscii
    exact ⟨h, hh, m, hm, s, hs, .fraction h m s hfraction.1 fun c hc =>
      isDigit_of_isDecimalDigit (hfraction.2 c hc) (hfractionAscii c hc)⟩

/-! ## What is shown -/

/-- The digits of a fraction have a value below a second. -/
lemma exists_fractionMicros?_eq {fraction : Text} (h : ∀ c ∈ fraction, c.isDigit) :
    ∃ micro < microsPerSecond, fractionMicros? fraction = some micro := by
  let six := fraction.take 6 ++ List.replicate (6 - fraction.length) '0'
  have hlength : six.length = 6 := by
    simp only [six, List.length_append, List.length_take, List.length_replicate]
    omega
  have hsix : ∀ c ∈ six, c.isDigit := by
    refine List.forall_mem_append.2 ⟨fun c hc => h c (List.mem_of_mem_take hc), fun c hc => ?_⟩
    rw [List.eq_of_mem_replicate hc]
    rfl
  have hlt := ofDigitChars_lt hsix 0
  rw [hlength] at hlt
  refine ⟨Nat.ofDigitChars 10 six 0, hlt, toNat?_eq_some ?_ hsix⟩
  rw [← List.length_pos_iff, hlength]
  decide

/-- The parts of a time of day as the reader finds them, and their values. -/
lemma ShowsTime.exists_parts {t : Text} {hour minute second : Nat}
    (h : ShowsTime t hour minute second) (hsecond : second < 100) :
    ∃ secondText fraction seconds, SpellsSeconds secondText fraction seconds ∧
      t = padded 2 hour ++ ':' :: (padded 2 minute ++ seconds) ∧
      valueOrZero? secondText = some second ∧ (valueOrZero? fraction).isSome ∧
      ∃ micro < microsPerSecond, fractionMicros? fraction = some micro := by
  have htwo : ∀ n, valueOrZero? (padded 2 n) = some n := by
    intro n
    rw [valueOrZero?, if_neg (padded_ne_nil _ _), toNat?_padded]
  cases h with
  | minutes =>
    exact ⟨[], [], [], .absent, by rw [List.append_nil], rfl, rfl, 0, by decide, by decide⟩
  | seconds =>
    exact ⟨padded 2 second, [], _, .whole (padded_mem_digits (by decide) hsecond), rfl,
      htwo second, rfl, 0, by decide, by decide⟩
  | @fraction _ _ _ fraction hne hfraction =>
    have hvalue : (valueOrZero? fraction).isSome := by
      rw [valueOrZero?, if_neg hne, toNat?_eq_some hne hfraction]
      rfl
    exact ⟨padded 2 second, fraction, _,
      .fraction (padded_mem_digits (by decide) hsecond)
        ⟨hne, fun c hc => isDecimalDigit_of_isDigit (hfraction c hc)⟩,
      rfl, htwo second, hvalue, exists_fractionMicros?_eq hfraction⟩

lemma ShowsTime.unique {t : Text} {hour minute second hour' minute' second' : Nat}
    (h : ShowsTime t hour minute second) (h' : ShowsTime t hour' minute' second')
    (hsmall : hour < 100 ∧ minute < 100 ∧ second < 100)
    (hsmall' : hour' < 100 ∧ minute' < 100 ∧ second' < 100) :
    hour = hour' ∧ minute = minute' ∧ second = second' := by
  have hread : ∀ {hour minute second : Nat}, ShowsTime t hour minute second →
      hour < 100 ∧ minute < 100 ∧ second < 100 → ∃ c, readClock? t = some c ∧
        toNat? c.hour = some hour ∧ toNat? c.minute = some minute ∧
        valueOrZero? c.second = some second := by
    intro hour minute second h hsmall
    obtain ⟨hhour, hminute, hsecond⟩ := hsmall
    obtain ⟨secondText, fraction, seconds, hseconds, rfl, hvalue, -⟩ := h.exists_parts hsecond
    have hspells := SpellsClock.clock (padded_mem_digits (by decide) hhour)
      (padded_mem_digits (by decide) hminute) hseconds .absent
    rw [List.append_nil, ← readClock?_eq_some_iff] at hspells
    exact ⟨_, hspells, toNat?_padded _ _, toNat?_padded _ _, hvalue⟩
  obtain ⟨c, hc, hhour, hminute, hsecond⟩ := hread h hsmall
  obtain ⟨c', hc', hhour', hminute', hsecond'⟩ := hread h' hsmall'
  obtain rfl := Option.some.inj (hc.symm.trans hc')
  exact ⟨Option.some.inj (hhour.symm.trans hhour'), Option.some.inj (hminute.symm.trans hminute'),
    Option.some.inj (hsecond.symm.trans hsecond')⟩

lemma isClockTime_iff {t : Text} {hour minute second : Nat} (h : ShowsTime t hour minute second)
    (hsmall : hour < 100 ∧ minute < 100 ∧ second < 100) :
    IsClockTime t ↔ hour < 24 ∧ minute < 60 ∧ second < 60 := by
  constructor
  · rintro ⟨hour', hhour, minute', hminute, second', hsecond, h'⟩
    obtain ⟨rfl, rfl, rfl⟩ := h.unique h' hsmall ⟨by omega, by omega, by omega⟩
    exact ⟨hhour, hminute, hsecond⟩
  · rintro ⟨hhour, hminute, hsecond⟩
    exact ⟨hour, hhour, minute, hminute, second, hsecond, h⟩

lemma dateText_injective {year month day year' month' day' : Nat}
    (hsmall : year < 10000 ∧ month < 100 ∧ day < 100)
    (hsmall' : year' < 10000 ∧ month' < 100 ∧ day' < 100)
    (h : dateText year month day = dateText year' month' day') :
    year = year' ∧ month = month' ∧ day = day' := by
  have hread : ∀ {year month day : Nat}, year < 10000 ∧ month < 100 ∧ day < 100 →
      read? (dateText year month day) =
        some ⟨padded 4 year, padded 2 month, padded 2 day, none⟩ := by
    rintro year month day ⟨hyear, hmonth, hday⟩
    exact read?_eq_some_iff.2 (.date (padded_mem_digits (by decide) hyear)
      (padded_mem_digits (by decide) hmonth) (padded_mem_digits (by decide) hday))
  have hsame := (hread hsmall).symm.trans ((congrArg read? h).trans (hread hsmall'))
  simp only [Option.some.injEq, Stamp.mk.injEq, and_true] at hsame
  exact ⟨padded_injective 4 hsame.1, padded_injective 2 hsame.2.1, padded_injective 2 hsame.2.2⟩

lemma isCalendarDate_iff {year month day : Nat}
    (hsmall : year < 10000 ∧ month < 100 ∧ day < 100) :
    IsCalendarDate (dateText year month day) ↔ (DateTime.mk year month day 0 0 0 0).IsValid := by
  constructor
  · rintro ⟨year', month', day', h, hvalid⟩
    have hfields := hvalid
    obtain ⟨-, hlast, -, hmonth, -, hday, -⟩ := hfields
    have hlength := hday.trans (DateTime.getD_monthLengths_le _ _)
    simp only [lastYear] at hlast hmonth hlength
    obtain ⟨rfl, rfl, rfl⟩ :=
      dateText_injective hsmall ⟨by omega, by omega, by omega⟩ h
    exact hvalid
  · exact fun hvalid => ⟨year, month, day, rfl, hvalid⟩

/-- **What is shown does not depend on the suffix.**  A date and a time of day in ASCII show one
date and time, whatever follows them, and it is one of the calendar if both of them are. -/
lemma exists_shown {dateT timeT : Text} (hdate : dateT ∈ datePattern) (htime : timeT ∈ timePattern)
    (hdateAscii : ∀ c ∈ dateT, c.toNat < 128) (htimeAscii : ∀ c ∈ timeT, c.toNat < 128) :
    ∃ d : DateTime, (d.IsValid ↔ IsCalendarDate dateT ∧ IsClockTime timeT) ∧
      ∀ suffix suffixText, SpellsSuffix suffix suffixText →
        ∃ s, read? (dateT ++ 'T' :: (timeT ++ suffixText)) = some s ∧
          s.dateTime? = DateTime.validated d ∧ s.clock.bind (·.suffix) = suffix := by
  obtain ⟨year, hyear, month, hmonth, day, hday, rfl⟩ := exists_eq_dateText hdate hdateAscii
  obtain ⟨hour, hhour, minute, hminute, second, hsecond, hshows⟩ :=
    exists_showsTime htime htimeAscii
  have hclock := isClockTime_iff hshows ⟨hhour, hminute, hsecond⟩
  obtain ⟨secondText, fraction, seconds, hseconds, rfl, hvalue, hfraction, micro, hmicro,
    hmicros⟩ := hshows.exists_parts hsecond
  refine ⟨⟨year, month, day, hour, minute, second, micro⟩, ?_, ?_⟩
  · rw [isCalendarDate_iff ⟨hyear, hmonth, hday⟩, hclock]
    simp only [DateTime.IsValid, microsPerSecond] at *
    omega
  · intro suffix suffixText hsuffix
    refine ⟨⟨padded 4 year, padded 2 month, padded 2 day,
      some ⟨padded 2 hour, padded 2 minute, secondText, fraction, suffix⟩⟩, ?_, ?_, rfl⟩
    · rw [read?_eq_some_iff]
      have hspells := Spells.time (padded_mem_digits (by decide) hyear)
        (padded_mem_digits (by decide) hmonth) (padded_mem_digits (by decide) hday)
        (show 'T' ∈ ['T', 't'] by decide)
        (.clock (padded_mem_digits (by decide) hhour) (padded_mem_digits (by decide) hminute)
          hseconds hsuffix)
      simpa [dateText] using hspells
    · have hvalued : ¬ (suffix = none ∧ (valueOrZero? fraction).isNone) := by
        rw [Option.isNone_eq_false_iff.2 hfraction]
        simp
      simp only [dateTime?, toNat?_padded, hvalue, hmicros, if_neg hvalued, Option.bind_eq_bind,
        Option.bind_some]

/-! ## What is named -/

/-- What a date and time names with a suffix. -/
def named (z : Zone) (d : DateTime) : Option Suffix → Except RangeFault (Option Instant)
  | none => some <$> z.instantOf d
  | some .universal => some <$> d.instantAt 0
  | some (.offset west hours minutes) =>
    match offsetMinutes? west hours minutes with
    | none => .ok none
    | some m => some <$> d.instantAt m

lemma instant?_eq {z : Zone} {s : Stamp} {d : DateTime} {suffix : Option Suffix}
    (hdate : s.dateTime? = DateTime.validated d) (hsuffix : s.clock.bind (·.suffix) = suffix) :
    s.instant? z = if d.IsValid then named z d suffix else .ok none := by
  rw [instant?, hdate, hsuffix, DateTime.validated]
  by_cases hd : d.IsValid
  · rw [if_pos hd, if_pos hd]
    rcases suffix with _ | _ | ⟨west, hours, minutes⟩ <;> rfl
  · rw [if_neg hd, if_neg hd]

lemma IsOffsetText.exists_spells {t : Text} {m : Int} (h : IsOffsetText t m) :
    ∃ west hours minutes, SpellsSuffix (some (.offset west hours minutes)) t ∧
      offsetMinutes? west hours minutes = some m := by
  have hoffset : ∀ {total : Nat}, total < 24 * 60 → isOffset total := by
    intro total htotal
    rw [isOffset, Int.natAbs_natCast]
    exact decide_eq_true htotal
  cases h with
  | @east hours minutes hminutes hday =>
    refine ⟨_, _, _, .offset (by decide) (padded_mem_digits (by decide) (by omega))
      (padded_mem_digits (by decide) hminutes), ?_⟩
    simp only [offsetMinutes?, toNat?_padded, Option.bind_eq_bind, Option.bind_some,
      if_pos (hoffset hday)]
    rfl
  | @west hours minutes hminutes hday =>
    refine ⟨_, _, _, .offset (by decide) (padded_mem_digits (by decide) (by omega))
      (padded_mem_digits (by decide) hminutes), ?_⟩
    simp only [offsetMinutes?, toNat?_padded, Option.bind_eq_bind, Option.bind_some,
      if_pos (hoffset hday)]
    rfl

/-- The distance of a zone can be written in hours and minutes. -/
lemma exists_isOffsetText {m : Int} (h : isOffset m) : ∃ t, IsOffsetText t m := by
  rw [isOffset, decide_eq_true_eq] at h
  have hsum := Nat.div_add_mod' m.natAbs 60
  have hminutes : m.natAbs % 60 < 100 := by omega
  have hday : m.natAbs / 60 * 60 + m.natAbs % 60 < 24 * 60 := by omega
  rcases Int.natAbs_eq m with hm | hm
  · have heast := IsOffsetText.east hminutes hday
    rw [hsum, ← hm] at heast
    exact ⟨_, heast⟩
  · have hwest := IsOffsetText.west hminutes hday
    rw [hsum, ← hm] at hwest
    exact ⟨_, hwest⟩

/-! ## Texts without white space -/

lemma isBlank_eq_false_of_mem_padded {width n : Nat} {c : Char} (hc : c ∈ padded width n) :
    isBlank c = false :=
  isBlank_eq_false_of_isDigit (isDigit_of_mem_padded hc)

lemma isBlank_eq_false_of_mem_dateText {year month day : Nat} :
    ∀ c ∈ dateText year month day, isBlank c = false := by
  have hhyphen : isBlank '-' = false := by decide
  simp only [dateText, List.forall_mem_append, List.forall_mem_cons, hhyphen, true_and]
  exact ⟨fun _ => isBlank_eq_false_of_mem_padded, fun _ => isBlank_eq_false_of_mem_padded,
    fun _ => isBlank_eq_false_of_mem_padded⟩

lemma ShowsTime.isBlank_eq_false {t : Text} {hour minute second : Nat}
    (h : ShowsTime t hour minute second) : ∀ c ∈ t, isBlank c = false := by
  have hcolon : isBlank ':' = false := by decide
  have hpoint : isBlank '.' = false := by decide
  have hpadded : ∀ n, ∀ c ∈ padded 2 n, isBlank c = false :=
    fun n _ => isBlank_eq_false_of_mem_padded
  cases h with
  | minutes =>
    simp only [List.forall_mem_append, List.forall_mem_cons, hcolon, true_and]
    exact ⟨hpadded hour, hpadded minute⟩
  | seconds =>
    simp only [List.forall_mem_append, List.forall_mem_cons, hcolon, true_and]
    exact ⟨hpadded hour, hpadded minute, hpadded second⟩
  | fraction _ _ _ _ hfraction =>
    simp only [List.forall_mem_append, List.forall_mem_cons, hcolon, hpoint, true_and]
    exact ⟨hpadded hour, hpadded minute, hpadded second,
      fun c hc => isBlank_eq_false_of_isDigit (hfraction c hc)⟩

lemma IsOffsetText.isBlank_eq_false {t : Text} {m : Int} (h : IsOffsetText t m) :
    ∀ c ∈ t, isBlank c = false := by
  have hsigns : isBlank '+' = false ∧ isBlank '-' = false ∧ isBlank ':' = false := by decide
  obtain ⟨hplus, hminus, hcolon⟩ := hsigns
  cases h with
  | east =>
    simp only [List.forall_mem_append, List.forall_mem_cons, hplus, hcolon, true_and]
    exact ⟨fun _ => isBlank_eq_false_of_mem_padded, fun _ => isBlank_eq_false_of_mem_padded⟩
  | west =>
    simp only [List.forall_mem_append, List.forall_mem_cons, hminus, hcolon, true_and]
    exact ⟨fun _ => isBlank_eq_false_of_mem_padded, fun _ => isBlank_eq_false_of_mem_padded⟩

/-- A date and a time of day name what is shown, if it is in the calendar, and nothing otherwise. -/
lemma exists_named (z : Zone) {dateT timeT : Text} (hdate : dateT ∈ datePattern)
    (htime : timeT ∈ timePattern) (hdateAscii : ∀ c ∈ dateT, c.toNat < 128)
    (htimeAscii : ∀ c ∈ timeT, c.toNat < 128) :
    ∃ d : DateTime, (d.IsValid ↔ IsCalendarDate dateT ∧ IsClockTime timeT) ∧
      ∀ suffix suffixText, SpellsSuffix suffix suffixText →
        (∀ c ∈ suffixText, isBlank c = false) →
          Instant.read? z (dateT ++ 'T' :: (timeT ++ suffixText)) =
            if d.IsValid then named z d suffix else .ok none := by
  obtain ⟨d, hvalid, hshown⟩ := exists_shown hdate htime hdateAscii htimeAscii
  refine ⟨d, hvalid, fun suffix suffixText hsuffix hblank => ?_⟩
  obtain ⟨s, hread, hdateTime, hkind⟩ := hshown suffix suffixText hsuffix
  obtain ⟨year, -, month, -, day, -, rfl⟩ := exists_eq_dateText hdate hdateAscii
  obtain ⟨hour, -, minute, -, second, -, hshows⟩ := exists_showsTime htime htimeAscii
  have hmark : isBlank 'T' = false := by decide
  have hall : ∀ c ∈ dateText year month day ++ 'T' :: (timeT ++ suffixText),
      isBlank c = false := by
    simp only [List.forall_mem_append, List.forall_mem_cons, hmark, true_and]
    exact ⟨isBlank_eq_false_of_mem_dateText, hshows.isBlank_eq_false, hblank⟩
  rw [Instant.read?, strip_eq_self_of_forall hall, hread]
  exact instant?_eq hdateTime hkind

lemma dateTime?_midnight (year month day : Text) :
    dateTime? ⟨year, month, day, some ⟨padded 2 0, padded 2 0, [], [], none⟩⟩ =
      dateTime? ⟨year, month, day, none⟩ := by
  have hnothing : valueOrZero? [] = some 0 ∧ fractionMicros? [] = some 0 := by decide
  simp only [dateTime?, toNat?_padded, hnothing, Option.isNone_some, Bool.false_eq_true, and_false,
    if_false, Option.bind_eq_bind, Option.bind_some]

/-- A date alone names what it names with its midnight. -/
lemma read?_date_eq (z : Zone) {dateT : Text} (hdate : dateT ∈ datePattern)
    (hascii : ∀ c ∈ dateT, c.toNat < 128) :
    Instant.read? z dateT = Instant.read? z (dateT ++ ("T00:00" : Text)) := by
  have hzeroText : ("T00:00" : Text) = 'T' :: (padded 2 0 ++ ':' :: padded 2 0) := rfl
  obtain ⟨year, hyear, month, hmonth, day, hday, rfl⟩ := exists_eq_dateText hdate hascii
  have hyear' : padded 4 year ∈ digits 4 := padded_mem_digits (by decide) hyear
  have hmonth' : padded 2 month ∈ digits 2 := padded_mem_digits (by decide) hmonth
  have hday' : padded 2 day ∈ digits 2 := padded_mem_digits (by decide) hday
  have hzeros : padded 2 0 ∈ digits 2 := padded_mem_digits (by decide) (by decide)
  have halone : read? (dateText year month day) =
      some ⟨padded 4 year, padded 2 month, padded 2 day, none⟩ :=
    read?_eq_some_iff.2 (.date hyear' hmonth' hday')
  have hmidnight : read? (dateText year month day ++ ("T00:00" : Text)) =
      some ⟨padded 4 year, padded 2 month, padded 2 day,
        some ⟨padded 2 0, padded 2 0, [], [], none⟩⟩ := by
    have hspells := Spells.time hyear' hmonth' hday' (show 'T' ∈ ['T', 't'] by decide)
      (.clock hzeros hzeros .absent .absent)
    rw [read?_eq_some_iff, hzeroText]
    simpa [dateText] using hspells
  have hblank : ∀ c ∈ ("T00:00" : Text), isBlank c = false := by
    rw [hzeroText, List.forall_mem_cons]
    exact ⟨by decide, (ShowsTime.minutes 0 0).isBlank_eq_false⟩
  have hall : ∀ c ∈ dateText year month day ++ ("T00:00" : Text), isBlank c = false :=
    List.forall_mem_append.2 ⟨isBlank_eq_false_of_mem_dateText, hblank⟩
  rw [Instant.read?, Instant.read?, strip_eq_self_of_forall isBlank_eq_false_of_mem_dateText,
    strip_eq_self_of_forall hall, halone, hmidnight]
  simp only [instant?, dateTime?_midnight]
  rfl

/-! ## One line of time -/

/-- A distance from universal time is taken off the instant that a date and time names in it. -/
lemma instantAt_of_instantAt_zero {d : DateTime} {i : Instant} (h : d.instantAt 0 = .ok i)
    (minutesEast : Int) :
    (InYears (i.micros - microsOfMinutes minutesEast) → ∃ j : Instant,
      d.instantAt minutesEast = .ok j ∧
        (j.micros : Int) = i.micros - microsOfMinutes minutesEast) ∧
    (¬ InYears (i.micros - microsOfMinutes minutesEast) →
      d.instantAt minutesEast = .error .date) := by
  have hmicros : (i.micros : Int) = d.micros := by
    obtain ⟨j, hj, hsame⟩ :=
      requireInstant_of_inYears (DateTime.exists_instantAt_eq_ok_iff.1 ⟨i, h⟩)
    obtain rfl : i = j := Except.ok.inj (h.symm.trans hj)
    simpa [microsOfMinutes] using hsame
  rw [hmicros]
  exact ⟨requireInstant_of_inYears, requireInstant_of_not_inYears⟩

/-- What the clocks of a zone show names the same as what clocks at the distance of the zone do. -/
lemma instantAt_of_instantOf {z : Zone} {d : DateTime} {i : Option Instant} {minutesEast : Int}
    (hz : z.secondsEast = 60 * minutesEast) (h : some <$> z.instantOf d = .ok i) :
    some <$> d.instantAt minutesEast = .ok i := by
  have hahead : z.ahead = microsOfMinutes minutesEast := by
    rw [Zone.ahead, microsOfMinutes, hz, Int.mul_comm 60]
  cases hinstant : z.instantOf d with
  | error fault =>
    rw [hinstant] at h
    cases h
  | ok j =>
    obtain ⟨⟨⟩, -, hlocal⟩ := Except.bind_eq_ok_iff.1 hinstant
    obtain ⟨⟨⟩, -, hmoment⟩ := Except.bind_eq_ok_iff.1 hlocal
    rw [hinstant] at h
    rwa [DateTime.instantAt, ← hahead, hmoment]

/-- **The forms of a timestamp agree.**
* No text is matched by two of the four patterns, and the forms may be tried in any order.
* Let a date and a time of day be given in ASCII.  With the letter Z they name nothing just when the
  one is no date of the calendar or the other no time of day, and then they name nothing with any
  distance from universal time.  Otherwise they name an instant, and with a distance behind them
  they name the instant that is this distance earlier, to the microsecond; they are at fault just
  when there is none because the years have ended.
* Where they name an instant without a suffix, in the zone of the process, they name the same one
  with the distance of the zone behind them, if that is one of whole minutes; and the date alone
  names what it names with its midnight. -/
theorem timestamp_forms_agree (z : Zone) :
    (∀ (t : Text) (f f' : Form), t ∈ f.pattern → t ∈ f'.pattern → f = f') ∧
    (∀ forms : List Form, (∀ f, f ∈ forms) → ∀ t : Text,
      readInOrder forms z (strip t) = Instant.read? z t) ∧
    (∀ m, isOffset m → ∃ zoneT, IsOffsetText zoneT m) ∧
    ∀ dateT ∈ datePattern, ∀ timeT ∈ timePattern, (∀ c ∈ dateT ++ timeT, c.toNat < 128) →
      let read (suffix : Text) := Instant.read? z (dateT ++ 'T' :: (timeT ++ suffix))
      (read ['Z'] = .ok none ↔ ¬ (IsCalendarDate dateT ∧ IsClockTime timeT)) ∧
      (read ['Z'] = .ok none → ∀ offsetT m, IsOffsetText offsetT m → read offsetT = .ok none) ∧
      (read ['Z'] ≠ .ok none → ∃ i : Instant, read ['Z'] = .ok (some i) ∧
        ∀ offsetT m, IsOffsetText offsetT m →
          (InYears (i.micros - microsOfMinutes m) → ∃ j : Instant,
            read offsetT = .ok (some j) ∧ (j.micros : Int) = i.micros - microsOfMinutes m) ∧
          (¬ InYears (i.micros - microsOfMinutes m) → read offsetT = .error .date)) ∧
      (∀ j, read [] = .ok (some j) → ∀ zoneT m, IsOffsetText zoneT m →
        z.secondsEast = 60 * m → read zoneT = .ok (some j)) ∧
      Instant.read? z dateT = Instant.read? z (dateT ++ ("T00:00" : Text)) := by
  refine ⟨fun t f f' => form_unique, fun forms hforms t => readInOrder_eq hforms z t,
    fun _ => exists_isOffsetText, ?_⟩
  intro dateT hdate timeT htime hascii read
  obtain ⟨hdateAscii, htimeAscii⟩ := List.forall_mem_append.1 hascii
  obtain ⟨d, hvalid, hnamed⟩ := exists_named z hdate htime hdateAscii htimeAscii
  have huniversal : read ['Z'] = if d.IsValid then some <$> d.instantAt 0 else .ok none :=
    hnamed (some .universal) ['Z'] (.universal (by decide))
      (List.forall_mem_singleton.2 (by decide))
  have hlocal : read [] = if d.IsValid then some <$> z.instantOf d else .ok none :=
    hnamed none [] .absent (by simp)
  have hoffset : ∀ offsetT m, IsOffsetText offsetT m →
      read offsetT = if d.IsValid then some <$> d.instantAt m else .ok none := by
    intro offsetT m ht
    obtain ⟨west, hours, minutes, hspells, hm⟩ := ht.exists_spells
    have hread := hnamed _ offsetT hspells ht.isBlank_eq_false
    rwa [named, hm] at hread
  by_cases hd : d.IsValid
  · simp only [if_pos hd] at huniversal hlocal hoffset
    obtain ⟨i, hi⟩ := exists_instantAt_zero hd
    have hnamed : read ['Z'] = .ok (some i) := by
      rw [huniversal, hi]
      rfl
    have hsome : read ['Z'] ≠ .ok none := by simp [hnamed]
    refine ⟨iff_of_false hsome (not_not_intro (hvalid.1 hd)), fun h => absurd h hsome,
      fun _ => ⟨i, hnamed, fun offsetT m ht => ?_⟩, fun j hj zoneT m ht hz => ?_,
      read?_date_eq z hdate hdateAscii⟩
    · obtain ⟨hwithin, hbeyond⟩ := instantAt_of_instantAt_zero hi m
      rw [hoffset offsetT m ht]
      refine ⟨fun hyears => ?_, fun hyears => ?_⟩
      · obtain ⟨j, hj, hsame⟩ := hwithin hyears
        exact ⟨j, by rw [hj]; rfl, hsame⟩
      · rw [hbeyond hyears]
        rfl
    · rw [hlocal] at hj
      rw [hoffset zoneT m ht]
      exact instantAt_of_instantOf hz hj
  · -- nothing is shown, so that nothing is named in any form
    simp only [if_neg hd] at huniversal hlocal hoffset
    refine ⟨iff_of_true huniversal fun h => hd (hvalid.2 h), fun _ => hoffset,
      fun h => absurd huniversal h, fun j hj => ?_, read?_date_eq z hdate hdateAscii⟩
    rw [hlocal] at hj
    cases hj

/-- Half an hour before the end of the years, with a fraction of seven digits: an hour and a half to
the east names an instant, and half an hour to the west names none. -/
theorem timestamp_forms_agree_of_last_day :
    ∃ i j : Instant,
      Instant.read? ⟨0⟩ "9999-12-31T23:30:00.1234567Z" = .ok (some i) ∧
      Instant.read? ⟨0⟩ "9999-12-31T23:30:00.1234567+00:90" = .ok (some j) ∧
      (j.micros : Int) = i.micros - microsOfMinutes 90 ∧
      Instant.read? ⟨0⟩ "9999-12-31T23:30:00.1234567-00:30" = .error .date := by
  let timeT : Text := padded 2 23 ++ ':' :: (padded 2 30 ++ ':' :: (padded 2 0 ++ '.' ::
    padded 7 1234567))
  have hfraction : ∀ c ∈ padded 7 1234567, c.isDigit := fun _ => isDigit_of_mem_padded
  have hdate : dateText 9999 12 31 ∈ datePattern :=
    mem_datePattern.2 ⟨_, padded_mem_digits (by decide) (by decide), _,
      padded_mem_digits (by decide) (by decide), _, padded_mem_digits (by decide) (by decide), rfl⟩
  have htime : timeT ∈ timePattern :=
    mem_timePattern.2 ⟨_, padded_mem_digits (by decide) (by decide), _,
      padded_mem_digits (by decide) (by decide), _, _, _,
      .fraction (padded_mem_digits (by decide) (by decide))
        ⟨padded_ne_nil _ _, fun c hc => isDecimalDigit_of_isDigit (hfraction c hc)⟩, rfl⟩
  have hascii : ∀ c ∈ dateText 9999 12 31 ++ timeT, c.toNat < 128 := by
    have hall : (dateText 9999 12 31 ++ timeT).all (fun c => c.toNat < 128) = true := by
      decide +kernel
    exact fun c hc => of_decide_eq_true (List.all_eq_true.1 hall c hc)
  obtain ⟨-, -, -, hforms⟩ := timestamp_forms_agree ⟨0⟩
  obtain ⟨hnone, -, hsome, -⟩ := hforms _ hdate _ htime hascii
  obtain ⟨i, hi, hoffsets⟩ := hsome fun h => hnone.1 h
    ⟨⟨9999, 12, 31, rfl, by decide⟩, 23, by decide, 30, by decide, 0, by decide,
      .fraction 23 30 0 (padded_ne_nil _ _) hfraction⟩
  have hvalue : Instant.read? ⟨0⟩ (dateText 9999 12 31 ++ 'T' :: (timeT ++ ['Z'])) =
      .ok (some ⟨315537895800123456, by decide⟩) := by decide +kernel
  obtain rfl : (⟨315537895800123456, by decide⟩ : Instant) = i :=
    Option.some.inj (Except.ok.inj (hvalue.symm.trans hi))
  have heast : IsOffsetText ('+' :: (padded 2 0 ++ ':' :: padded 2 90)) (0 * 60 + 90 : Nat) :=
    .east (by decide) (by decide)
  have hwest : IsOffsetText ('-' :: (padded 2 0 ++ ':' :: padded 2 30)) (-(0 * 60 + 30 : Nat)) :=
    .west (by decide) (by decide)
  obtain ⟨j, hj, hmicros⟩ := (hoffsets _ _ heast).1 (by decide)
  have hfault := (hoffsets _ _ hwest).2 (by decide)
  have htexts :
      ("9999-12-31T23:30:00.1234567Z" : Text) = dateText 9999 12 31 ++ 'T' :: (timeT ++ ['Z']) ∧
      ("9999-12-31T23:30:00.1234567+00:90" : Text) = dateText 9999 12 31 ++
        'T' :: (timeT ++ '+' :: (padded 2 0 ++ ':' :: padded 2 90)) ∧
      ("9999-12-31T23:30:00.1234567-00:30" : Text) = dateText 9999 12 31 ++
        'T' :: (timeT ++ '-' :: (padded 2 0 ++ ':' :: padded 2 30)) := by decide +kernel
  rw [htexts.1, htexts.2.1, htexts.2.2]
  exact ⟨_, j, hvalue, hj, hmicros, hfault⟩

end Stamp

end LogSearch
