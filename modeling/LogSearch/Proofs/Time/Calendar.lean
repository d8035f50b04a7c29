import LogSearch.Time.Calendar
import Mathlib.Tactic.Lemma

/-!
# Dates and counts of microseconds

`DateTime.ofMicros` takes a count of microseconds apart into a date and a time of day, and
`DateTime.micros` puts it together again.  The main statements are `micros_ofMicros`, that
nothing is lost on the way, `isValid_ofMicros`, that the date is one of the calendar for
every count within the years that there are, and `ofMicros_micros`, that every date of the
calendar is met in this way.

The year is found by division by the lengths of 400, 100, 4 and 1 years, where the last of four
centuries and the last of four years are a day longer; the month is found by walking over the
lengths of the months.  The two searches are treated apart, in `yearAndDay_eq` and
`monthAndDay_spec`.  No other year and no other month have the day in them, since the years and
the months follow each other without a gap (`year_unique`, `month_unique`).
-/

namespace LogSearch.DateTime

/-! ## Years -/

/-- Three centuries at most are taken off an era.  Only the fourth has the day that makes it
36525 days long. -/
lemma century_bounds {inEra : Nat} (h : inEra < 146097) :
    min (inEra / 36524) 3 ≤ 3 ∧ min (inEra / 36524) 3 * 36524 ≤ inEra ∧
      inEra - min (inEra / 36524) 3 * 36524 ≤ 36524 ∧
      (min (inEra / 36524) 3 < 3 → inEra - min (inEra / 36524) 3 * 36524 < 36524) := by
  omega

/-- A century has at most 25 blocks, of which the last is a day shorter if the century is. -/
lemma block_bounds {inCentury : Nat} (h : inCentury ≤ 36524) :
    inCentury / 1461 ≤ 24 ∧ inCentury % 1461 < 1461 ∧
      (inCentury / 1461 = 24 → inCentury < 36524 → inCentury % 1461 < 1460) := by
  omega

/-- Three years at most are taken off a block.  Only the fourth has a 366th day, which is the last
day of the block. -/
lemma single_bounds {inBlock : Nat} (h : inBlock < 1461) :
    min (inBlock / 365) 3 ≤ 3 ∧ min (inBlock / 365) 3 * 365 ≤ inBlock ∧
      inBlock - min (inBlock / 365) 3 * 365 ≤ 365 ∧
      (inBlock - min (inBlock / 365) 3 * 365 = 365 →
        min (inBlock / 365) 3 = 3 ∧ inBlock = 1460) := by
  omega

/-- The search for the year takes off `era` blocks of 400 years, `century` of 100, `block` of 4
and `single` years, and is left with the day.  A 366th day is left only in the fourth year of a
block, and in the last block of a century only if it is the fourth century. -/
lemma yearAndDay_eq (days : Nat) : ∃ era century block single day : Nat,
    century ≤ 3 ∧ block ≤ 24 ∧ single ≤ 3 ∧ day ≤ 365 ∧
      (day = 365 → single = 3 ∧ (block = 24 → century = 3)) ∧
      days = 146097 * era + 36524 * century + 1461 * block + 365 * single + day ∧
      yearAndDay days = (400 * era + 100 * century + 4 * block + single + 1, day) := by
  have hera := Nat.div_add_mod days 146097
  obtain ⟨hcentury, hinEra, hcenturyLength, hshort⟩ :=
    century_bounds (Nat.mod_lt days (y := 146097) (by decide))
  generalize hinEraEq : days % 146097 = inEra at *
  generalize hcenturyEq : min (inEra / 36524) 3 = century at *
  generalize hinCenturyEq : inEra - century * 36524 = inCentury at *
  obtain ⟨hblock, hblockLength, hblockShort⟩ := block_bounds hcenturyLength
  have hinCentury := Nat.div_add_mod inCentury 1461
  generalize hinBlockEq : inCentury % 1461 = inBlock at *
  obtain ⟨hsingle, hinBlock, hday, hlast⟩ := single_bounds hblockLength
  generalize hsingleEq : min (inBlock / 365) 3 = single at *
  refine ⟨days / 146097, century, inCentury / 1461, single, inBlock - single * 365, hcentury,
    hblock, hsingle, hday, ?_, by omega, ?_⟩
  · intro hlong
    obtain ⟨hthree, hend⟩ := hlast hlong
    exact ⟨hthree, fun hb => by omega⟩
  · simp only [yearAndDay, hinEraEq, hcenturyEq, hinCenturyEq, hinBlockEq, hsingleEq]
    congr 1
    omega

/-- The number of days of a year. -/
def yearLength (year : Nat) : Nat := if isLeapYear year then 366 else 365

/-- The days before the year and the day in the year make up the number of the day, and the day
lies in the year. -/
lemma yearAndDay_spec (days : Nat) :
    daysBeforeYear (yearAndDay days).1 + (yearAndDay days).2 = days ∧
      (yearAndDay days).2 < yearLength (yearAndDay days).1 := by
  obtain ⟨era, century, block, single, day, hcentury, hblock, hsingle, hday, hlast, hdays, hpair⟩ :=
    yearAndDay_eq days
  rw [hpair]
  simp only
  constructor
  · have hfour : (400 * era + 100 * century + 4 * block + single + 1 - 1) / 4 =
        100 * era + 25 * century + block := by omega
    have hhundred : (400 * era + 100 * century + 4 * block + single + 1 - 1) / 100 =
        4 * era + century := by omega
    have hfourHundred : (400 * era + 100 * century + 4 * block + single + 1 - 1) / 400 = era := by
      omega
    rw [daysBeforeYear]
    simp only [hfour, hhundred, hfourHundred]
    omega
  · by_cases hleap : isLeapYear (400 * era + 100 * century + 4 * block + single + 1)
    · rw [yearLength, if_pos hleap]
      omega
    · rw [yearLength, if_neg hleap]
      -- a 366th day would be in the fourth year of a block, which is a leap year
      refine Nat.lt_of_le_of_ne hday fun hlong => hleap ?_
      obtain ⟨rfl, hcenturyEnd⟩ := hlast hlong
      have hfour : (400 * era + 100 * century + 4 * block + 3 + 1) % 4 = 0 := by omega
      have hcentury : (400 * era + 100 * century + 4 * block + 3 + 1) % 100 ≠ 0 ∨
          (400 * era + 100 * century + 4 * block + 3 + 1) % 400 = 0 := by omega
      simpa [isLeapYear, hfour] using hcentury

lemma daysBeforeYear_succ {year : Nat} (hyear : 1 ≤ year) :
    daysBeforeYear (year + 1) = daysBeforeYear year + yearLength year := by
  obtain ⟨y, rfl⟩ := Nat.exists_eq_add_of_le' hyear
  -- a quotient grows when the year is a multiple of the divisor
  have hfour : (y + 1) / 4 = y / 4 + if (y + 1) % 4 = 0 then 1 else 0 := by split <;> omega
  have hhundred : (y + 1) / 100 = y / 100 + if (y + 1) % 100 = 0 then 1 else 0 := by
    split <;> omega
  have hfourHundred : (y + 1) / 400 = y / 400 + if (y + 1) % 400 = 0 then 1 else 0 := by
    split <;> omega
  have hless : y / 100 ≤ y / 4 := by omega
  have hera : (y + 1) % 400 = 0 → (y + 1) % 100 = 0 := by omega
  have hcentury : (y + 1) % 100 = 0 → (y + 1) % 4 = 0 := by omega
  simp only [daysBeforeYear, yearLength, isLeapYear, Bool.and_eq_true, Bool.or_eq_true,
    decide_eq_true_eq, Nat.add_sub_cancel, hfour, hhundred, hfourHundred]
  generalize y / 4 = fours at *
  generalize y / 100 = hundreds at *
  generalize y / 400 = fourHundreds at *
  clear hfour hhundred hfourHundred
  by_cases h4 : (y + 1) % 4 = 0
  · by_cases h100 : (y + 1) % 100 = 0
    · by_cases h400 : (y + 1) % 400 = 0
      · simp only [h4, h100, h400, if_true, and_self, or_true]
        omega
      · simp only [h4, h100, h400, if_true, if_false, ne_eq, not_true, or_self, and_false]
        omega
    · have h400 : ¬ (y + 1) % 400 = 0 := fun h => h100 (hera h)
      simp only [h4, h100, h400, if_true, if_false, ne_eq, not_false_eq_true, true_or, and_self]
      omega
  · have h100 : ¬ (y + 1) % 100 = 0 := fun h => h4 (hcentury h)
    have h400 : ¬ (y + 1) % 400 = 0 := fun h => h100 (hera h)
    simp only [h4, h100, h400, if_false, false_and]
    omega

lemma daysBeforeYear_add_yearLength_le_of_lt {year later : Nat} (hyear : 1 ≤ year)
    (hlater : year < later) : daysBeforeYear year + yearLength year ≤ daysBeforeYear later := by
  obtain ⟨between, rfl⟩ := Nat.exists_eq_add_of_lt hlater
  induction between with
  | zero => exact Nat.le_of_eq (daysBeforeYear_succ hyear).symm
  | succ between ih =>
    rw [← Nat.add_assoc, daysBeforeYear_succ (by omega)]
    exact Nat.le_add_right_of_le (ih (by omega))

lemma year_unique {year day year' day' : Nat} (hyear : 1 ≤ year) (hyear' : 1 ≤ year')
    (hday : day < yearLength year) (hday' : day' < yearLength year')
    (hsame : daysBeforeYear year + day = daysBeforeYear year' + day') :
    year = year' ∧ day = day' := by
  rcases Nat.lt_trichotomy year year' with hlt | rfl | hlt
  · have hended := daysBeforeYear_add_yearLength_le_of_lt hyear hlt
    omega
  · exact ⟨rfl, Nat.add_left_cancel hsame⟩
  · have hended := daysBeforeYear_add_yearLength_le_of_lt hyear' hlt
    omega

/-! ## Months -/

/-- The days of a list of months. -/
def daysOf (lengths : List Nat) : Nat := lengths.foldl (· + ·) 0

@[simp] lemma daysOf_nil : daysOf [] = 0 := rfl

@[simp] lemma daysOf_cons (length : Nat) (rest : List Nat) :
    daysOf (length :: rest) = length + daysOf rest := by
  have h : ∀ (l : List Nat) (n : Nat), l.foldl (· + ·) n = n + l.foldl (· + ·) 0 := by
    intro l
    induction l with
    | nil => exact fun n => rfl
    | cons a l ih =>
      intro n
      rw [List.foldl_cons, List.foldl_cons, ih, ih (0 + a)]
      omega
  rw [daysOf, List.foldl_cons, h, daysOf]
  omega

/-- The search for the month finds one of the listed months and a day of it, and the days of the
months before it and the days of it before this one make up the day. -/
lemma monthAndDay_spec {lengths : List Nat} :
    ∀ (month : Nat) {day : Nat}, day < daysOf lengths →
      ∃ k < lengths.length, ∃ rest < lengths.getD k 0,
        monthAndDay lengths month day = (month + k, rest + 1) ∧
          daysOf (lengths.take k) + rest = day := by
  induction lengths with
  | nil =>
    intro month day h
    exact absurd h (Nat.not_lt_zero _)
  | cons length rest ih =>
    intro month day h
    rw [daysOf_cons] at h
    by_cases hday : day < length
    · exact ⟨0, by simp, day, hday, by rw [monthAndDay, if_pos hday]; rfl, by simp⟩
    · have hlater : day - length < daysOf rest := by omega
      obtain ⟨k, hk, r, hr, hpair, hdays⟩ := ih (month + 1) hlater
      refine ⟨k + 1, by simpa using hk, r, by simpa using hr, ?_, ?_⟩
      · rw [monthAndDay, if_neg hday, hpair]
        congr 1
        omega
      · rw [List.take_succ_cons, daysOf_cons]
        omega

/-- The months before a later month include an earlier one. -/
lemma daysOf_take_add_getD_le (lengths : List Nat) {k later : Nat} (hk : k < later) :
    daysOf (lengths.take k) + lengths.getD k 0 ≤ daysOf (lengths.take later) := by
  induction lengths generalizing k later with
  | nil => simp
  | cons length rest ih =>
    obtain ⟨later, rfl⟩ := Nat.exists_eq_add_of_lt hk
    cases k with
    | zero => simp
    | succ k =>
      have hrest := ih (show k < k + later + 1 by omega)
      rw [show k + 1 + later + 1 = (k + later + 1) + 1 by omega, List.take_succ_cons,
        List.take_succ_cons, daysOf_cons, daysOf_cons, List.getD_cons_succ]
      omega

lemma month_unique {lengths : List Nat} {k day k' day' : Nat} (hday : day < lengths.getD k 0)
    (hday' : day' < lengths.getD k' 0)
    (hsame : daysOf (lengths.take k) + day = daysOf (lengths.take k') + day') :
    k = k' ∧ day = day' := by
  rcases Nat.lt_trichotomy k k' with hlt | rfl | hlt
  · have hended := daysOf_take_add_getD_le lengths hlt
    omega
  · exact ⟨rfl, Nat.add_left_cancel hsame⟩
  · have hended := daysOf_take_add_getD_le lengths hlt
    omega

lemma daysOf_monthLengths (year : Nat) :
    daysOf (monthLengths (isLeapYear year)) = yearLength year := by
  cases h : isLeapYear year <;> simp [yearLength, h, monthLengths]

lemma getD_monthLengths_le (leap : Bool) (k : Nat) : (monthLengths leap).getD k 0 ≤ 31 := by
  rw [List.getD_eq_getElem?_getD]
  cases hk : (monthLengths leap)[k]? with
  | none => exact Nat.zero_le _
  | some length =>
    have hmem := List.mem_of_getElem? hk
    cases leap <;> simp [monthLengths] at hmem <;> simp only [Option.getD_some] <;> omega

/-! ## The round trip -/

/-- What a count of microseconds is taken apart into. -/
lemma ofMicros_eq (n : Nat) : ∃ year month day,
    ofMicros n = ⟨year, month, day, n / microsPerSecond % 86400 / 3600,
        n / microsPerSecond % 86400 / 60 % 60, n / microsPerSecond % 86400 % 60,
        n % microsPerSecond⟩ ∧
      1 ≤ year ∧ 1 ≤ month ∧ month ≤ 12 ∧ 1 ≤ day ∧
      day ≤ (monthLengths (isLeapYear year)).getD (month - 1) 0 ∧
      daysBeforeYear year + daysBeforeMonth (isLeapYear year) month + (day - 1) =
        n / microsPerDay := by
  obtain ⟨era, century, block, single, dayOfYear, -, -, -, -, -, -, hpair⟩ :=
    yearAndDay_eq (n / microsPerDay)
  obtain ⟨hdays, hlength⟩ := yearAndDay_spec (n / microsPerDay)
  rw [hpair, ← daysOf_monthLengths] at hlength
  rw [hpair] at hdays
  simp only at hdays hlength
  generalize hyear : 400 * era + 100 * century + 4 * block + single + 1 = year at *
  obtain ⟨k, hk, rest, hrest, hmonth, hsum⟩ := monthAndDay_spec 1 hlength
  have hcount : (monthLengths (isLeapYear year)).length = 12 := rfl
  refine ⟨year, 1 + k, rest + 1, ?_, by omega, by omega, by omega, by omega, ?_, ?_⟩
  · rw [ofMicros, hpair]
    simp only [hmonth]
  · rw [Nat.add_sub_cancel_left]
    omega
  · rw [daysBeforeMonth, Nat.add_sub_cancel_left, Nat.add_sub_cancel]
    rw [daysOf] at hsum
    omega

/-- **No microsecond is lost**: a count taken apart into a date and a time of day is the count
of that date and time. -/
lemma micros_ofMicros (n : Nat) : (ofMicros n).micros = n := by
  obtain ⟨year, month, day, heq, -, -, -, -, -, hdays⟩ := ofMicros_eq n
  rw [heq]
  simp only [micros, hdays, microsPerDay, microsPerSecond]
  omega

/-- The days of the month before a day and those of the months before it are days of the year. -/
lemma daysBeforeMonth_add_day_le {year month day : Nat} (hmonth : month ≤ 12)
    (hday : day ≤ (monthLengths (isLeapYear year)).getD (month - 1) 0) :
    daysBeforeMonth (isLeapYear year) month + day ≤ yearLength year := by
  have hended : daysOf ((monthLengths (isLeapYear year)).take (month - 1)) +
      (monthLengths (isLeapYear year)).getD (month - 1) 0 ≤ yearLength year := by
    rw [← daysOf_monthLengths]
    exact daysOf_take_add_getD_le _ (show month - 1 < 12 by omega)
  rw [daysBeforeMonth, ← daysOf]
  omega

/-- **Every date is met**: the count of a date and time of the calendar is taken apart into that
date and time. -/
lemma ofMicros_micros {d : DateTime} (hd : d.IsValid) : ofMicros d.micros = d := by
  obtain ⟨hfirst, -, hmonth, hmonth', hday, hday', hhour, hminute, hsecond, hmicro⟩ := hd
  have hyear : 1 ≤ d.year := hfirst
  obtain ⟨year, month, day, heq, hyearFound, hmonthFound, hmonthFound', hdayFound, hdayFound',
    hdays⟩ := ofMicros_eq d.micros
  have hunits : d.micros / microsPerDay = daysBeforeYear d.year +
      daysBeforeMonth (isLeapYear d.year) d.month + (d.day - 1) ∧
      d.micros / microsPerSecond % 86400 = (d.hour * 60 + d.minute) * 60 + d.second ∧
      d.micros % microsPerSecond = d.micro := by
    simp only [micros, microsPerDay, microsPerSecond] at *
    omega
  obtain ⟨hnumber, hclock, hfraction⟩ := hunits
  rw [hnumber, Nat.add_assoc, Nat.add_assoc] at hdays
  have hended := daysBeforeMonth_add_day_le hmonth' hday'
  have hendedFound := daysBeforeMonth_add_day_le hmonthFound' hdayFound'
  obtain ⟨rfl, hdaysOfYear⟩ :=
    year_unique hyearFound hyear (by omega) (by omega) hdays
  obtain ⟨hmonths, hdaysOfMonth⟩ := month_unique (by omega) (by omega) hdaysOfYear
  obtain rfl : month = d.month := by omega
  obtain rfl : day = d.day := by omega
  rw [heq, hclock, hfraction]
  have hhours : ((d.hour * 60 + d.minute) * 60 + d.second) / 3600 = d.hour := by omega
  have hminutes : ((d.hour * 60 + d.minute) * 60 + d.second) / 60 % 60 = d.minute := by omega
  have hseconds : ((d.hour * 60 + d.minute) * 60 + d.second) % 60 = d.second := by omega
  rw [hhours, hminutes, hseconds]

lemma le_lastYear {year : Nat} (h : daysBeforeYear year < dayCount) : year ≤ lastYear := by
  simp only [daysBeforeYear, dayCount, lastYear] at *
  omega

lemma isValid_ofMicros {n : Nat} (hn : n < dayCount * microsPerDay) : (ofMicros n).IsValid := by
  obtain ⟨year, month, day, heq, hyear, hmonth, hmonth', hday, hday', hdays⟩ := ofMicros_eq n
  have hcount : n / microsPerDay < dayCount := Nat.div_lt_of_lt_mul (Nat.mul_comm _ _ ▸ hn)
  have hlast : year ≤ lastYear := le_lastYear (by omega)
  rw [heq]
  refine ⟨hyear, hlast, hmonth, hmonth', hday, hday', ?_, ?_, ?_, ?_⟩
  · simp only
    omega
  · exact Nat.mod_lt _ (by decide)
  · exact Nat.mod_lt _ (by decide)
  · exact Nat.mod_lt _ (by decide)

end LogSearch.DateTime
