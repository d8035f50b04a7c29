import LogSearch.Proofs.Except
import LogSearch.Proofs.Text.Cutting
import LogSearch.Proofs.Time.Calendar
import LogSearch.Time.Timestamp
import Mathlib.Tactic.ByContra

/-!
# Timestamps that name no instant

A timestamp can name a date and a time of day of the calendar and still no instant, because the
clocks of its zone show this date before the beginning of the year 1 or after the end of the year
9999.  A timestamp without a suffix has to be a day away from the beginning besides, since the zone
is asked for its time a day earlier.  `Stamp.IsBeyond` says this of a timestamp, and
`Instant.exists_read?_eq_error_iff` that these timestamps, and no other texts, are at fault.  All of
them are on the first or the last day of the years (`Stamp.IsBeyond.at_end`).
-/

namespace LogSearch

namespace DateTime

lemma daysBeforeYear_add_yearLength_le {year : Nat} (hfirst : firstYear ≤ year)
    (hlast : year ≤ lastYear) : daysBeforeYear year + yearLength year ≤ dayCount := by
  have hfirst' : firstYear = 1 := rfl
  have hlast' : lastYear = 9999 := rfl
  rcases Nat.lt_or_eq_of_le hlast with hbefore | rfl
  · have hlength : yearLength year ≤ 366 := by
      rw [yearLength]
      split <;> omega
    simp only [daysBeforeYear, dayCount]
    omega
  · decide

/-- A date and a time of day of the calendar lie within the years that there are. -/
lemma micros_lt_instantCount {d : DateTime} (hd : d.IsValid) : d.micros < instantCount := by
  obtain ⟨hfirst, hlast, -, hmonth, hone, hday, hhour, hminute, hsecond, hmicro⟩ := hd
  have hyear := daysBeforeYear_add_yearLength_le hfirst hlast
  have hmonths := daysBeforeMonth_add_day_le hmonth hday
  generalize hdays : daysBeforeYear d.year + daysBeforeMonth (isLeapYear d.year) d.month +
    (d.day - 1) = days
  have hcount : days < dayCount := by omega
  have hmicros : d.micros = ((days * 24 + d.hour) * 60 + d.minute) * 60 * microsPerSecond +
      d.second * microsPerSecond + d.micro := by rw [micros, hdays]
  simp only [instantCount, microsPerDay, microsPerSecond, dayCount] at *
  omega

end DateTime

/-! ## Counts of microseconds -/

/-- A count of microseconds lies within the years that there are. -/
def InYears (n : Int) : Prop := 0 ≤ n ∧ n < instantCount

instance (n : Int) : Decidable (InYears n) := inferInstanceAs (Decidable (0 ≤ n ∧ n < instantCount))

lemma requireYear_eq_ok_iff {n : Int} : requireYear n = .ok () ↔ InYears n := by
  rw [requireYear, InYears]
  by_cases hbefore : n < 0
  · rw [if_pos hbefore]
    exact iff_of_false nofun fun h => Int.not_lt.2 h.1 hbefore
  · rw [if_neg hbefore]
    by_cases hafter : (instantCount : Int) ≤ n
    · rw [if_pos hafter]
      exact iff_of_false nofun fun h => Int.not_lt.2 hafter h.2
    · rw [if_neg hafter]
      exact iff_of_true rfl ⟨Int.not_lt.1 hbefore, Int.not_le.1 hafter⟩

lemma requireInstant_of_inYears {n : Int} (h : InYears n) :
    ∃ i, requireInstant n = .ok i ∧ (i.micros : Int) = n := by
  have hcount : 0 ≤ n ∧ n.toNat < instantCount := by
    rw [InYears] at h
    omega
  rw [requireInstant, Instant.ofMicros?, dif_pos hcount]
  exact ⟨_, rfl, Int.toNat_of_nonneg hcount.1⟩

lemma requireInstant_of_not_inYears {n : Int} (h : ¬ InYears n) :
    requireInstant n = .error .date := by
  have hcount : ¬ (0 ≤ n ∧ n.toNat < instantCount) := by
    rw [InYears] at h
    omega
  rw [requireInstant, Instant.ofMicros?, dif_neg hcount]

lemma exists_requireInstant_eq_ok_iff {n : Int} :
    (∃ i, requireInstant n = .ok i) ↔ InYears n := by
  by_cases hn : InYears n
  · obtain ⟨i, hi, -⟩ := requireInstant_of_inYears hn
    exact iff_of_true ⟨i, hi⟩ hn
  · rw [requireInstant_of_not_inYears hn]
    exact iff_of_false nofun hn

lemma DateTime.exists_instantAt_eq_ok_iff {d : DateTime} {minutesEast : Int} :
    (∃ i, d.instantAt minutesEast = .ok i) ↔ InYears (d.micros - microsOfMinutes minutesEast) :=
  exists_requireInstant_eq_ok_iff

/-- The clocks of the zone show the date and time at an instant, the zone has a time at it, taken as
universal time, and there is a day before it. -/
structure Zone.Reaches (z : Zone) (d : DateTime) : Prop where
  shown : InYears (d.micros + z.ahead)
  dayBefore : InYears (d.micros - microsPerDay)
  moment : InYears (d.micros - z.ahead)

lemma Zone.exists_instantOf_eq_ok_iff {z : Zone} {d : DateTime} :
    (∃ i, z.instantOf d = .ok i) ↔ z.Reaches d := by
  constructor
  · rintro ⟨i, h⟩
    obtain ⟨⟨⟩, hlocal, h⟩ := Except.bind_eq_ok_iff.1 h
    obtain ⟨⟨⟩, hbefore, h⟩ := Except.bind_eq_ok_iff.1 h
    exact ⟨requireYear_eq_ok_iff.1 hlocal, requireYear_eq_ok_iff.1 hbefore,
      exists_requireInstant_eq_ok_iff.1 ⟨i, h⟩⟩
  · rintro ⟨hlocal, hbefore, hinstant⟩
    obtain ⟨i, hi⟩ := exists_requireInstant_eq_ok_iff.2 hinstant
    exact ⟨i, Except.bind_eq_ok_iff.2 ⟨(), requireYear_eq_ok_iff.2 hlocal,
      Except.bind_eq_ok_iff.2 ⟨(), requireYear_eq_ok_iff.2 hbefore, hi⟩⟩⟩

/-! ## Timestamps -/

namespace Stamp

variable {z : Zone} {s : Stamp} {d : DateTime}

/-- The timestamp names a date and a time of day, but no instant.  With the letter Z it always
names one. -/
def IsBeyond (z : Zone) (s : Stamp) : Prop :=
  ∃ d, s.dateTime? = some d ∧
    match s.clock.bind (·.suffix) with
    | none => ¬ z.Reaches d
    | some .universal => False
    | some (.offset west hours minutes) =>
      ∃ m, offsetMinutes? west hours minutes = some m ∧ ¬ InYears (d.micros - microsOfMinutes m)

lemma isValid_of_dateTime? (h : s.dateTime? = some d) : d.IsValid := by
  have hvalidated {d' : DateTime} (h : DateTime.validated d' = some d) : d.IsValid := by
    rw [DateTime.validated] at h
    split at h
    next hvalid => exact Option.some.inj h ▸ hvalid
    next => contradiction
  simp only [dateTime?, Option.bind_eq_bind, Option.bind_eq_some_iff] at h
  obtain ⟨year, -, month, -, day, -, h⟩ := h
  split at h
  next => exact hvalidated h
  next =>
    split at h
    next => contradiction
    next =>
      simp only [Option.bind_eq_some_iff] at h
      obtain ⟨hour, -, minute, -, second, -, micro, -, h⟩ := h
      exact hvalidated h

lemma exists_instantAt_zero (hd : d.IsValid) : ∃ i, d.instantAt 0 = .ok i := by
  have hcount := DateTime.micros_lt_instantCount hd
  refine DateTime.exists_instantAt_eq_ok_iff.2 ?_
  simp only [InYears, microsOfMinutes]
  omega

/-- The timestamps that are beyond are those that are at fault. -/
lemma exists_instant?_eq_error_iff :
    (∃ fault, s.instant? z = .error fault) ↔ s.IsBeyond z := by
  have hmap {x : Except RangeFault Instant} :
      (∃ fault, some <$> x = .error fault) ↔ ¬ ∃ i, x = .ok i := by
    cases x with
    | error fault => exact iff_of_true ⟨fault, rfl⟩ nofun
    | ok i => exact iff_of_false nofun (not_not_intro ⟨i, rfl⟩)
  rw [instant?, IsBeyond]
  cases hdate : s.dateTime? with
  | none => simp
  | some d =>
    simp only [Option.some.injEq, exists_eq_left']
    cases s.clock.bind (·.suffix) with
    | none => rw [hmap, Zone.exists_instantOf_eq_ok_iff]
    | some suffix =>
      cases suffix with
      | universal =>
        have hinstant := exists_instantAt_zero (isValid_of_dateTime? hdate)
        exact hmap.trans (iff_of_false (not_not_intro hinstant) not_false)
      | offset west hours minutes =>
        cases hoffset : offsetMinutes? west hours minutes with
        | none => simp [hoffset]
        | some m => simp [hoffset, hmap, DateTime.exists_instantAt_eq_ok_iff]

lemma isOffset_of_offsetMinutes? {west : Bool} {hours minutes : Text} {m : Int}
    (h : offsetMinutes? west hours minutes = some m) : isOffset m := by
  simp only [offsetMinutes?, Option.bind_eq_bind, Option.bind_eq_some_iff] at h
  obtain ⟨hour, -, minute, -, h⟩ := h
  split at h
  next hoffset =>
    obtain rfl := Option.some.inj h
    cases west with
    | false => exact hoffset
    | true =>
      rw [if_pos rfl, isOffset, Int.natAbs_neg]
      exact hoffset
  next => contradiction

/-- A timestamp that is beyond is on the first or on the last day of the years, if clocks are less
than a day apart. -/
theorem IsBeyond.at_end (h : s.IsBeyond z) (hz : z.secondsEast.natAbs < 24 * 60 * 60) :
    ∃ d, s.dateTime? = some d ∧
      (d.micros < microsPerDay ∨ instantCount - microsPerDay < d.micros) := by
  obtain ⟨d, hd, hbeyond⟩ := h
  refine ⟨d, hd, ?_⟩
  have hcount := DateTime.micros_lt_instantCount (isValid_of_dateTime? hd)
  have hday {minutes : Int} (hminutes : isOffset minutes) :
      (microsOfMinutes minutes).natAbs < microsPerDay := by
    simp only [isOffset, decide_eq_true_eq, microsOfMinutes, microsPerDay, microsPerSecond] at *
    omega
  by_contra hwithin
  split at hbeyond
  next =>
    have hahead : z.ahead.natAbs < microsPerDay := by
      simp only [Zone.ahead, microsPerDay, microsPerSecond]
      omega
    refine hbeyond ⟨?_, ?_, ?_⟩ <;> rw [InYears] <;> omega
  next => exact hbeyond
  next =>
    obtain ⟨m, hm, hyears⟩ := hbeyond
    have hwest := hday (isOffset_of_offsetMinutes? hm)
    have hin : InYears (d.micros - microsOfMinutes m) := by
      rw [InYears]
      omega
    exact hyears hin

end Stamp

/-! ## Texts -/

/-- A text is at fault just when it is a timestamp that is beyond, with white space around it or
not. -/
lemma Instant.exists_read?_eq_error_iff {z : Zone} {t : Text} :
    (∃ fault, read? z t = .error fault) ↔
      ∃ s, Stamp.read? (Text.strip t) = some s ∧ s.IsBeyond z := by
  rw [read?]
  cases hstamp : Stamp.read? (Text.strip t) with
  | none => simp
  | some s => simp [Stamp.exists_instant?_eq_error_iff]

end LogSearch
