import LogSearch.Proofs.Text.Decimal
import LogSearch.Proofs.Time.Range
import Mathlib.Computability.Language

/-!
# The forms of a timestamp

A timestamp has one of four forms: with the letter Z, with a distance from universal time, with
neither of them, or as a date alone.  Each form has a pattern, which is a regular language over the
characters (`Form.pattern`).  The reader does not try the patterns one by one; it reads a text once,
from its beginning to its end.  `mem_pattern_iff` says that the texts that it accepts are those
that the patterns match, and that it tells the form.

Hence no text is matched by two patterns, and trying one form after the other comes to the same
instant in whatever order it is done (`readInOrder_eq`).

The way there goes through the parts of a timestamp.  `Spells` says how the parts, the digits of
them in any script, make up the text, and the reader finds exactly these parts
(`read?_eq_some_iff`).  Seconds and their fraction are optional and are read as far as they go; this
is not too far, since no suffix begins with a colon, a point or a digit.
-/

namespace LogSearch.Stamp

open Text

/-! ## Patterns -/

/-- The texts of so many decimal digits. -/
def digits (count : Nat) : Language Char := {t | t.length = count ∧ ∀ c ∈ t, isDecimalDigit c}

/-- The texts of one decimal digit or more. -/
def someDigits : Language Char := {t | t ≠ [] ∧ ∀ c ∈ t, isDecimalDigit c}

/-- The texts of one character, which is one of these. -/
def oneOf (characters : Text) : Language Char := {t | ∃ c ∈ characters, t = [c]}

/-- The pattern of a date. -/
def datePattern : Language Char :=
  digits 4 * (oneOf ['-'] * (digits 2 * (oneOf ['-'] * digits 2)))

/-- The pattern of a time of day. -/
def timePattern : Language Char :=
  digits 2 * (oneOf [':'] * (digits 2 *
    (1 + oneOf [':'] * (digits 2 * (1 + oneOf ['.'] * someDigits)))))

/-- The four forms of a timestamp. -/
inductive Form where
  | universal | offset | localTime | localDate
deriving DecidableEq, Repr

/-- The pattern of a form. -/
def Form.pattern : Form → Language Char
  | .universal => datePattern * (oneOf ['T', 't'] * (timePattern * oneOf ['Z', 'z']))
  | .offset => datePattern * (oneOf ['T', 't'] * (timePattern *
      (oneOf ['+', '-'] * (digits 2 * (oneOf [':'] * digits 2)))))
  | .localTime => datePattern * (oneOf ['T', 't'] * timePattern)
  | .localDate => datePattern

/-- The form of a timestamp that has been read. -/
def form (s : Stamp) : Form :=
  match s.clock with
  | none => .localDate
  | some c =>
    match c.suffix with
    | none => .localTime
    | some .universal => .universal
    | some (.offset _ _ _) => .offset

variable {t rest : Text}

lemma mem_oneOf_mul {characters : Text} {l : Language Char} :
    t ∈ oneOf characters * l ↔ ∃ c ∈ characters, ∃ rest ∈ l, t = c :: rest := by
  rw [Language.mem_mul]
  constructor
  · rintro ⟨_, ⟨c, hc, rfl⟩, rest, hrest, rfl⟩
    exact ⟨c, hc, rest, hrest, rfl⟩
  · rintro ⟨c, hc, rest, hrest, rfl⟩
    exact ⟨[c], ⟨c, hc, rfl⟩, rest, hrest, rfl⟩

lemma mem_mark_mul {c : Char} {l : Language Char} :
    t ∈ oneOf [c] * l ↔ ∃ rest ∈ l, t = c :: rest := by
  rw [mem_oneOf_mul]
  simp only [List.mem_singleton, exists_eq_left]

lemma mem_digits_mul {count : Nat} {l : Language Char} :
    t ∈ digits count * l ↔ ∃ d ∈ digits count, ∃ rest ∈ l, t = d ++ rest := by
  simp only [Language.mem_mul, eq_comm]

lemma padded_mem_digits {width n : Nat} (hwidth : 0 < width) (hn : n < 10 ^ width) :
    padded width n ∈ digits width :=
  ⟨length_padded hwidth hn, fun _ hc => isDecimalDigit_of_isDigit (isDigit_of_mem_padded hc)⟩

/-! ## Parts -/

/-- Seconds and fraction in digits, and how they are written behind the minutes. -/
inductive SpellsSeconds : Text → Text → Text → Prop where
  | absent : SpellsSeconds [] [] []
  | whole {second : Text} (hsecond : second ∈ digits 2) : SpellsSeconds second [] (':' :: second)
  | fraction {second fraction : Text} (hsecond : second ∈ digits 2)
      (hfraction : fraction ∈ someDigits) :
      SpellsSeconds second fraction (':' :: (second ++ '.' :: fraction))

/-- A suffix and how it is written. -/
inductive SpellsSuffix : Option Suffix → Text → Prop where
  | absent : SpellsSuffix none []
  | universal {c : Char} (hc : c ∈ ['Z', 'z']) : SpellsSuffix (some .universal) [c]
  | offset {c : Char} {hours minutes : Text} (hc : c ∈ ['+', '-']) (hhours : hours ∈ digits 2)
      (hminutes : minutes ∈ digits 2) :
      SpellsSuffix (some (.offset (c = '-') hours minutes)) (c :: (hours ++ ':' :: minutes))

/-- A time of day with its suffix and how it is written. -/
inductive SpellsClock : Clock → Text → Prop where
  | clock {hour minute second fraction seconds suffixText : Text} {suffix : Option Suffix}
      (hhour : hour ∈ digits 2) (hminute : minute ∈ digits 2)
      (hseconds : SpellsSeconds second fraction seconds)
      (hsuffix : SpellsSuffix suffix suffixText) :
      SpellsClock ⟨hour, minute, second, fraction, suffix⟩
        (hour ++ ':' :: (minute ++ (seconds ++ suffixText)))

/-- A timestamp and how it is written. -/
inductive Spells : Stamp → Text → Prop where
  | date {year month day : Text} (hyear : year ∈ digits 4) (hmonth : month ∈ digits 2)
      (hday : day ∈ digits 2) :
      Spells ⟨year, month, day, none⟩ (year ++ '-' :: (month ++ '-' :: day))
  | time {year month day clockText : Text} {c : Clock} {mark : Char} (hyear : year ∈ digits 4)
      (hmonth : month ∈ digits 2) (hday : day ∈ digits 2) (hmark : mark ∈ ['T', 't'])
      (hclock : SpellsClock c clockText) :
      Spells ⟨year, month, day, some c⟩
        (year ++ '-' :: (month ++ '-' :: (day ++ mark :: clockText)))

lemma digits?_eq_some_iff {count : Nat} {d : Text} :
    digits? count t = some (d, rest) ↔ d ∈ digits count ∧ t = d ++ rest := by
  rw [digits?]
  constructor
  · intro h
    split at h
    next hdigits =>
      simp only [Option.some.injEq, Prod.mk.injEq] at h
      obtain ⟨rfl, rfl⟩ := h
      exact ⟨⟨hdigits.1, List.all_eq_true.1 hdigits.2⟩, (List.take_append_drop _ _).symm⟩
    next => contradiction
  · rintro ⟨⟨rfl, hall⟩, rfl⟩
    rw [List.take_left, List.drop_left, if_pos ⟨rfl, List.all_eq_true.2 hall⟩]

lemma mark?_eq_some_iff {c : Char} : mark? c t = some rest ↔ t = c :: rest := by
  cases t with
  | nil => simp [mark?]
  | cons d more =>
    rw [mark?]
    split
    next h => simp [h]
    next h => simp [h]

lemma readSuffix?_eq_some_iff {suffix : Option Suffix} :
    readSuffix? t = some suffix ↔ SpellsSuffix suffix t := by
  constructor
  · intro h
    cases t with
    | nil =>
      obtain rfl := Option.some.inj h
      exact .absent
    | cons c rest =>
      rw [readSuffix?] at h
      split at h
      next hc =>
        split at h
        next hrest =>
          obtain rfl := Option.some.inj h
          subst hrest
          exact .universal (by simpa using hc)
        next => contradiction
      next =>
        split at h
        next hc =>
          simp only [Option.bind_eq_bind, Option.bind_eq_some_iff, Prod.exists,
            digits?_eq_some_iff, mark?_eq_some_iff] at h
          obtain ⟨hours, _, ⟨hhours, rfl⟩, _, rfl, minutes, more, ⟨hminutes, rfl⟩, h⟩ := h
          split at h
          next hrest =>
            obtain rfl := Option.some.inj h
            subst hrest
            rw [List.append_nil]
            exact .offset (by simpa using hc) hhours hminutes
          next => contradiction
        next => contradiction
  · intro h
    cases h with
    | absent => rfl
    | universal hc =>
      rw [readSuffix?, if_pos (by simpa using hc), if_pos rfl]
    | @offset c hours minutes hc hhours hminutes =>
      have hletter : ¬ (c = 'Z' ∨ c = 'z') := by
        simp only [List.mem_cons, List.not_mem_nil, or_false] at hc
        rcases hc with rfl | rfl <;> decide
      have hreadHours : digits? 2 (hours ++ ':' :: minutes) = some (hours, ':' :: minutes) :=
        digits?_eq_some_iff.2 ⟨hhours, rfl⟩
      have hreadMinutes : digits? 2 minutes = some (minutes, []) :=
        digits?_eq_some_iff.2 ⟨hminutes, (List.append_nil _).symm⟩
      have hcolon : mark? ':' (':' :: minutes) = some minutes := mark?_eq_some_iff.2 rfl
      rw [readSuffix?, if_neg hletter, if_pos (by simpa using hc)]
      simp only [hreadHours, hcolon, hreadMinutes, Option.bind_eq_bind, Option.bind_some, if_true]

/-- What comes behind the seconds does not go on with them. -/
lemma SpellsSuffix.head {suffix : Option Suffix} (h : SpellsSuffix suffix t) :
    ∀ c ∈ t.head?, c ≠ ':' ∧ c ≠ '.' ∧ isDecimalDigit c = false := by
  cases h with
  | absent => simp
  | universal hc =>
    simp only [List.mem_cons, List.not_mem_nil, or_false] at hc
    rcases hc with rfl | rfl <;> simp <;> decide
  | offset hc =>
    simp only [List.mem_cons, List.not_mem_nil, or_false] at hc
    rcases hc with rfl | rfl <;> simp <;> decide

lemma mark?_eq_none {c : Char} (h : ∀ d ∈ t.head?, d ≠ c) : mark? c t = none := by
  cases t with
  | nil => rfl
  | cons d more =>
    rw [mark?, if_neg (h d rfl)]

/-- Seconds are read up to the suffix. -/
lemma readSeconds?_append {second fraction seconds : Text} {suffix : Option Suffix}
    (h : SpellsSeconds second fraction seconds) (hrest : SpellsSuffix suffix rest) :
    readSeconds? (seconds ++ rest) = some (second, fraction, rest) := by
  have hhead := hrest.head
  cases h with
  | absent =>
    rw [readSeconds?, List.nil_append, mark?_eq_none fun c hc => (hhead c hc).1]
  | whole hsecond =>
    have hdigits : digits? 2 (second ++ rest) = some (second, rest) :=
      digits?_eq_some_iff.2 ⟨hsecond, rfl⟩
    rw [List.cons_append, readSeconds?, mark?_eq_some_iff.2 rfl]
    simp only [hdigits, Option.bind_eq_bind, Option.bind_some,
      mark?_eq_none fun c hc => (hhead c hc).2.1]
  | fraction hsecond hfraction =>
    obtain ⟨hne, hall⟩ := hfraction
    have hdigits : digits? 2 (second ++ '.' :: (fraction ++ rest)) =
        some (second, '.' :: (fraction ++ rest)) := digits?_eq_some_iff.2 ⟨hsecond, rfl⟩
    have hpoint : mark? '.' ('.' :: (fraction ++ rest)) = some (fraction ++ rest) :=
      mark?_eq_some_iff.2 rfl
    obtain ⟨htake, hleft⟩ := span_append hall fun c hc => (hhead c hc).2.2
    rw [List.cons_append, List.append_assoc, List.cons_append, readSeconds?,
      mark?_eq_some_iff.2 rfl]
    simp only [hdigits, hpoint, htake, hleft, Option.bind_eq_bind, Option.bind_some, if_neg hne]

/-- The seconds that are read stand in front of what is left. -/
lemma exists_spellsSeconds {second fraction : Text}
    (h : readSeconds? t = some (second, fraction, rest)) :
    ∃ seconds, SpellsSeconds second fraction seconds ∧ t = seconds ++ rest := by
  rw [readSeconds?] at h
  split at h
  next =>
    simp only [Option.some.injEq, Prod.mk.injEq] at h
    obtain ⟨rfl, rfl, rfl⟩ := h
    exact ⟨[], .absent, rfl⟩
  next after hcolon =>
    obtain rfl := mark?_eq_some_iff.1 hcolon
    simp only [Option.bind_eq_bind, Option.bind_eq_some_iff, Prod.exists,
      digits?_eq_some_iff] at h
    obtain ⟨digits, more, ⟨hdigits, rfl⟩, h⟩ := h
    split at h
    next =>
      simp only [Option.some.injEq, Prod.mk.injEq] at h
      obtain ⟨rfl, rfl, rfl⟩ := h
      exact ⟨':' :: digits, .whole hdigits, rfl⟩
    next last hpoint =>
      obtain rfl := mark?_eq_some_iff.1 hpoint
      split at h
      next => contradiction
      next hne =>
        simp only [Option.some.injEq, Prod.mk.injEq] at h
        obtain ⟨rfl, rfl, rfl⟩ := h
        refine ⟨_, .fraction hdigits ⟨hne, fun c hc => List.mem_takeWhile_imp hc⟩, ?_⟩
        simp [List.takeWhile_append_dropWhile]

lemma readClock?_eq_some_iff {c : Clock} : readClock? t = some c ↔ SpellsClock c t := by
  constructor
  · intro h
    simp only [readClock?, Option.bind_eq_bind, Option.bind_eq_some_iff, Prod.exists,
      digits?_eq_some_iff, mark?_eq_some_iff, Option.pure_def, Option.some.injEq,
      readSuffix?_eq_some_iff] at h
    obtain ⟨hour, _, ⟨hhour, rfl⟩, _, rfl, minute, _, ⟨hminute, rfl⟩, second, fraction, rest,
      hseconds, suffix, hsuffix, rfl⟩ := h
    obtain ⟨seconds, hspells, rfl⟩ := exists_spellsSeconds hseconds
    exact .clock hhour hminute hspells hsuffix
  · rintro ⟨hhour, hminute, hseconds, hsuffix⟩
    simp only [readClock?, digits?_eq_some_iff.2 ⟨hhour, rfl⟩,
      digits?_eq_some_iff.2 ⟨hminute, rfl⟩, mark?_eq_some_iff.2 rfl,
      readSeconds?_append hseconds hsuffix, readSuffix?_eq_some_iff.2 hsuffix,
      Option.bind_eq_bind, Option.bind_some, Option.pure_def]

/-- The reader finds the parts that are written, and no text without them is read. -/
lemma read?_eq_some_iff {s : Stamp} : read? t = some s ↔ Spells s t := by
  constructor
  · intro h
    simp only [read?, Option.bind_eq_bind, Option.bind_eq_some_iff, Prod.exists,
      digits?_eq_some_iff, mark?_eq_some_iff] at h
    obtain ⟨year, _, ⟨hyear, rfl⟩, _, rfl, month, _, ⟨hmonth, rfl⟩, _, rfl, day, rest,
      ⟨hday, rfl⟩, h⟩ := h
    split at h
    next =>
      obtain rfl := Option.some.inj h
      rw [List.append_nil]
      exact .date hyear hmonth hday
    next mark clockText =>
      split at h
      next hmark =>
        simp only [Option.bind_eq_some_iff, readClock?_eq_some_iff, Option.pure_def,
          Option.some.injEq] at h
        obtain ⟨c, hclock, rfl⟩ := h
        exact .time hyear hmonth hday (by simpa using hmark) hclock
      next => contradiction
  · rintro (⟨hyear, hmonth, hday⟩ | ⟨hyear, hmonth, hday, hmark, hclock⟩)
    · simp only [read?, digits?_eq_some_iff.2 ⟨hyear, rfl⟩, digits?_eq_some_iff.2 ⟨hmonth, rfl⟩,
        digits?_eq_some_iff.2 ⟨hday, (List.append_nil _).symm⟩, mark?_eq_some_iff.2 rfl,
        Option.bind_eq_bind, Option.bind_some, Option.pure_def]
    · simp only [List.mem_cons, List.not_mem_nil, or_false] at hmark
      simp only [read?, digits?_eq_some_iff.2 ⟨hyear, rfl⟩, digits?_eq_some_iff.2 ⟨hmonth, rfl⟩,
        digits?_eq_some_iff.2 ⟨hday, rfl⟩, mark?_eq_some_iff.2 rfl, if_pos hmark,
        readClock?_eq_some_iff.2 hclock, Option.bind_eq_bind, Option.bind_some, Option.pure_def]

/-! ## What the patterns match -/

lemma mem_datePattern : t ∈ datePattern ↔ ∃ year ∈ digits 4, ∃ month ∈ digits 2, ∃ day ∈ digits 2,
    t = year ++ '-' :: (month ++ '-' :: day) := by
  simp only [datePattern, mem_digits_mul, mem_mark_mul]
  constructor
  · rintro ⟨year, hyear, _, ⟨_, ⟨month, hmonth, _, ⟨day, hday, rfl⟩, rfl⟩, rfl⟩, rfl⟩
    exact ⟨year, hyear, month, hmonth, day, hday, rfl⟩
  · rintro ⟨year, hyear, month, hmonth, day, hday, rfl⟩
    exact ⟨year, hyear, _, ⟨_, ⟨month, hmonth, _, ⟨day, hday, rfl⟩, rfl⟩, rfl⟩, rfl⟩

lemma mem_secondsPattern :
    t ∈ 1 + oneOf [':'] * (digits 2 * (1 + oneOf ['.'] * someDigits)) ↔
      ∃ second fraction, SpellsSeconds second fraction t := by
  simp only [Language.mem_add, Language.mem_one, mem_mark_mul, mem_digits_mul]
  constructor
  · rintro (rfl | ⟨_, ⟨second, hsecond, _, rfl | ⟨fraction, hfraction, rfl⟩, rfl⟩, rfl⟩)
    · exact ⟨[], [], .absent⟩
    · rw [List.append_nil]
      exact ⟨second, [], .whole hsecond⟩
    · exact ⟨second, fraction, .fraction hsecond hfraction⟩
  · rintro ⟨_, _, _ | hsecond | ⟨hsecond, hfraction⟩⟩
    · exact .inl rfl
    · exact .inr ⟨_, ⟨_, hsecond, [], .inl rfl, (List.append_nil _).symm⟩, rfl⟩
    · exact .inr ⟨_, ⟨_, hsecond, _, .inr ⟨_, hfraction, rfl⟩, rfl⟩, rfl⟩

lemma mem_timePattern : t ∈ timePattern ↔ ∃ hour ∈ digits 2, ∃ minute ∈ digits 2,
    ∃ seconds second fraction, SpellsSeconds second fraction seconds ∧
      t = hour ++ ':' :: (minute ++ seconds) := by
  simp only [timePattern, mem_digits_mul (l := oneOf [':'] * _),
    mem_digits_mul (l := 1 + oneOf [':'] * _), mem_mark_mul (l := digits 2 * (1 + oneOf [':'] * _)),
    mem_secondsPattern]
  constructor
  · rintro ⟨hour, hhour, _, ⟨_, ⟨minute, hminute, seconds, ⟨second, fraction, h⟩, rfl⟩, rfl⟩, rfl⟩
    exact ⟨hour, hhour, minute, hminute, seconds, second, fraction, h, rfl⟩
  · rintro ⟨hour, hhour, minute, hminute, seconds, second, fraction, h, rfl⟩
    exact ⟨hour, hhour, _, ⟨_, ⟨minute, hminute, seconds, ⟨second, fraction, h⟩, rfl⟩, rfl⟩, rfl⟩

/-- A date, a mark, a time of day and a suffix are read as the parts that they are spelled in, and
the suffix has no influence on the others. -/
lemma exists_read?_eq {dateText timeText : Text} (hdate : dateText ∈ datePattern)
    (htime : timeText ∈ timePattern) :
    ∃ (s : Stamp) (c : Clock), ∀ mark ∈ ['T', 't'], ∀ (suffix : Option Suffix) (suffixText : Text),
      SpellsSuffix suffix suffixText → read? (dateText ++ mark :: (timeText ++ suffixText)) =
        some { s with clock := some { c with suffix := suffix } } := by
  obtain ⟨year, hyear, month, hmonth, day, hday, rfl⟩ := mem_datePattern.1 hdate
  obtain ⟨hour, hhour, minute, hminute, seconds, second, fraction, hseconds, rfl⟩ :=
    mem_timePattern.1 htime
  refine ⟨⟨year, month, day, none⟩, ⟨hour, minute, second, fraction, none⟩, ?_⟩
  intro mark hmark suffix suffixText hsuffix
  have hspells := Spells.time hyear hmonth hday hmark (.clock hhour hminute hseconds hsuffix)
  rw [← read?_eq_some_iff] at hspells
  simpa using hspells

lemma mem_timedPattern {l : Language Char} :
    t ∈ datePattern * (oneOf ['T', 't'] * (timePattern * l)) ↔
      ∃ dateText ∈ datePattern, ∃ mark ∈ ['T', 't'], ∃ timeText ∈ timePattern, ∃ suffixText ∈ l,
        t = dateText ++ mark :: (timeText ++ suffixText) := by
  simp only [Language.mem_mul (l := datePattern), Language.mem_mul (l := timePattern),
    mem_oneOf_mul]
  constructor
  · rintro ⟨dateText, hdate, _, ⟨mark, hmark, _, ⟨timeText, htime, suffixText, hl, rfl⟩, rfl⟩, rfl⟩
    exact ⟨dateText, hdate, mark, hmark, timeText, htime, suffixText, hl, rfl⟩
  · rintro ⟨dateText, hdate, mark, hmark, timeText, htime, suffixText, hl, rfl⟩
    exact ⟨dateText, hdate, _, ⟨mark, hmark, _, ⟨timeText, htime, suffixText, hl, rfl⟩, rfl⟩, rfl⟩

lemma mem_universalSuffix : t ∈ oneOf ['Z', 'z'] ↔ SpellsSuffix (some .universal) t := by
  constructor
  · rintro ⟨c, hc, rfl⟩
    exact .universal hc
  · rintro (_ | hc | _)
    exact ⟨_, hc, rfl⟩

lemma mem_offsetSuffix : t ∈ oneOf ['+', '-'] * (digits 2 * (oneOf [':'] * digits 2)) ↔
    ∃ west hours minutes, SpellsSuffix (some (.offset west hours minutes)) t := by
  rw [mem_oneOf_mul]
  simp only [mem_mark_mul, mem_digits_mul]
  constructor
  · rintro ⟨c, hc, _, ⟨hours, hhours, _, ⟨minutes, hminutes, rfl⟩, rfl⟩, rfl⟩
    exact ⟨_, hours, minutes, .offset hc hhours hminutes⟩
  · rintro ⟨west, hours, minutes, _ | _ | ⟨hc, hhours, hminutes⟩⟩
    exact ⟨_, hc, _, ⟨hours, hhours, _, ⟨minutes, hminutes, rfl⟩, rfl⟩, rfl⟩

/-- A timestamp with a time of day is a date, a mark, a time and a suffix. -/
lemma Spells.exists_timed {s : Stamp} {c : Clock} (h : Spells s t) (hc : s.clock = some c) :
    ∃ dateText ∈ datePattern, ∃ mark ∈ ['T', 't'], ∃ timeText ∈ timePattern, ∃ suffixText,
      SpellsSuffix c.suffix suffixText ∧ t = dateText ++ mark :: (timeText ++ suffixText) := by
  cases h with
  | date => cases hc
  | time hyear hmonth hday hmark hclock =>
    obtain rfl := Option.some.inj hc
    obtain ⟨hhour, hminute, hseconds, hsuffix⟩ := hclock
    exact ⟨_, mem_datePattern.2 ⟨_, hyear, _, hmonth, _, hday, rfl⟩, _, hmark, _,
      mem_timePattern.2 ⟨_, hhour, _, hminute, _, _, _, hseconds, rfl⟩, _, hsuffix, by simp⟩

/-- **The reader accepts what the patterns match, and tells the form.** -/
lemma mem_pattern_iff {f : Form} : t ∈ f.pattern ↔ ∃ s, read? t = some s ∧ s.form = f := by
  have htimed : ∀ {l : Language Char},
      (∀ {u}, u ∈ l → ∃ suffix, SpellsSuffix suffix u ∧ ∀ (s : Stamp) (c : Clock),
        form { s with clock := some { c with suffix := suffix } } = f) →
      t ∈ datePattern * (oneOf ['T', 't'] * (timePattern * l)) →
        ∃ s, read? t = some s ∧ s.form = f := by
    intro l hl ht
    obtain ⟨dateText, hdate, mark, hmark, timeText, htime, suffixText, hsuffixText, rfl⟩ :=
      mem_timedPattern.1 ht
    obtain ⟨suffix, hsuffix, hform⟩ := hl hsuffixText
    obtain ⟨s, c, hread⟩ := exists_read?_eq hdate htime
    exact ⟨_, hread mark hmark suffix suffixText hsuffix, hform s c⟩
  have hlocal : Form.localTime.pattern =
      datePattern * (oneOf ['T', 't'] * (timePattern * 1)) := by rw [mul_one, Form.pattern]
  constructor
  · intro ht
    cases f with
    | universal =>
      exact htimed (fun hu => ⟨_, mem_universalSuffix.1 hu, fun s c => rfl⟩) ht
    | offset =>
      refine htimed (fun hu => ?_) ht
      obtain ⟨west, hours, minutes, hsuffix⟩ := mem_offsetSuffix.1 hu
      exact ⟨_, hsuffix, fun s c => rfl⟩
    | localTime =>
      rw [hlocal] at ht
      refine htimed (fun hu => ?_) ht
      obtain rfl := (Language.mem_one _).1 hu
      exact ⟨none, .absent, fun s c => rfl⟩
    | localDate =>
      obtain ⟨year, hyear, month, hmonth, day, hday, rfl⟩ := mem_datePattern.1 ht
      exact ⟨_, read?_eq_some_iff.2 (.date hyear hmonth hday), rfl⟩
  · rintro ⟨s, hread, rfl⟩
    have hspells := read?_eq_some_iff.1 hread
    cases hclock : s.clock with
    | none =>
      cases hspells with
      | date hyear hmonth hday => exact mem_datePattern.2 ⟨_, hyear, _, hmonth, _, hday, rfl⟩
      | time => cases hclock
    | some c =>
      obtain ⟨dateText, hdate, mark, hmark, timeText, htime, suffixText, hsuffix, rfl⟩ :=
        hspells.exists_timed hclock
      rw [form, hclock]
      cases hkind : c.suffix with
      | none =>
        rw [hkind] at hsuffix
        simp only [hkind, hlocal]
        cases hsuffix
        exact mem_timedPattern.2 ⟨_, hdate, mark, hmark, _, htime, _, Language.nil_mem_one, rfl⟩
      | some suffix =>
        rw [hkind] at hsuffix
        simp only [hkind]
        cases suffix with
        | universal =>
          exact mem_timedPattern.2
            ⟨_, hdate, mark, hmark, _, htime, _, mem_universalSuffix.2 hsuffix, rfl⟩
        | offset west hours minutes =>
          exact mem_timedPattern.2 ⟨_, hdate, mark, hmark, _, htime, _,
            mem_offsetSuffix.2 ⟨west, hours, minutes, hsuffix⟩, rfl⟩

lemma form_unique {f f' : Form} (h : t ∈ f.pattern) (h' : t ∈ f'.pattern) : f = f' := by
  obtain ⟨s, hread, rfl⟩ := mem_pattern_iff.1 h
  obtain ⟨s', hread', rfl⟩ := mem_pattern_iff.1 h'
  rw [Option.some.inj (hread.symm.trans hread')]

/-! ## Trying one form after the other -/

open Classical in
/-- What a text names in one of the forms.  A text that the pattern does not match names nothing. -/
noncomputable def Form.readAs? (f : Form) (z : Zone) (t : Text) :
    Except RangeFault (Option Instant) :=
  if t ∈ f.pattern then
    match read? t with
    | none => .ok none
    | some s => s.instant? z
  else .ok none

/-- The forms are tried in the order of the list, until one comes to an instant or a fault. -/
noncomputable def readInOrder (forms : List Form) (z : Zone) (t : Text) :
    Except RangeFault (Option Instant) :=
  match forms with
  | [] => .ok none
  | f :: rest =>
    match f.readAs? z t with
    | .ok none => readInOrder rest z t
    | result => result

/-- A text that is no timestamp names nothing in any order. -/
lemma readInOrder_of_none (h : read? t = none) (forms : List Form) (z : Zone) :
    readInOrder forms z t = .ok none := by
  induction forms with
  | nil => rfl
  | cons f rest ih =>
    have hf : f.readAs? z t = .ok none := by
      simp only [Form.readAs?, h, ite_self]
    rw [readInOrder, hf]
    exact ih

/-- A timestamp names the same in any order in which its form occurs. -/
lemma readInOrder_of_some {s : Stamp} (h : read? t = some s) (forms : List Form) (z : Zone) :
    readInOrder forms z t = if s.form ∈ forms then s.instant? z else .ok none := by
  induction forms with
  | nil => rfl
  | cons f rest ih =>
    have hpattern : t ∈ f.pattern ↔ s.form = f := by
      rw [mem_pattern_iff]
      constructor
      · rintro ⟨s', hs', hform⟩
        rwa [Option.some.inj (h.symm.trans hs')]
      · exact fun hform => ⟨s, h, hform⟩
    rw [readInOrder, Form.readAs?, h, ih]
    by_cases hform : s.form = f
    · have hmem : s.form ∈ f :: rest := hform ▸ List.mem_cons_self
      rw [if_pos (hpattern.2 hform), if_pos hmem]
      -- the other forms have nothing to add where this one finds none
      rcases hinstant : s.instant? z with fault | (_ | i) <;> simp [hinstant]
    · rw [if_neg fun ht => hform (hpattern.1 ht)]
      simp [hform]

/-- The order in which the forms are tried does not matter. -/
lemma readInOrder_eq {forms : List Form} (hforms : ∀ f, f ∈ forms) (z : Zone) (t : Text) :
    readInOrder forms z (strip t) = Instant.read? z t := by
  rw [Instant.read?]
  cases hread : read? (strip t) with
  | none => exact readInOrder_of_none hread forms z
  | some s => rw [readInOrder_of_some hread, if_pos (hforms _)]

end LogSearch.Stamp
