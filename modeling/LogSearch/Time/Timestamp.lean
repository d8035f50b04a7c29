import LogSearch.Text.Basic
import LogSearch.Text.Numerals
import LogSearch.Time.Instant

/-!
# Timestamps

A timestamp is a date, or a date, the letter T and a time, which may be followed by the letter
Z or by a distance from universal time.  Seconds may be left out, and so may their fraction.
Without either suffix a timestamp is read in the local zone; a date alone is its midnight.

`Stamp.read?` recognises the form.  It takes the digits of every script, but only those of
ASCII have a value (`Stamp.dateTime?`).  The digits of a fraction beyond the sixth are not
used; they need a value only where no suffix follows them.
-/

namespace LogSearch

/-- What follows the time of day. -/
inductive Stamp.Suffix where
  /-- The letter Z: universal time. -/
  | universal
  /-- The distance from universal time, as written. -/
  | offset (west : Bool) (hours minutes : Text)
deriving DecidableEq, Repr

/-- The time of day of a timestamp, in digits as written.  An absent part is empty. -/
structure Stamp.Clock where
  hour : Text
  minute : Text
  second : Text
  fraction : Text
  suffix : Option Stamp.Suffix
deriving DecidableEq, Repr

/-- The parts of a timestamp, in digits as written. -/
structure Stamp where
  year : Text
  month : Text
  day : Text
  clock : Option Stamp.Clock
deriving DecidableEq, Repr

namespace Stamp

/-- So many decimal digits at the beginning of a text, and the rest of it. -/
def digits? (count : Nat) (t : Text) : Option (Text × Text) :=
  let d := t.take count
  if d.length = count ∧ d.all Text.isDecimalDigit then some (d, t.drop count) else none

/-- The rest of a text that begins with the character. -/
def mark? (c : Char) : Text → Option Text
  | [] => none
  | d :: rest => if d = c then some rest else none

/-- The suffix that is the whole of a text, which may be absent. -/
def readSuffix? : Text → Option (Option Suffix)
  | [] => some none
  | c :: rest =>
    if c = 'Z' ∨ c = 'z' then if rest = [] then some (some .universal) else none
    else if c = '+' ∨ c = '-' then do
      let (hours, rest) ← digits? 2 rest
      let (minutes, rest) ← digits? 2 (← mark? ':' rest)
      if rest = [] then some (some (.offset (c = '-') hours minutes)) else none
    else none

/-- The seconds and their fraction at the beginning of a text; both may be absent. -/
def readSeconds? (t : Text) : Option (Text × Text × Text) :=
  match mark? ':' t with
  | none => some ([], [], t)
  | some rest => do
    let (second, rest) ← digits? 2 rest
    match mark? '.' rest with
    | none => some (second, [], rest)
    | some rest =>
      let fraction := rest.takeWhile Text.isDecimalDigit
      if fraction = [] then none
      else some (second, fraction, rest.dropWhile Text.isDecimalDigit)

/-- The time of day, with its suffix, that is the whole of a text. -/
def readClock? (t : Text) : Option Clock := do
  let (hour, rest) ← digits? 2 t
  let (minute, rest) ← digits? 2 (← mark? ':' rest)
  let (second, fraction, rest) ← readSeconds? rest
  return ⟨hour, minute, second, fraction, ← readSuffix? rest⟩

/-- The timestamp that is the whole of a text. -/
def read? (t : Text) : Option Stamp := do
  let (year, rest) ← digits? 4 t
  let (month, rest) ← digits? 2 (← mark? '-' rest)
  let (day, rest) ← digits? 2 (← mark? '-' rest)
  match rest with
  | [] => return ⟨year, month, day, none⟩
  | c :: rest =>
    if c = 'T' ∨ c = 't' then return ⟨year, month, day, some (← readClock? rest)⟩ else none

/-- The microseconds of a fraction: its first six digits, filled up with zeros. -/
def fractionMicros? (fraction : Text) : Option Nat :=
  Text.toNat? (fraction.take 6 ++ List.replicate (6 - fraction.length) '0')

/-- The number that digits denote, zero for an absent part. -/
def valueOrZero? (t : Text) : Option Nat := if t = [] then some 0 else Text.toNat? t

/-- The date and time that are written, if there is such a day and such a time of day. -/
def dateTime? (s : Stamp) : Option DateTime := do
  let year ← Text.toNat? s.year
  let month ← Text.toNat? s.month
  let day ← Text.toNat? s.day
  match s.clock with
  | none => DateTime.validated ⟨year, month, day, 0, 0, 0, 0⟩
  | some c =>
    if c.suffix = none ∧ (valueOrZero? c.fraction).isNone then none
    else
      DateTime.validated
        ⟨year, month, day, ← Text.toNat? c.hour, ← Text.toNat? c.minute,
          ← valueOrZero? c.second, ← fractionMicros? c.fraction⟩

/-- The minutes by which a distance is ahead of universal time, if it is less than a day. -/
def offsetMinutes? (west : Bool) (hours minutes : Text) : Option Int := do
  let total : Int := ((← Text.toNat? hours) * 60 + (← Text.toNat? minutes) : Nat)
  if isOffset total then some (if west then -total else total) else none

/-- The instant that a timestamp names in the zone.  There is none if the day, the time of day
or the distance does not exist, and a fault if the instant is out of range. -/
def instant? (z : Zone) (s : Stamp) : Except RangeFault (Option Instant) :=
  match s.dateTime? with
  | none => .ok none
  | some d =>
    match s.clock.bind (·.suffix) with
    | none => some <$> z.instantOf d
    | some .universal => some <$> d.instantAt 0
    | some (.offset west hours minutes) =>
      match offsetMinutes? west hours minutes with
      | none => .ok none
      | some m => some <$> d.instantAt m

end Stamp

/-- The instant that a text names in the zone, with white space around it or not. -/
def Instant.read? (z : Zone) (t : Text) : Except RangeFault (Option Instant) :=
  match Stamp.read? (Text.strip t) with
  | none => .ok none
  | some s => s.instant? z

end LogSearch
