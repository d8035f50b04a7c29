import LogSearch.Text.Basic
import LogSearch.Time.Calendar

/-!
# Instants

An instant is a moment in universal time in the years 1 to 9999, to the microsecond.  It is
written as date and time with the letter Z behind; the fraction of the second is left out when
it is zero and written with three digits where three are exact and with six otherwise.  The
year is written without leading zeros.

A zone is a fixed distance from universal time.  `Zone.instantOf` reads a local date and time.
The years end on both sides, and the reading looks a day back to see whether the clock was
changed, so that dates near the ends are refused although they name an instant.
-/

namespace LogSearch

/-- The number of microseconds from the beginning of the year 1 to the end of the year 9999. -/
def instantCount : Nat := dayCount * microsPerDay

/-- A moment, in microseconds since the beginning of the year 1 in universal time. -/
structure Instant where
  micros : Nat
  lt_count : micros < instantCount
deriving DecidableEq

/-- What can be wrong with a date or time that is well formed. -/
inductive RangeFault where
  /-- A year other than 1 to 9999 is met on the way. -/
  | year (year : Nat)
  /-- The result is no instant. -/
  | date
deriving DecidableEq, Repr

/-- The wording of a fault. -/
def RangeFault.message : RangeFault → Text
  | .year y => "year " ++ Text.ofNat y ++ " is out of range"
  | .date => "date value out of range"

namespace Instant

/-- The instant at so many microseconds since the beginning of the year 1. -/
def ofMicros? (n : Int) : Option Instant :=
  if h : 0 ≤ n ∧ n.toNat < instantCount then some ⟨n.toNat, h.2⟩ else none

/-- The part of the second, in microseconds. -/
def microsecond (i : Instant) : Nat := i.micros % microsPerSecond

/-- The fraction of a second as it is written, with its point. -/
def fractionText (micro : Nat) : Text :=
  if micro = 0 then []
  else if micro % 1000 = 0 then '.' :: Text.padded 3 (micro / 1000)
  else '.' :: Text.padded 6 micro

/-- A date and time as it is written, without a zone. -/
def dateTimeText (d : DateTime) : Text :=
  Text.ofNat d.year ++ "-" ++ Text.padded 2 d.month ++ "-" ++ Text.padded 2 d.day ++ "T" ++
    Text.padded 2 d.hour ++ ":" ++ Text.padded 2 d.minute ++ ":" ++ Text.padded 2 d.second ++
    fractionText d.micro

/-- The written form of an instant. -/
def text (i : Instant) : Text := dateTimeText (DateTime.ofMicros i.micros) ++ "Z"

end Instant

/-- A zone whose clocks are so many seconds ahead of universal time. -/
structure Zone where
  secondsEast : Int
deriving DecidableEq, Repr

/-- The microseconds by which the clocks of the zone are ahead. -/
def Zone.ahead (z : Zone) : Int := z.secondsEast * microsPerSecond

/-- The microseconds of a number of minutes. -/
def microsOfMinutes (minutes : Int) : Int := minutes * 60 * microsPerSecond

/-- Refuses a count of microseconds that is outside of the years 1 to 9999. -/
def requireYear (n : Int) : Except RangeFault Unit :=
  if n < 0 then .error (.year (firstYear - 1))
  else if (instantCount : Int) ≤ n then .error (.year (lastYear + 1))
  else .ok ()

/-- The instant at the given distance in microseconds from the beginning of the year 1. -/
def requireInstant (n : Int) : Except RangeFault Instant :=
  match Instant.ofMicros? n with
  | some i => .ok i
  | none => .error .date

/-- A distance from universal time is less than a day. -/
def isOffset (minutesEast : Int) : Bool := minutesEast.natAbs < 24 * 60

/-- The instant at which clocks so many minutes ahead of universal time show `d`. -/
def DateTime.instantAt (d : DateTime) (minutesEast : Int) : Except RangeFault Instant :=
  requireInstant (d.micros - microsOfMinutes minutesEast)

/-- The instant at which the clocks of the zone show `d`.  The zone is asked for its time at
`d`, taken as universal time, and at a day before `d`; both have to lie in the years that
there are. -/
def Zone.instantOf (z : Zone) (d : DateTime) : Except RangeFault Instant := do
  let shown : Int := d.micros
  requireYear (shown + z.ahead)
  requireYear (shown - microsPerDay)
  requireInstant (shown - z.ahead)

end LogSearch
