/-!
# Binary floating-point numbers of 64 bits

A finite number is a sign, a significand below 2⁵³ and a power of two; the smallest step
between two numbers is 2⁻¹⁰⁷⁴, and the powers are counted from there.  Beside the finite
numbers there are two infinities and a value that is not a number.

Numbers are made from exact fractions by `Binary64.ofRatio`, which takes the nearest number
and, of two that are equally near, the one whose significand is even.  A fraction that is too
large becomes infinite.  All arithmetic here is on naturals, so that it can be reasoned about.
-/

namespace LogSearch

/-- The number of values that a significand has. -/
def significandCount : Nat := Nat.pow 2 53

/-- The least significand of a number above the smallest power. -/
def leastNormal : Nat := Nat.pow 2 52

/-- The largest power, counted from the smallest one. -/
def largestPower : Nat := 2045

/-- The significand is used in full: it has all its bits unless the power is the smallest. -/
def IsNormalized (significand power : Nat) : Prop :=
  significand < significandCount ∧ (power = 0 ∨ leastNormal ≤ significand) ∧
    power ≤ largestPower

instance (m p : Nat) : Decidable (IsNormalized m p) := by unfold IsNormalized; infer_instance

/-- A floating-point number of 64 bits.  A finite one is `significand · 2 ^ (power - 1074)`. -/
inductive Binary64 where
  | finite (negative : Bool) (significand power : Nat) (h : IsNormalized significand power)
  | infinite (negative : Bool)
  | nan
deriving DecidableEq

/-- The quotient rounded to the nearest natural; a half goes to the even neighbour. -/
def roundHalfEven (num den : Nat) : Nat :=
  let q := num / den
  let r := num % den
  if 2 * r < den then q
  else if den < 2 * r then q + 1
  else q + q % 2

namespace Binary64

/-- The number with these parts, infinite if there is none so large. -/
def ofParts (negative : Bool) (significand power : Nat) : Binary64 :=
  if h : IsNormalized significand power then .finite negative significand power h
  else .infinite negative

/-- Zero, with its sign. -/
def zero (negative : Bool) : Binary64 := ofParts negative 0 0

/-- The number nearest to `± num / den`. -/
def ofRatio (negative : Bool) (num den : Nat) : Binary64 :=
  let scaled := num * Nat.pow 2 1074
  let power := (scaled / den).log2 - 52
  let m := roundHalfEven scaled (den * Nat.pow 2 power)
  if m = significandCount then ofParts negative leastNormal (power + 1)
  else ofParts negative m power

/-- The number nearest to `± coefficient · 10 ^ exponent`.  The exponent is looked at first, so
that no power of ten is formed that would be lost again. -/
def ofDecimal (negative : Bool) (coefficient : Nat) (exponent : Int) : Binary64 :=
  let places : Int := (Nat.toDigits 10 coefficient).length
  if coefficient = 0 then zero negative
  else if 400 < places + exponent then .infinite negative
  else if places + exponent < -400 then zero negative
  else if 0 ≤ exponent then ofRatio negative (coefficient * Nat.pow 10 exponent.toNat) 1
  else ofRatio negative coefficient (Nat.pow 10 (-exponent).toNat)

/-- The number nearest to an integer. -/
def ofInt (n : Int) : Binary64 := ofRatio (n < 0) n.natAbs 1

/-- The exact value of a finite number, without its sign, as a fraction. -/
def ratio (significand power : Nat) : Nat × Nat :=
  if power ≤ 1074 then (significand, Nat.pow 2 (1074 - power))
  else (significand * Nat.pow 2 (power - 1074), 1)

/-- The exact value, if the number is finite. -/
def toRat? : Binary64 → Option Rat
  | .finite negative m p _ =>
    let (num, den) := ratio m p
    let magnitude : Rat := mkRat num den
    some (if negative then -magnitude else magnitude)
  | .infinite _ => none
  | .nan => none

/-- The number nearest to a rational. -/
def ofRat (q : Rat) : Binary64 := ofRatio (q < 0) q.num.natAbs q.den

/-- The value of the bit that tells the sign. -/
def signBit : Nat := Nat.pow 2 63

/-- The 64 bits of a number, as a natural. -/
def bits : Binary64 → Nat
  | .finite negative m p _ => (if negative then signBit else 0) + p * leastNormal + m
  | .infinite negative => (if negative then signBit else 0) + 2047 * leastNormal
  | .nan => 2047 * leastNormal + Nat.pow 2 51

/-- The integer part of a finite number, toward zero. -/
def truncate? : Binary64 → Option Int
  | .finite negative m p _ =>
    let (num, den) := ratio m p
    let magnitude : Int := (num / den : Nat)
    some (if negative then -magnitude else magnitude)
  | .infinite _ => none
  | .nan => none

/-- The integer that a finite number is equal to, if there is one. -/
def toInt? (x : Binary64) : Option Int :=
  match x.toRat? with
  | some q => if q.den = 1 then some q.num else none
  | none => none

/-- The number is infinite, of either sign. -/
def isInfinite : Binary64 → Bool
  | .infinite _ => true
  | _ => false

/-- The number is zero, of either sign. -/
def isZero : Binary64 → Bool
  | .finite _ m _ _ => m = 0
  | .infinite _ => false
  | .nan => false

/-- The number is below zero. -/
def isNegative : Binary64 → Bool
  | .finite negative m _ _ => negative && m ≠ 0
  | .infinite negative => negative
  | .nan => false

end Binary64

end LogSearch
