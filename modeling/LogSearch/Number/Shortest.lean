import LogSearch.Number.Binary64
import LogSearch.Text.Basic

/-!
# The text of a floating-point number

A finite number is written with the fewest digits that read back as the number; of two texts
of that length the nearer one is taken.  `Binary64.shortest` finds the digits by trying the
two neighbours of the number on ever finer decimal grids.  Seventeen digits always suffice.

How digits and exponent are set is a separate matter, `FloatFormat`.
-/

namespace LogSearch

/-- A decimal number `0.d₁d₂… · 10 ^ point`, given by its digits as one natural and the place
of its point. -/
structure Digits where
  digits : Nat
  count : Nat
  point : Int
deriving DecidableEq, Repr

namespace Binary64

/-- The place of the decimal point of `num / den`: the number of digits before it, or, as a
negative number, of zeros after it. -/
def decimalPoint (num den : Nat) : Int :=
  if den ≤ num then (Nat.toDigits 10 (num / den)).length
  else 1 - (Nat.toDigits 10 (den / num)).length

/-- The fraction `num / den` divided by ten to the given power. -/
def scaleDown (num den : Nat) (power : Int) : Nat × Nat :=
  if 0 ≤ power then (num, den * Nat.pow 10 power.toNat)
  else (num * Nat.pow 10 (-power).toNat, den)

/-- The multiple of ten to the given power that is nearest to the number and reads back as it,
as a number of such steps. -/
def onGrid (significand power : Nat) (exponent : Int) : Option Nat :=
  let (num, den) := ratio significand power
  let (n, d) := scaleDown num den exponent
  let low := n / d
  let reads (k : Nat) : Bool := ofDecimal false k exponent = ofParts false significand power
  match reads low, reads (low + 1) with
  | true, true => some (roundHalfEven n d)
  | true, false => some low
  | false, true => some (low + 1)
  | false, false => none

/-- The digits on the first grid that has some, from `count` digits on. -/
def searchDigits (significand power : Nat) (point : Int) : Nat → Nat → Digits
  | 0, count => ⟨0, count, point⟩
  | fuel + 1, count =>
    match onGrid significand power (point - count) with
    | some k => ⟨k, count, point⟩
    | none => searchDigits significand power point fuel (count + 1)

/-- A number of digits without the zeros at its end, at most `fuel` of them. -/
def dropZeros : Nat → Nat → Nat
  | 0, k => k
  | fuel + 1, k => if k % 10 = 0 then dropZeros fuel (k / 10) else k

/-- The fewest digits that read back as the number, which must not be zero. -/
def shortest (significand power : Nat) : Digits :=
  let (num, den) := ratio significand power
  let found := searchDigits significand power (decimalPoint num den) 17 1
  let point := found.point + ((Nat.toDigits 10 found.digits).length - found.count : Int)
  let k := dropZeros found.count found.digits
  ⟨k, (Nat.toDigits 10 k).length, point⟩

end Binary64

/-- How digits and exponent are written. -/
structure FloatFormat where
  /-- The places of the point between which the number is written out. -/
  leastPoint : Int
  greatestPoint : Int
  /-- The least number of digits of an exponent, and the sign of one that is positive. -/
  exponentWidth : Nat
  plus : Text
  /-- The texts of infinity and of the value that is not a number. -/
  infinity : Text
  nan : Text

namespace FloatFormat

/-- Digits with the point among them, or in front of or behind them with zeros between. -/
def positional (d : Digits) : Text :=
  let t := Text.ofNat d.digits
  if d.point ≤ 0 then "0." ++ List.replicate (-d.point).toNat '0' ++ t
  else if d.point.toNat < t.length then
    t.take d.point.toNat ++ "." ++ t.drop d.point.toNat
  else t ++ List.replicate (d.point.toNat - t.length) '0' ++ ".0"

/-- The sign of a number, which only a negative one has. -/
def signText (negative : Bool) : Text := if negative then ['-'] else []

/-- Digits with the point after the first of them, and an exponent. -/
def scientific (f : FloatFormat) (d : Digits) : Text :=
  let t := Text.ofNat d.digits
  let exponent := d.point - 1
  t.take 1 ++ (if t.length = 1 then [] else '.' :: t.drop 1) ++ "e" ++
    (if exponent < 0 then ['-'] else f.plus) ++ Text.padded f.exponentWidth exponent.natAbs

/-- The text of a number. -/
def text (f : FloatFormat) : Binary64 → Text
  | .nan => f.nan
  | .infinite negative => signText negative ++ f.infinity
  | .finite negative m p _ =>
    let magnitude : Text :=
      if m = 0 then "0.0".toList
      else
        let d := Binary64.shortest m p
        if f.leastPoint ≤ d.point ∧ d.point ≤ f.greatestPoint then positional d
        else f.scientific d
    signText negative ++ magnitude

end FloatFormat

/-- A number with one digit after the point; a half goes to the even neighbour. -/
def Binary64.oneDecimal : Binary64 → Text
  | .nan => "nan"
  | .infinite negative => FloatFormat.signText negative ++ "inf"
  | .finite negative m p _ =>
    let (num, den) := Binary64.ratio m p
    let tenths := roundHalfEven (num * 10) den
    FloatFormat.signText negative ++ Text.ofNat (tenths / 10) ++ "." ++ Text.ofNat (tenths % 10)

end LogSearch
