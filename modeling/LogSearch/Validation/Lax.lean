import LogSearch.Json.Value
import LogSearch.Text.Basic
import LogSearch.Validation.Problem

/-!
# Lenient reading of values

Settings are given as texts more often than not, and so are numbers in requests.  The readers
here take a value in any form in which it can be meant: an integer as an integer, as a number
without fraction, as a truth value or as a text; a truth value as one of a few words or as 0 or
1; a number as an integer or as a text.

An integer in a text may have a sign, zeros in front, single underscores between its digits,
and a fraction of zeros; a number may have single underscores anywhere inside.  White space
around an integer is ignored, and so is white space around a number without underscores.
-/

namespace LogSearch.Validation

/-- White space that a number may have around it: all but the information separators. -/
def isPadding (c : Char) : Bool := Text.isBlank c && !(0x1C ≤ c.toNat && c.toNat ≤ 0x1F)

/-! ## Numbers that are integers -/

/-- The least and the greatest integer in a word of 64 bits. -/
def leastWord : Int := -0x8000000000000000

@[inherit_doc leastWord]
def greatestWord : Int := 0x7FFFFFFFFFFFFFFF

/-- The integer that a number is.  It has to fit a word; the number that is one above the
greatest word is taken for the greatest word, which is no number of its own. -/
def wordOf (x : Binary64) : Checked Int :=
  match x with
  | .finite _ _ _ _ =>
    match x.toInt? with
    | none => .fail .fractional
    | some n =>
      if leastWord ≤ n ∧ n ≤ greatestWord + 1 then .ok (min n greatestWord)
      else .fail .integerTooLarge
  | _ => .fail .notFinite

/-! ## Truth values -/

/-- The lower case of the ASCII letters. -/
def asciiLower (t : Text) : Text := t.map Char.toLower

/-- The words for true and for false, in lower case. -/
def trueWords : List Text := ["true", "1", "on", "t", "yes", "y"].map String.toList

@[inherit_doc trueWords]
def falseWords : List Text := ["false", "0", "off", "f", "no", "n"].map String.toList

/-- The truth value that an integer stands for. -/
def boolOfInt (n : Int) : Checked Bool :=
  if n = 0 then .ok false else if n = 1 then .ok true else .fail .booleanText

/-- Reads a truth value. -/
def readBool : Json → Checked Bool
  | .bool b => .ok b
  | .text t =>
    if asciiLower t ∈ trueWords then .ok true
    else if asciiLower t ∈ falseWords then .ok false
    else .fail .booleanText
  | .int n => if leastWord ≤ n ∧ n ≤ greatestWord then boolOfInt n else .fail .notBoolean
  | .float x =>
    match wordOf x with
    | .ok n => boolOfInt n
    | .error _ => .fail .notBoolean
  | _ => .fail .notBoolean

/-! ## Integers -/

/-- Two underscores stand next to each other. -/
def hasDoubleUnderscore : Text → Bool
  | '_' :: '_' :: _ => true
  | _ :: rest => hasDoubleUnderscore rest
  | [] => false

/-- The text without the underscores in it, if they are single and inside. -/
def dropUnderscores? (t : Text) : Option Text :=
  if t.head? = some '_' ∨ t.getLast? = some '_' ∨ hasDoubleUnderscore t then none
  else some (t.filter (· ≠ '_'))

/-- The digits of a text that begins with a zero, from the first digit other than zero on.
Underscores among the zeros are passed over.  A text of zeros gives its last character. -/
def dropLeadingZeros : Text → Option Text
  | [] => none
  | '0' :: rest => skip '0' rest
  | c :: rest => if '1' ≤ c ∧ c ≤ '9' then some (c :: rest) else none
where
  skip (last : Char) : Text → Option Text
    | [] => some [last]
    | c :: rest =>
      if c = '0' ∨ c = '_' then skip c rest
      else if '1' ≤ c ∧ c ≤ '9' then some (c :: rest)
      else if c = '.' then some (last :: c :: rest)
      else none

/-- The text without a fraction that consists of zeros. -/
def dropZeroFraction (t : Text) : Text :=
  match Text.cutAt? '.' t with
  | some (whole, fraction) => if fraction.all (· = '0') then whole else t
  | none => t

/-- The natural number that a text without sign denotes. -/
def unsigned? (t : Text) : Option Nat := do
  let digits ← dropUnderscores? (dropZeroFraction (← dropLeadingZeros t))
  Text.toNat? digits

/-- The integer that a text denotes. -/
def integer? (t : Text) : Option Int :=
  match t with
  | '+' :: rest => (unsigned? rest).map fun n => (n : Int)
  | '-' :: rest => (unsigned? rest).map fun n => -(n : Int)
  | _ => (unsigned? t).map fun n => (n : Int)

/-- The greatest number of characters of an integer. -/
def longestInteger : Nat := 4300

/-- Reads an integer. -/
def readInt : Json → Checked Int
  | .int n => .ok n
  | .bool b => .ok (if b then 1 else 0)
  | .float x => wordOf x
  | .text t =>
    let t := t.trimBy isPadding
    if longestInteger < t.length then .fail .integerTooLarge
    else
      match integer? t with
      | some n => .ok n
      | none => .fail .integerText
  | _ => .fail .notInteger

/-! ## Numbers -/

/-- The digits in front of a text, and the rest. -/
def takeDigits (t : Text) : Text × Text :=
  (t.takeWhile Char.isDigit, t.dropWhile Char.isDigit)

/-- The exponent that is the whole of a text; none at all is zero. -/
def exponent? : Text → Option Int
  | [] => some 0
  | e :: rest =>
    if e = 'e' ∨ e = 'E' then
      match rest with
      | '-' :: digits => (Text.toNat? digits).map fun n => -(n : Int)
      | '+' :: digits => (Text.toNat? digits).map fun n => (n : Int)
      | digits => (Text.toNat? digits).map fun n => (n : Int)
    else none

/-- The number that a text without sign denotes. -/
def magnitude? (negative : Bool) (t : Text) : Option Binary64 :=
  let word := asciiLower t
  if word = "inf".toList ∨ word = "infinity".toList then some (.infinite negative)
  else if word = "nan".toList then some .nan
  else
    let (whole, rest) := takeDigits t
    let (fraction, rest) :=
      match rest with
      | '.' :: more => takeDigits more
      | _ => ([], rest)
    if whole = [] ∧ fraction = [] then none
    else do
      let e ← exponent? rest
      let n ← Text.toNat? (whole ++ fraction)
      return Binary64.ofDecimal negative n (e - fraction.length)

/-- The number that a text denotes. -/
def number? (t : Text) : Option Binary64 :=
  match t with
  | '+' :: rest => magnitude? false rest
  | '-' :: rest => magnitude? true rest
  | _ => magnitude? false t

/-- Reads a number. -/
def readNumber : Json → Checked Binary64
  | .float x => .ok x
  | .int n =>
    match Binary64.ofInt n with
    | .infinite _ => .fail .notNumber
    | x => .ok x
  | .bool b => .ok (Binary64.ofInt (if b then 1 else 0))
  | .text t =>
    match number? (t.trimBy isPadding) <|> (dropUnderscores? t).bind number? with
    | some x => .ok x
    | none => .fail .numberText
  | _ => .fail .notNumber

/-- The number is above zero, or is none. -/
def isAboveZero (x : Binary64) : Bool := !x.isNegative && !x.isZero

/-! ## Texts -/

/-- Reads a text; nothing else is taken for one. -/
def readText : Json → Checked Text
  | .text t => .ok t
  | _ => .fail .notText

/-- Reads a text that may be absent. -/
def readText? : Json → Checked (Option Text)
  | .null => .ok none
  | j => (readText j).map some

/-- Reads a list of texts. -/
def readTexts : Json → Checked (List Text)
  | .list js => Checked.items readText 0 js
  | _ => .fail .notList

/-- Reads one of the given texts. -/
def readChoice (choices : List Text) : Json → Checked Text
  | .text t => if t ∈ choices then .ok t else .fail (.notAmong choices)
  | _ => .fail (.notAmong choices)

/-! ## Members -/

/-- The value of a member, or the default if there is no such member. -/
def member {α : Type} (members : List (Text × Json)) (key : Text) (default : α)
    (read : Json → Checked α) : Checked α :=
  match Json.find? members key with
  | none => .ok default
  | some j => Checked.under (.member key) (read j)

end LogSearch.Validation
