import LogSearch.Json.Value
import LogSearch.Text.Utf8

/-!
# Reading JSON

A reader takes a value off the front of its input and returns it with what is left.  The input
is a sequence of bytes, because a document can be wrong in two ways that are told apart: its
form is not JSON, or a text inside it is not UTF-8.  Whichever comes first in the document is
the fault.

The strict dialect is JSON.  The other one knows three more numbers, the infinities and the
one that is none, and lets a number be infinite that is too large.

Texts are read by a machine over bytes (`StringState`); values by recursion.  The first item of a
list begins where the reader of items begins, so two calls may share a byte, and no more than two:
twice the number of bytes of the document bounds the depth of calls (`read`).

The reader takes a document as deep as it is, and a number with as many digits as it has.  Decoders
in use have limits there.  What is decoded with one of them takes it as a `Decoder`, of which the
reader is an example (`decoder`).
-/

namespace LogSearch.Json

/-- What can be wrong with a document. -/
inductive Fault where
  | malformed
  | encoding (fault : Utf8.Fault)
deriving DecidableEq, Repr

/-- Which documents are accepted. -/
structure Dialect where
  /-- Infinities and the value that is no number are accepted. -/
  nonFinite : Bool

/-- The dialect that accepts JSON and nothing else. -/
def strict : Dialect := ⟨false⟩

/-- The dialect that accepts non-finite numbers. -/
def lenient : Dialect := ⟨true⟩

/-! ## Texts -/

/-- Where the reader stands inside a text. -/
inductive StringState where
  | plain
  /-- After a backslash. -/
  | escape
  /-- Inside the four digits of an escaped code unit: how many were read, their value, and the
  first half of a pair before them. -/
  | digits (count value : Nat) (high : Option Nat)
  /-- After the first half of a pair, before the backslash and before the letter. -/
  | pairBackslash (high : Nat)
  | pairLetter (high : Nat)
deriving DecidableEq, Repr

/-- What a byte does to the reading of a text. -/
inductive StringStep where
  | next (output : Bytes) (state : StringState)
  | finished
  | refused
deriving DecidableEq, Repr

/-- The value of a hexadecimal digit. -/
def hexValue? (b : UInt8) : Option Nat :=
  let n := b.toNat
  if 48 ≤ n ∧ n ≤ 57 then some (n - 48)
  else if 97 ≤ n ∧ n ≤ 102 then some (n - 87)
  else if 65 ≤ n ∧ n ≤ 70 then some (n - 55)
  else none

/-- What a complete code unit does: it is a code point, or the first or second half of one. -/
def unitStep (unit : Nat) (high : Option Nat) : StringStep :=
  let isHigh : Bool := 0xD800 ≤ unit && unit < 0xDC00
  let isLow : Bool := 0xDC00 ≤ unit && unit < 0xE000
  match high with
  | none =>
    if isHigh then .next [] (.pairBackslash unit)
    else if isLow then .refused
    else .next (Utf8.encodeNat unit) .plain
  | some h =>
    if isLow then
      .next (Utf8.encodeNat (0x10000 + (h - 0xD800) * 0x400 + (unit - 0xDC00))) .plain
    else .refused

/-- What the byte after a backslash does. -/
def escapeStep (n : Nat) : StringStep :=
  if n = 34 ∨ n = 92 ∨ n = 47 then .next [n.toUInt8] .plain
  else if n = 98 then .next [8] .plain
  else if n = 102 then .next [12] .plain
  else if n = 110 then .next [10] .plain
  else if n = 114 then .next [13] .plain
  else if n = 116 then .next [9] .plain
  else if n = 117 then .next [] (.digits 0 0 none)
  else .refused

/-- What the next byte does. -/
def StringState.step (s : StringState) (b : UInt8) : StringStep :=
  let n := b.toNat
  match s with
  | .plain =>
    if n = 34 then .finished
    else if n = 92 then .next [] .escape
    else if n < 32 then .refused
    else .next [b] .plain
  | .escape => escapeStep n
  | .digits count value high =>
    match hexValue? b with
    | none => .refused
    | some d =>
      if count = 3 then unitStep (value * 16 + d) high
      else .next [] (.digits (count + 1) (value * 16 + d) high)
  | .pairBackslash high => if n = 92 then .next [] (.pairLetter high) else .refused
  | .pairLetter high => if n = 117 then .next [] (.digits 0 0 (some high)) else .refused

/-- The bytes of a text up to its closing quote, and what follows that. -/
def stringBytes : StringState → Bytes → Except Fault (Bytes × Bytes)
  | _, [] => .error .malformed
  | s, b :: rest =>
    match s.step b with
    | .finished => .ok ([], rest)
    | .refused => .error .malformed
    | .next output state => (stringBytes state rest).map fun r => (output ++ r.1, r.2)

/-- The text whose opening quote has been read, and what follows its closing quote. -/
def readString (input : Bytes) : Except Fault (Text × Bytes) := do
  let (bytes, rest) ← stringBytes .plain input
  let text ← (Utf8.decode bytes).mapError .encoding
  return (text, rest)

/-! ## Numbers -/

/-- The byte is a decimal digit. -/
def isDigit (b : UInt8) : Bool := 48 ≤ b.toNat && b.toNat ≤ 57

/-- The number that digits denote. -/
def digitsValue (digits : Bytes) : Nat := digits.foldl (fun n b => 10 * n + (b.toNat - 48)) 0

/-- The fraction of a number, if there is one: its digits, which may be none where no point is,
and what follows. -/
def readFraction (input : Bytes) : Except Fault (Bytes × Bytes) :=
  match input with
  | [] => .ok ([], [])
  | b :: rest =>
    if b.toNat = 46 then
      let digits := rest.takeWhile isDigit
      if digits = [] then .error .malformed else .ok (digits, rest.dropWhile isDigit)
    else .ok ([], input)

/-- The exponent of a number, if there is one, and what follows. -/
def readExponent (input : Bytes) : Except Fault (Option Int × Bytes) :=
  match input with
  | [] => .ok (none, [])
  | b :: rest =>
    if b.toNat = 101 ∨ b.toNat = 69 then
      let (negative, rest) : Bool × Bytes :=
        match rest with
        | [] => (false, [])
        | sign :: more =>
          if sign.toNat = 45 then (true, more)
          else if sign.toNat = 43 then (false, more)
          else (false, rest)
      let digits := rest.takeWhile isDigit
      if digits = [] then .error .malformed
      else
        let n : Int := digitsValue digits
        .ok (some (if negative then -n else n), rest.dropWhile isDigit)
    else .ok (none, input)

/-- The number with the given sign, and what follows it.  A number with a fraction or an
exponent is a floating-point number, and any other an integer. -/
def readNumber (d : Dialect) (negative : Bool) (input : Bytes) : Except Fault (Json × Bytes) := do
  let whole := input.takeWhile isDigit
  let rest := input.dropWhile isDigit
  if whole = [] ∨ (1 < whole.length ∧ whole.head? = some 48) then throw .malformed
  let (fraction, rest) ← readFraction rest
  let (exponent, rest) ← readExponent rest
  if fraction = [] ∧ exponent = none then
    let n : Int := digitsValue whole
    return (.int (if negative then -n else n), rest)
  else
    let x := Binary64.ofDecimal negative (digitsValue (whole ++ fraction))
      (exponent.getD 0 - fraction.length)
    if x = .infinite negative ∧ !d.nonFinite then throw .malformed
    return (.float x, rest)

/-! ## Values -/

/-- The byte is white space between the parts of a document. -/
def isSpace (b : UInt8) : Bool := b = 32 || b = 9 || b = 10 || b = 13

/-- The input after a word that it begins with. -/
def word? (word : String) (input : Bytes) : Option Bytes :=
  let bytes := Utf8.encode word.toList
  if bytes.isPrefixOf input then some (input.drop bytes.length) else none

/-- A value that is written as a word or a number. -/
def readScalar (d : Dialect) (input : Bytes) : Except Fault (Json × Bytes) :=
  match word? "null" input, word? "true" input, word? "false" input with
  | some rest, _, _ => .ok (.null, rest)
  | _, some rest, _ => .ok (.bool true, rest)
  | _, _, some rest => .ok (.bool false, rest)
  | none, none, none =>
    let (negative, unsigned) : Bool × Bytes :=
      match word? "-" input with
      | some rest => (true, rest)
      | none => (false, input)
    match d.nonFinite, word? "Infinity" unsigned, word? "NaN" input with
    | true, some rest, _ => .ok (.float (.infinite negative), rest)
    | true, none, some rest => .ok (.float .nan, rest)
    | _, _, _ => readNumber d negative unsigned

mutual

/-- The value at the front of the input, with white space before it or not. -/
def readValue (d : Dialect) : Nat → Bytes → Except Fault (Json × Bytes)
  | 0, _ => .error .malformed
  | fuel + 1, input =>
    match input.dropWhile isSpace with
    | [] => .error .malformed
    | b :: rest =>
      if b.toNat = 34 then do
        let (t, rest) ← readString rest
        return (.text t, rest)
      else if b.toNat = 91 then
        match rest.dropWhile isSpace with
        | [] => .error .malformed
        | c :: more =>
          if c.toNat = 93 then .ok (.list [], more)
          else do
            let (items, rest) ← readItems d fuel rest
            return (.list items, rest)
      else if b.toNat = 123 then
        match rest.dropWhile isSpace with
        | [] => .error .malformed
        | c :: more =>
          if c.toNat = 125 then .ok (.object [], more)
          else do
            let (members, rest) ← readMembers d fuel [] rest
            return (.object members, rest)
      else readScalar d (b :: rest)

/-- The items of a list up to its closing bracket; there is at least one. -/
def readItems (d : Dialect) : Nat → Bytes → Except Fault (List Json × Bytes)
  | 0, _ => .error .malformed
  | fuel + 1, input => do
    let (item, rest) ← readValue d fuel input
    match rest.dropWhile isSpace with
    | [] => .error .malformed
    | b :: rest =>
      if b.toNat = 44 then do
        let (items, rest) ← readItems d fuel rest
        return (item :: items, rest)
      else if b.toNat = 93 then return ([item], rest)
      else .error .malformed

/-- The members of an object up to its closing brace; there is at least one.  Those already
read are given. -/
def readMembers (d : Dialect) :
    Nat → List (Text × Json) → Bytes → Except Fault (List (Text × Json) × Bytes)
  | 0, _, _ => .error .malformed
  | fuel + 1, before, input =>
    match input.dropWhile isSpace with
    | [] => .error .malformed
    | q :: rest =>
      if q.toNat = 34 then do
        let (key, rest) ← readString rest
        match rest.dropWhile isSpace with
        | [] => .error .malformed
        | colon :: rest =>
          if colon.toNat = 58 then do
            let (value, rest) ← readValue d fuel rest
            let members := put key value before
            match rest.dropWhile isSpace with
            | [] => .error .malformed
            | b :: rest =>
              if b.toNat = 44 then readMembers d fuel members rest
              else if b.toNat = 125 then return (members, rest)
              else .error .malformed
          else .error .malformed
      else .error .malformed

end

/-- The value that a document is, with white space around it or not. -/
def read (d : Dialect) (input : Bytes) : Except Fault Json := do
  let (value, rest) ← readValue d (2 * input.length + 1) input
  if rest.all isSpace then return value else throw .malformed

/-- The value that a text is.  A text is always valid UTF-8, so there is one fault only. -/
def readText? (d : Dialect) (t : Text) : Option Json := (read d (Utf8.encode t)).toOption

/-! ## Decoders -/

/-- What comes of a document that is not decoded. -/
inductive DecodeFault where
  /-- The decoder refuses it. -/
  | refused
  /-- The decoder breaks off with a fault that is not its own, and a text about that. -/
  | broken (message : Text)
deriving DecidableEq, Repr

/-- Something that decodes documents. -/
abbrev Decoder := Bytes → Except DecodeFault Json

/-- The decoder without limits.  It breaks off at a text that is not UTF-8. -/
def decoder : Decoder := fun input =>
  (read strict input).mapError fun
    | .malformed => .refused
    | .encoding fault => .broken fault.message

end LogSearch.Json
