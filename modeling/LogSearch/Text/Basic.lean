/-!
# Text

Every text that the project reads or writes is a list of characters, so that a rule about
text is a recursion on its characters and a position is a number of characters.

Here are trimming, cutting, splitting and joining, the writing of numbers in digits, and what
counts as blank.  Letters, numerals, letter case and what can be printed are in the modules beside
this one.

A character is a code point that is no surrogate.  So a text with a surrogate that stands alone,
which some programs allow, is none here.
-/

namespace LogSearch

/-- A text, as the list of its characters. -/
abbrev Text := List Char

instance : Coe String Text := ⟨String.toList⟩

namespace Text

/-- The text less the characters at both ends that satisfy the test. -/
def trimBy (drop : Char → Bool) (t : Text) : Text :=
  ((t.dropWhile drop).reverse.dropWhile drop).reverse

/-- The text less the characters at its end that satisfy the test. -/
def trimEndBy (drop : Char → Bool) (t : Text) : Text :=
  (t.reverse.dropWhile drop).reverse

/-- The part before the first occurrence of `c` and the part after it. -/
def cutAt? (c : Char) : Text → Option (Text × Text)
  | [] => none
  | d :: rest =>
    if d = c then some ([], rest) else (cutAt? c rest).map fun p => (d :: p.1, p.2)

/-- The pieces between the occurrences of `c`; always at least one. -/
def splitAt (c : Char) : Text → List Text
  | [] => [[]]
  | d :: rest =>
    if d = c then [] :: splitAt c rest
    else match splitAt c rest with
      | [] => [[d]]
      | piece :: pieces => (d :: piece) :: pieces

/-- The pieces with a separator between neighbours. -/
def join (separator : Text) : List Text → Text
  | [] => []
  | [t] => t
  | t :: rest => t ++ separator ++ join separator rest

/-- The rest of the text after `start`, if it begins with it. -/
def after? (start : Text) (t : Text) : Option Text :=
  if start.isPrefixOf t then some (t.drop start.length) else none

/-- A natural number in decimal digits. -/
def ofNat (n : Nat) : Text := Nat.toDigits 10 n

/-- An integer in decimal digits, with a minus sign when it is negative. -/
def ofInt : Int → Text
  | .ofNat n => ofNat n
  | .negSucc n => '-' :: ofNat (n + 1)

/-- A natural number in decimal, with zeros in front up to `width` digits. -/
def padded (width n : Nat) : Text :=
  let digits := ofNat n
  List.replicate (width - digits.length) '0' ++ digits

/-- The digit that stands for a value below sixteen, in lower case. -/
def hexDigit (n : Nat) : Char :=
  if n < 10 then Char.ofNat (48 + n) else Char.ofNat (87 + n)

/-- The lowest `width` hexadecimal digits of a number, in lower case. -/
def hex : Nat → Nat → Text
  | 0, _ => []
  | width + 1, n => hex width (n / 16) ++ [hexDigit (n % 16)]

/-- The value of an ASCII decimal digit. -/
def digitValue? (c : Char) : Option Nat :=
  if '0' ≤ c ∧ c ≤ '9' then some (c.toNat - 48) else none

/-- The number that a non-empty run of ASCII decimal digits denotes. -/
def toNat? : Text → Option Nat
  | [] => none
  | t => t.foldl (fun n c => do return 10 * (← n) + (← digitValue? c)) (some 0)

/-! ## Sets of characters

A property of characters that no short rule describes is given by a table. -/

/-- Closed ranges of code points, in increasing order and apart from each other. -/
abbrev Ranges := List (Nat × Nat)

/-- The code point lies in one of the ranges.  The search ends at the first range that
begins above it. -/
def Ranges.contains : Ranges → Nat → Bool
  | [], _ => false
  | (low, high) :: rest, n =>
    if n < low then false else if n ≤ high then true else Ranges.contains rest n

/-! ## White space

The characters that separate the words of a query or of a log line.  Besides the separators of
Unicode these are the ASCII layout characters and the four information separators U+001C to
U+001F. -/

/-- The code points of the blank characters. -/
def blanks : Ranges :=
  [(0x9, 0xD), (0x1C, 0x20), (0x85, 0x85), (0xA0, 0xA0), (0x1680, 0x1680), (0x2000, 0x200A),
  (0x2028, 0x2029), (0x202F, 0x202F), (0x205F, 0x205F), (0x3000, 0x3000)]

/-- The character is white space. -/
def isBlank (c : Char) : Bool := blanks.contains c.toNat

/-- The text less the white space at both ends. -/
def strip (t : Text) : Text := t.trimBy isBlank

/-- The text holds white space only. -/
def isBlankText (t : Text) : Bool := t.all isBlank

/-- The white space of ASCII: space, tab, line feed, carriage return, and the vertical and form
feeds. -/
def isAsciiBlank (c : Char) : Bool :=
  c == ' ' || (9 ≤ c.toNat && c.toNat ≤ 13)

end Text

end LogSearch
