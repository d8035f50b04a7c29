import LogSearch.Json.Reader

/-!
# The grammar of documents

JSON is written down here as it is documented, apart from the reader:

* element := space value space
* value := null | true | false | number | text | [ items ] | [ space ] | { members } | { space }
* items := element | element , items
* members := member | member , members
* member := space text space : element

A phrase is said to stand at the front of some bytes, with the rest of them behind it
(`Derives form input rest`), and the form has what the phrase means.  Nothing in this says how far
a phrase is to be read, in which order, or when to give up.

The grammar is that of the strict dialect, and `read_eq_ok_iff` says that its reader accepts the
documents of the grammar and no others, with the meaning that the grammar gives them.
-/

namespace LogSearch.Json

/-! ## Space -/

/-- White space leads from the input to the rest. -/
inductive Space : Bytes → Bytes → Prop
  | none {rest : Bytes} : Space rest rest
  | more {b : UInt8} {input rest : Bytes} (hb : isSpace b) (h : Space input rest) :
    Space (b :: input) rest

/-! ## Texts -/

/-- The bytes that have an escape with a letter, each after its letter. -/
def escapes : List (UInt8 × UInt8) :=
  [(34, 34), (92, 92), (47, 47), (98, 8), (102, 12), (110, 10), (114, 13), (116, 9)]

/-- Four hexadecimal digits stand in front of the rest and denote the number. -/
inductive CodeUnit : Bytes → Nat → Bytes → Prop
  | digits {a b c d : UInt8} {k l m n : Nat} {rest : Bytes} (ha : hexValue? a = some k)
      (hb : hexValue? b = some l) (hc : hexValue? c = some m) (hd : hexValue? d = some n) :
    CodeUnit (a :: b :: c :: d :: rest) (((k * 16 + l) * 16 + m) * 16 + n) rest

/-- The number is the first half of a pair that denotes one code point. -/
def IsHigh (n : Nat) : Prop := 0xD800 ≤ n ∧ n < 0xDC00

/-- The number is the second half of such a pair. -/
def IsLow (n : Nat) : Prop := 0xDC00 ≤ n ∧ n < 0xE000

/-- The code point that a pair denotes. -/
def pairValue (high low : Nat) : Nat := 0x10000 + (high - 0xD800) * 0x400 + (low - 0xDC00)

/-- The input spells the bytes up to a quote, and the rest comes after the quote.  A byte is written
as it is, as an escape with a letter, or, with the others of its code point, as an escape with the
number of the code point, which takes one code unit or a pair of them. -/
inductive Spells : Bytes → Bytes → Bytes → Prop
  | quote {rest : Bytes} : Spells (34 :: rest) [] rest
  | plain {b : UInt8} {input bytes rest : Bytes} (hcontrol : 32 ≤ b.toNat) (hquote : b ≠ 34)
      (hbackslash : b ≠ 92) (h : Spells input bytes rest) : Spells (b :: input) (b :: bytes) rest
  | escaped {letter b : UInt8} {input bytes rest : Bytes} (hletter : escapes.lookup letter = some b)
      (h : Spells input bytes rest) : Spells (92 :: letter :: input) (b :: bytes) rest
  | unit {n : Nat} {digits input bytes rest : Bytes} (hunit : CodeUnit digits n input)
      (hhigh : ¬ IsHigh n) (hlow : ¬ IsLow n) (h : Spells input bytes rest) :
    Spells (92 :: 117 :: digits) (Utf8.encodeNat n ++ bytes) rest
  | pair {high low : Nat} {digits more input bytes rest : Bytes}
      (hunit : CodeUnit digits high (92 :: 117 :: more)) (hhigh : IsHigh high)
      (hunit' : CodeUnit more low input) (hlow : IsLow low) (h : Spells input bytes rest) :
    Spells (92 :: 117 :: digits) (Utf8.encodeNat (pairValue high low) ++ bytes) rest

/-! ## Numbers -/

/-- One digit or more. -/
def IsDigits (digits : Bytes) : Prop := digits ≠ [] ∧ ∀ b ∈ digits, isDigit b

/-- Digits of a whole number, which are not filled up with zeros. -/
def IsWhole (digits : Bytes) : Prop :=
  IsDigits digits ∧ (digits.head? = some 48 → digits = [48])

/-- A sign, or none. -/
def sign (negative : Bool) : Bytes := if negative then [45] else []

/-- A fraction with its digits, or none. -/
inductive IsFraction : Bytes → Bytes → Prop
  | none : IsFraction [] []
  | point {digits : Bytes} (h : IsDigits digits) : IsFraction (46 :: digits) digits

/-- An exponent with its value, or none. -/
inductive IsExponent : Bytes → Option Int → Prop
  | none : IsExponent [] none
  | plain {letter : UInt8} {digits : Bytes} (hletter : letter = 101 ∨ letter = 69)
      (h : IsDigits digits) : IsExponent (letter :: digits) (some (digitsValue digits))
  | plus {letter : UInt8} {digits : Bytes} (hletter : letter = 101 ∨ letter = 69)
      (h : IsDigits digits) : IsExponent (letter :: 43 :: digits) (some (digitsValue digits))
  | minus {letter : UInt8} {digits : Bytes} (hletter : letter = 101 ∨ letter = 69)
      (h : IsDigits digits) : IsExponent (letter :: 45 :: digits) (some (-digitsValue digits))

/-- A number: an integer, or with a fraction or an exponent or both the floating-point number
nearest to it, which has to be finite. -/
inductive IsNumber : Bytes → Json → Prop
  | integer (negative : Bool) {whole : Bytes} (hwhole : IsWhole whole) :
    IsNumber (sign negative ++ whole)
      (.int (if negative then -digitsValue whole else digitsValue whole))
  | float (negative : Bool) {whole fraction digits exponent : Bytes} {e : Option Int} {x : Binary64}
      (hwhole : IsWhole whole) (hfraction : IsFraction fraction digits)
      (hexponent : IsExponent exponent e) (hsome : ¬ (digits = [] ∧ e = none))
      (hx : x = Binary64.ofDecimal negative (digitsValue (whole ++ digits))
        (e.getD 0 - digits.length)) (hfinite : x ≠ .infinite negative) :
    IsNumber (sign negative ++ (whole ++ (fraction ++ exponent))) (.float x)

/-! ## Values -/

/-- The forms of the parts of a document, each with what it means. -/
inductive Form where
  | value (j : Json)
  | element (j : Json)
  | items (js : List Json)
  | member (key : Text) (j : Json)
  | members (ms : List (Text × Json))

/-- The members of an object, in addition to those before.  If a key is given twice, it has the
place of the first and the value of the last. -/
def collect (before ms : List (Text × Json)) : List (Text × Json) :=
  ms.foldl (fun before m => put m.1 m.2 before) before

/-- At the front of the input stands a phrase of the form, and the rest comes behind it. -/
inductive Derives : Form → Bytes → Bytes → Prop
  | nullWord {rest : Bytes} : Derives (.value .null) (Utf8.encode "null".toList ++ rest) rest
  | trueWord {rest : Bytes} : Derives (.value (.bool true)) (Utf8.encode "true".toList ++ rest) rest
  | falseWord {rest : Bytes} :
    Derives (.value (.bool false)) (Utf8.encode "false".toList ++ rest) rest
  | number {number rest : Bytes} {j : Json} (h : IsNumber number j) :
    Derives (.value j) (number ++ rest) rest
  | text {t : Text} {input rest : Bytes} (h : Spells input (Utf8.encode t) rest) :
    Derives (.value (.text t)) (34 :: input) rest
  | emptyList {input rest : Bytes} (h : Space input (93 :: rest)) :
    Derives (.value (.list [])) (91 :: input) rest
  | list {js : List Json} {input rest : Bytes} (h : Derives (.items js) input (93 :: rest)) :
    Derives (.value (.list js)) (91 :: input) rest
  | emptyObject {input rest : Bytes} (h : Space input (125 :: rest)) :
    Derives (.value (.object [])) (123 :: input) rest
  | object {ms : List (Text × Json)} {input rest : Bytes}
      (h : Derives (.members ms) input (125 :: rest)) :
    Derives (.value (.object (collect [] ms))) (123 :: input) rest
  | element {j : Json} {input start finish rest : Bytes} (hbefore : Space input start)
      (h : Derives (.value j) start finish) (hafter : Space finish rest) :
    Derives (.element j) input rest
  | lastItem {j : Json} {input rest : Bytes} (h : Derives (.element j) input rest) :
    Derives (.items [j]) input rest
  | nextItem {j : Json} {js : List Json} {input more rest : Bytes}
      (h : Derives (.element j) input (44 :: more)) (hmore : Derives (.items js) more rest) :
    Derives (.items (j :: js)) input rest
  | member {key : Text} {j : Json} {input literal after value rest : Bytes}
      (hbefore : Space input (34 :: literal)) (hkey : Spells literal (Utf8.encode key) after)
      (hafter : Space after (58 :: value)) (h : Derives (.element j) value rest) :
    Derives (.member key j) input rest
  | lastMember {key : Text} {j : Json} {input rest : Bytes}
      (h : Derives (.member key j) input rest) : Derives (.members [(key, j)]) input rest
  | nextMember {key : Text} {j : Json} {ms : List (Text × Json)} {input more rest : Bytes}
      (h : Derives (.member key j) input (44 :: more)) (hmore : Derives (.members ms) more rest) :
    Derives (.members ((key, j) :: ms)) input rest

/-- The bytes are a document of JSON that means the value. -/
def IsDocument (input : Bytes) (j : Json) : Prop := Derives (.element j) input []

end LogSearch.Json
