import LogSearch.Json.Value
import LogSearch.Number.Shortest
import LogSearch.Text.Printable

/-!
# Showing JSON values

Values in places where a text is expected are shown in a form for readers: a text as it is,
and everything else with spaces after commas and colons, texts inside in quotes, and words
that begin with a capital letter for null and the truth values.

A text in quotes is shown in single ones, or in double ones if that avoids a backslash: when it
holds single quotes and no double ones.  A backslash stands before every backslash and before
the quote in use.  Line feed, carriage return and tab have escapes of their own, and all other
characters that are not printable are shown by their code point in the shortest of three
hexadecimal forms.
-/

namespace LogSearch

namespace Text

/-- The hexadecimal escape of a code point. -/
def codePointEscape (n : Nat) : Text :=
  if n < 0x100 then "\\x" ++ hex 2 n
  else if n < 0x10000 then "\\u" ++ hex 4 n
  else "\\U" ++ hex 8 n

/-- One character inside the given quotes. -/
def quotedChar (quote c : Char) : Text :=
  if c = quote ∨ c = '\\' then ['\\', c]
  else if c = '\n' then "\\n"
  else if c = '\r' then "\\r"
  else if c = '\t' then "\\t"
  else if isPrintable c then [c]
  else codePointEscape c.toNat

/-- The quotes for a text. -/
def quoteFor (t : Text) : Char := if '\'' ∈ t ∧ '"' ∉ t then '"' else '\''

/-- The text in quotes. -/
def quoted (t : Text) : Text :=
  let quote := quoteFor t
  quote :: t.flatMap (quotedChar quote) ++ [quote]

end Text

namespace Json

/-- Numbers are shown written out when their point is at most sixteen places to the right of
the first digit or four to the left; exponents have a sign and at least two digits. -/
def displayFormat : FloatFormat := ⟨-3, 16, 2, "+", "inf", "nan"⟩

mutual

/-- A value inside another value. -/
def displayInner : Json → Text
  | .null => "None"
  | .bool true => "True"
  | .bool false => "False"
  | .int n => Text.ofInt n
  | .float x => displayFormat.text x
  | .text t => Text.quoted t
  | .list items => '[' :: displayItems items ++ [']']
  | .object members => '\x7b' :: displayMembers members ++ ['\x7d']

/-- The items of a list. -/
def displayItems : List Json → Text
  | [] => []
  | [j] => displayInner j
  | j :: rest => displayInner j ++ ", " ++ displayItems rest

/-- The members of an object. -/
def displayMembers : List (Text × Json) → Text
  | [] => []
  | [(k, j)] => Text.quoted k ++ ": " ++ displayInner j
  | (k, j) :: rest => Text.quoted k ++ ": " ++ displayInner j ++ ", " ++ displayMembers rest

end

/-- A value that stands by itself. -/
def display : Json → Text
  | .text t => t
  | j => displayInner j

/-- A list of texts, as it is shown. -/
def displayTexts (ts : List Text) : Text := displayInner (.list (ts.map .text))

end Json

end LogSearch
