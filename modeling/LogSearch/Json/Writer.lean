import LogSearch.Json.Value
import LogSearch.Number.Shortest

/-!
# Writing JSON

Values are written without any white space.  Inside a text the quote, the backslash and the
characters below the space are escaped, and all others stand for themselves; so a written
value holds no line feed and takes one line.
-/

namespace LogSearch.Json

/-- Numbers are written out when their point is at most fifteen places to the right of the
first digit or five to the left.  There is no text for infinity or for what is no number; they
are written as null. -/
def floatFormat : FloatFormat := ⟨-4, 16, 1, [], "null", "null"⟩

/-- One character inside a text. -/
def escapeChar (c : Char) : Text :=
  if c = '"' then ['\\', '"']
  else if c = '\\' then ['\\', '\\']
  else if c = Char.ofNat 8 then ['\\', 'b']
  else if c = Char.ofNat 12 then ['\\', 'f']
  else if c = '\n' then ['\\', 'n']
  else if c = '\r' then ['\\', 'r']
  else if c = '\t' then ['\\', 't']
  else if c.toNat < 0x20 then ['\\', 'u'] ++ Text.hex 4 c.toNat
  else [c]

/-- A text in quotes. -/
def writeText (t : Text) : Text := '"' :: t.flatMap escapeChar ++ ['"']

mutual

/-- A value. -/
def write : Json → Text
  | .null => "null"
  | .bool true => "true"
  | .bool false => "false"
  | .int n => Text.ofInt n
  | .float x => if x = .infinite true then "null" else floatFormat.text x
  | .text t => writeText t
  | .list items => '[' :: writeItems items ++ [']']
  | .object members => '\x7b' :: writeMembers members ++ ['\x7d']

/-- The items of a list, with commas between them. -/
def writeItems : List Json → Text
  | [] => []
  | [j] => write j
  | j :: rest => write j ++ [','] ++ writeItems rest

/-- The members of an object, with commas between them. -/
def writeMembers : List (Text × Json) → Text
  | [] => []
  | [(k, j)] => writeText k ++ [':'] ++ write j
  | (k, j) :: rest => writeText k ++ [':'] ++ write j ++ [','] ++ writeMembers rest

end

end LogSearch.Json
