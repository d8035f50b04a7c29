import LogSearch.Json.Value
import LogSearch.Text.Basic
import LogSearch.Text.Case
import LogSearch.Text.Letters
import LogSearch.Time.Timestamp

/-!
# Documents and the lines that they are read from

A document is a line of a log in the shape in which it is kept in the index.

Log lines have no fixed form.  A line may begin with a timestamp, in brackets or not, and go on
with a level, which is any text in brackets or a word of letters:

    2024-01-01T10:00:00Z ERROR something broke
    [2024-01-01T10:00:00Z] [warn] disk almost full
    INFO started worker

Whatever cannot be taken for a timestamp or a level belongs to the message.  A line without a
timestamp is dated by the time at which it is read.
-/

namespace LogSearch

/-- A line of a log: when it was written, how grave it is if that is known, what it says, the
line itself and the file that it is from. -/
structure Document where
  timestamp : Instant
  level : Option Text
  message : Text
  raw : Text
  source : Text
deriving DecidableEq

/-- The members of a document as a JSON object.  An unknown level has no member. -/
def Document.members (d : Document) : List (Text × Json) :=
  [("timestamp".toList, .text d.timestamp.text)] ++
    (d.level.map fun l => ("level".toList, Json.text l)).toList ++
    [("message".toList, .text d.message), ("raw".toList, .text d.raw),
      ("source".toList, .text d.source)]

/-- The document as a JSON object. -/
def Document.toJson (d : Document) : Json := .object d.members

namespace Line

/-- A text less one opening bracket in front and one closing bracket behind. -/
def unbracket (t : Text) : Text :=
  let t := (Text.after? ['['] t).getD t
  if t.getLast? = some ']' then t.dropLast else t

/-- The timestamp in front of a text, up to the first space, and the text after it. -/
def splitTimestamp (z : Zone) (t : Text) : Except RangeFault (Option Instant × Text) :=
  match Text.cutAt? ' ' t with
  | none => .ok (none, t)
  | some (first, rest) =>
    if first = [] then .ok (none, t)
    else
      match Instant.read? z (unbracket first) with
      | .error fault => .error fault
      | .ok none => .ok (none, t)
      | .ok (some i) => .ok (some i, Text.strip rest)

/-- The level in front of a text, in upper case, and the text after it. -/
def splitLevel (t : Text) : Option Text × Text :=
  match Text.after? ['['] t with
  | some inside =>
    match Text.cutAt? ']' inside with
    | some (level, rest) => (some (Text.upper (Text.strip level)), Text.strip rest)
    | none => (none, t)
  | none =>
    match Text.cutAt? ' ' t with
    | some (word, rest) =>
      if Text.isLetterWord word then (some (Text.upper word), Text.strip rest) else (none, t)
    | none => (none, t)

/-- The document of a line of the file `source` that is read at the instant `now`; a blank line
has none. -/
def document? (z : Zone) (now : Instant) (source line : Text) :
    Except RangeFault (Option Document) :=
  let trimmed := Text.strip line
  if trimmed = [] then .ok none
  else do
    let (timestamp, rest) ← splitTimestamp z trimmed
    let (level, message) := splitLevel rest
    return some ⟨timestamp.getD now, level, message, line, source⟩

/-- How many lines were turned into documents, and how many were blank. -/
structure Counts where
  parsed : Nat
  skipped : Nat
deriving DecidableEq, Repr

/-- The counts with one more line, which was blank if it has no document. -/
def Counts.count (c : Counts) : Option Document → Counts
  | none => { c with skipped := c.skipped + 1 }
  | some _ => { c with parsed := c.parsed + 1 }

end Line

end LogSearch
