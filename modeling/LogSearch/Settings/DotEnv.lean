import LogSearch.Text.Basic
import LogSearch.Text.Numerals

/-!
# Files of variables

A file of variables has one in each line: a name, an equals sign and a value.  The word
`export` may stand in front, and a number sign begins a comment.  A value stands in single
quotes, in double quotes, or alone; quoted values may go over several lines.  Where a line fits
none of this, the rest of it is passed over.

A line ends at a line feed, at a carriage return, or at both together, which all come to the
same (`unifyLineEnds`).

In values, a dollar sign and a name in braces stand for the value of another variable, which
may be given a default behind a colon and a minus sign.
-/

namespace LogSearch.DotEnv

/-- The text with a line feed at the end of every line. -/
def unifyLineEnds : Text → Text
  | '\r' :: '\n' :: rest => '\n' :: unifyLineEnds rest
  | c :: rest => (if c = '\r' then '\n' else c) :: unifyLineEnds rest
  | [] => []

/-- The character ends a line. -/
def isLineEnd (c : Char) : Bool := c == '\n'

/-- White space inside a line. -/
def isInlineBlank (c : Char) : Bool := Text.isBlank c && !isLineEnd c

/-- The text after the white space in front of it, within the line. -/
def skipInline (t : Text) : Text := t.dropWhile isInlineBlank

/-- The text after the word `export` and white space, if they are in front. -/
def skipExport (t : Text) : Text :=
  match Text.after? "export" t with
  | some rest => if (rest.head?.map isInlineBlank).getD false then skipInline rest else t
  | none => t

/-- A quoted text whose opening quote has been read, with its escapes, and what follows the
closing quote.  A quote after a backslash does not close, unless no other quote does. -/
def quotedBody (quote : Char) : Text → Option (Text × Text)
  | [] => none
  | [c] => if c = quote then some ([], []) else none
  | c :: d :: rest =>
    if c = quote then some ([], d :: rest)
    else if c = '\\' ∧ d = quote then
      ((quotedBody quote rest).map fun r => (c :: d :: r.1, r.2)) <|> some ([c], rest)
    else (quotedBody quote (d :: rest)).map fun r => (c :: r.1, r.2)

/-- The character that an escape in double quotes stands for. -/
def escaped? (c : Char) : Option Char :=
  if c = '\\' ∨ c = '\'' ∨ c = '"' then some c
  else if c = 'a' then some (Char.ofNat 7)
  else if c = 'b' then some (Char.ofNat 8)
  else if c = 'f' then some (Char.ofNat 12)
  else if c = 'n' then some '\n'
  else if c = 'r' then some '\r'
  else if c = 't' then some '\t'
  else if c = 'v' then some (Char.ofNat 11)
  else none

/-- A text with its escapes replaced, of which `known` tells those that there are. -/
def unescape (known : Char → Option Char) : Text → Text
  | '\\' :: c :: rest =>
    match known c with
    | some d => d :: unescape known rest
    | none => '\\' :: unescape known (c :: rest)
  | c :: rest => c :: unescape known rest
  | [] => []
termination_by t => t.length

/-- The escapes in single quotes. -/
def escapedSingle? (c : Char) : Option Char := if c = '\\' ∨ c = '\'' then some c else none

/-- The text up to a comment, which begins with a number sign after white space. -/
def dropComment : Text → Text
  | [] => []
  | c :: rest =>
    if Text.isBlank c ∧ (rest.dropWhile Text.isBlank).head? = some '#' then []
    else c :: dropComment rest

/-- The value at the front of a text, and what follows it. -/
def readValue? (t : Text) : Option (Text × Text) :=
  match t with
  | '\'' :: rest =>
    (quotedBody '\'' rest).map fun r => (unescape escapedSingle? r.1, r.2)
  | '"' :: rest => (quotedBody '"' rest).map fun r => (unescape escaped? r.1, r.2)
  | _ =>
    let line := t.takeWhile fun c => !isLineEnd c
    some (Text.trimEndBy Text.isBlank (dropComment line), t.dropWhile fun c => !isLineEnd c)

/-- The name at the front of a text, if it is not a comment, and what follows it. -/
def readName? (t : Text) : Option (Option Text × Text) :=
  match t with
  | '#' :: _ => some (none, t)
  | '\'' :: rest =>
    match Text.cutAt? '\'' rest with
    | some (name, rest) => if name = [] then none else some (some name, rest)
    | none => none
  | _ =>
    let isNameChar (c : Char) : Bool := !(c == '=' || c == '#' || Text.isBlank c)
    let name := t.takeWhile isNameChar
    if name = [] then none else some (some name, t.dropWhile isNameChar)

/-- What follows the end of a line, if nothing but white space or a comment is before it. -/
def readLineEnd? (t : Text) : Option Text :=
  let t :=
    match skipInline t with
    | '#' :: rest => rest.dropWhile fun c => !isLineEnd c
    | _ => t
  match skipInline t with
  | [] => some []
  | c :: rest => if isLineEnd c then some rest else none

/-- What was read off the front of a text, or else that text, as the place at which reading
failed. -/
def readFrom {α : Type} (t : Text) (read : Text → Option α) : Except Text α :=
  match read t with
  | some a => .ok a
  | none => .error t

/-- The line at the front of a text: a name with a value or without one, if there is a name,
and what follows the line. -/
def readLine (t : Text) : Except Text (Option (Text × Option Text) × Text) := do
  let (name, rest) ← readFrom (skipExport t) readName?
  let rest := skipInline rest
  let (value, rest) ←
    match rest with
    | '=' :: more => (readFrom (skipInline more) readValue?).map fun r => (some r.1, r.2)
    | _ => .ok (none, rest)
  let rest ← readFrom rest readLineEnd?
  return (name.map fun n => (n, value), rest)

/-- The text after the line that it begins in. -/
def skipLine (t : Text) : Text := (t.dropWhile fun c => !isLineEnd c).drop 1

/-- The variables of a file, in order, with at most `fuel` lines. -/
def readLines : Nat → Text → List (Text × Option Text)
  | 0, _ => []
  | fuel + 1, t =>
    match t.dropWhile Text.isBlank with
    | [] => []
    | t =>
      match readLine t with
      | .ok (binding, rest) => binding.toList ++ readLines fuel rest
      | .error rest => readLines fuel (skipLine rest)

/-- The reference at the front of a text whose dollar sign and brace have been read: the name,
the default, and what follows. -/
def reference? (t : Text) : Option (Text × Option Text × Text) :=
  let isNameChar (c : Char) : Bool := !(c == '\x7d' || c == ':')
  let name := t.takeWhile isNameChar
  match t.dropWhile isNameChar with
  | '\x7d' :: rest => some (name, none, rest)
  | ':' :: '-' :: rest =>
    (Text.cutAt? '\x7d' rest).map fun r => (name, some r.1, r.2)
  | _ => none

/-- A value with its references replaced, of which there are at most `fuel`. -/
def expand (lookUp : Text → Option Text) : Nat → Text → Text
  | 0, t => t
  | _, [] => []
  | fuel + 1, c :: rest =>
    match c, rest with
    | '$', '\x7b' :: more =>
      match reference? more with
      | some (name, default, rest) =>
        ((lookUp name).getD (default.getD [])) ++ expand lookUp fuel rest
      | none => c :: expand lookUp fuel rest
    | _, _ => c :: expand lookUp fuel rest

/-- The list with a value for the name, which takes the place of an earlier one. -/
def assign (name : Text) (value : Option Text) :
    List (Text × Option Text) → List (Text × Option Text)
  | [] => [(name, value)]
  | (n, v) :: rest =>
    if n = name then (name, value) :: rest else (n, v) :: assign name value rest

/-- The bindings with references replaced, from first to last.  A reference is to a variable of
the file that stands before it, or else to one of the process. -/
def resolve (process : List (Text × Text)) :
    List (Text × Option Text) → List (Text × Option Text) → List (Text × Option Text)
  | known, [] => known
  | known, (name, value) :: rest =>
    let lookUp (n : Text) : Option Text :=
      match known.lookup n with
      | some v => some (v.getD [])
      | none => process.lookup n
    resolve process (assign name (value.map fun v => expand lookUp (v.length + 1) v) known) rest

/-- The variables that a file gives; a name without an equals sign has no value. -/
def bindings (process : List (Text × Text)) (file : Text) : List (Text × Option Text) :=
  resolve process [] (readLines (file.length + 1) (unifyLineEnds file))

end LogSearch.DotEnv
