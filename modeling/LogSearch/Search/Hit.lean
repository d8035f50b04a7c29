import LogSearch.Json.Display
import LogSearch.Text.Basic
import LogSearch.Text.Numerals

/-!
# Search results

What the search backend found, as it is passed on.  The reply of the backend may hold anything
in any place.  Texts are shown as they are, other values in the form for readers
(`Json.display`), and a score that is no number is zero; but some values have no reading, and
then the whole reply has none (`ReadingFault`).
-/

namespace LogSearch

/-- A document that was found. -/
structure SearchHit where
  id : Option Text
  score : Binary64
  timestamp : Option Text
  level : Option Text
  message : Option Text
  raw : Option Text
  source : Option Text
  highlight : Option Text
deriving DecidableEq

/-- What was found, with the query that found it. -/
structure SearchResponse where
  total : Int
  took : Int
  compiledQuery : Text
  hits : List SearchHit
deriving DecidableEq

/-- Why a reply has no reading. -/
inductive ReadingFault where
  /-- There is something other than an object where an object is needed. -/
  | notObject
  /-- A number is too large. -/
  | tooLarge
  /-- A text or a number is not a count. -/
  | notCount
  /-- There is something other than a text or a number where a count is needed. -/
  | notNumber
deriving DecidableEq, Repr

/-- A value as a text, if there is one. -/
def asText? : Json → Option Text
  | .null => none
  | j => some j.display

namespace SearchHit

/-- The members of a value that is an object; a value that says nothing has none. -/
def membersOf : Json → Except ReadingFault (List (Text × Json))
  | .object ms => .ok ms
  | j => if j.isFilled then .error .notObject else .ok []

/-- The score that a value is. -/
def scoreOf : Json → Except ReadingFault Binary64
  | .int n =>
    let x := Binary64.ofInt n
    if x.isInfinite then .error .tooLarge else .ok x
  | .bool b => .ok (Binary64.ofInt (if b then 1 else 0))
  | .float x => .ok x
  | _ => .ok (.zero false)

/-- The first snippet of the preferred field that has one. -/
def snippetOf (fields : List Text) (highlight : Json) : Option Text :=
  fields.findSome? fun name =>
    match highlight.member name with
    | .list (snippet :: _) => some snippet.display
    | _ => none

/-- The hit that a value is. -/
def ofJson (fields : List Text) : Json → Except ReadingFault SearchHit
  | .object ms => do
    let hit := Json.object ms
    let score ← scoreOf (hit.member "_score")
    let source ← membersOf (hit.member "_source")
    let text (name : Text) : Option Text := asText? ((Json.find? source name).getD .null)
    return {
      id := asText? (hit.member "_id")
      score := score
      timestamp := text "timestamp"
      level := text "level"
      message := text "message"
      raw := text "raw"
      source := text "source"
      highlight := snippetOf fields (hit.member "highlight") }
  | _ => .error .notObject

end SearchHit

/-! ## Counts -/

/-- White space that a count may have around it: that of ASCII, and all that is beyond ASCII. -/
def isCountPadding (c : Char) : Bool :=
  if c.toNat < 128 then Text.isAsciiBlank c else Text.isBlank c

/-- The value of decimal digits, between which single underscores may stand.  `afterDigit` says
whether the character before is a digit. -/
def digitsWithUnderscores? (afterDigit : Bool) (value : Nat) : Text → Option Nat
  | [] => if afterDigit then some value else none
  | c :: rest =>
    match Text.decimalValue? c with
    | some d => digitsWithUnderscores? true (value * 10 + d) rest
    | none => if c = '_' ∧ afterDigit then digitsWithUnderscores? false value rest else none

/-- The greatest number of digits of a count. -/
def longestCount : Nat := 4300

/-- The integer that a text denotes, in the decimal digits of any script. -/
def countOfText? (t : Text) : Option Int :=
  let t := t.trimBy isCountPadding
  if longestCount < (t.filter Text.isDecimalDigit).length then none
  else
    match t with
    | '+' :: rest => (digitsWithUnderscores? false 0 rest).map fun n => (n : Int)
    | '-' :: rest => (digitsWithUnderscores? false 0 rest).map fun n => -(n : Int)
    | _ => (digitsWithUnderscores? false 0 t).map fun n => (n : Int)

/-- The count that a value is.  A value that says nothing is zero, and of a number the fraction
is left out. -/
def countOf (j : Json) : Except ReadingFault Int :=
  if !j.isFilled then .ok 0
  else
    match j with
    | .int n => .ok n
    | .bool b => .ok (if b then 1 else 0)
    | .float x =>
      match x with
      | .nan => .error .notCount
      | .infinite _ => .error .tooLarge
      | .finite _ _ _ _ => .ok (x.truncate?.getD 0)
    | .text t =>
      match countOfText? t with
      | some n => .ok n
      | none => .error .notCount
    | _ => .error .notNumber

namespace SearchResponse

/-- The hits that a value is; a value that is no list has none. -/
def hitsOf (fields : List Text) : Json → Except ReadingFault (List SearchHit)
  | .list js => js.mapM (SearchHit.ofJson fields)
  | _ => .ok []

/-- The results that a reply holds.  Counts that are missing are zero. -/
def ofReply (fields : List Text) (compiledQuery : Text) (body : Json) :
    Except ReadingFault SearchResponse := do
  if !body.isObject then throw .notObject
  let found := Json.object (← SearchHit.membersOf (body.member "hits"))
  let total ← countOf ((found.member "total").member "value")
  let took ← countOf (body.member "took")
  let hits ← hitsOf fields (found.member "hits")
  return ⟨total, took, compiledQuery, hits⟩

end SearchResponse

end LogSearch
