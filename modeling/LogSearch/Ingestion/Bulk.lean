import LogSearch.Document.Line
import LogSearch.Json.Writer

/-!
# Bulk requests

Documents go to the search backend in batches.  The body of a request has two lines for every
document, what to do and the document; the reply says of every document whether it was taken.

The reply is not under our control.  `countRejected` says how many documents it reports as
rejected, if it reports any, and what is wrong with a reply in which they cannot be counted.
-/

namespace LogSearch.Bulk

/-- The line before every document: put it into the index. -/
def action (index : Text) : Json :=
  .object [("index".toList, .object [("_index".toList, .text index)])]

/-- The lines of a request. -/
def lines (index : Text) (documents : List Document) : List Text :=
  documents.flatMap fun d => [Json.write (action index), Json.write d.toJson]

/-- The body of a request. -/
def body (index : Text) (documents : List Document) : Text :=
  Text.join ['\n'] (lines index documents) ++ ['\n']

/-- Why the rejected documents of a reply cannot be counted. -/
inductive ReplyFault where
  /-- The items are neither a list nor anything else that has members. -/
  | notIterable (kind : Text)
  /-- The result of an item is not an object. -/
  | notObject (kind : Text)
deriving DecidableEq, Repr

/-- The wording of a fault. -/
def ReplyFault.message : ReplyFault → Text
  | .notIterable kind => "'" ++ kind ++ "' object is not iterable"
  | .notObject kind => "'" ++ kind ++ "' object has no attribute 'get'"

/-- The item reports an error.  Items that are no objects, and results that say nothing, report
none. -/
def isRejected (item : Json) : Except ReplyFault Bool :=
  if item.isObject then
    let result := item.member "index"
    if result.isObject then .ok (result.member "error").isFilled
    else if result.isFilled then .error (.notObject result.kindName)
    else .ok false
  else .ok false

/-- The number of items that report an error. -/
def countItems : List Json → Except ReplyFault Nat
  | [] => .ok 0
  | item :: rest => do
    let rejected ← isRejected item
    let more ← countItems rest
    return (if rejected then 1 else 0) + more

/-- The number of documents that a reply reports as rejected; none if the reply says that there
were no errors.  The keys of an object and the characters of a text count as items that report
nothing. -/
def countRejected (reply : Json) : Except ReplyFault (Option Nat) :=
  match reply with
  | .object members =>
    if (reply.member "errors").isFilled then
      match (Json.find? members "items").getD (.list []) with
      | .list items => some <$> countItems items
      | .object _ | .text _ => .ok (some 0)
      | other => .error (.notIterable other.kindName)
    else .ok none
  | _ => .ok none

end LogSearch.Bulk
