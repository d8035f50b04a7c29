import LogSearch.Validation.Lax

/-!
# Search requests

A request has a query and says which of the hits are wanted: how many are passed over and how
many come after those.  The query has to hold something other than white space.  The number of
hits to pass over is not negative; the number of hits wanted may be anything, since it is
brought between 1 and 200 (`SearchRequest.resolveSize`).

The numbers are read strictly where a request is made by another program, so that only an
integer is one, and leniently where it comes from the outside.
-/

namespace LogSearch

open Validation

/-- A search, with the number of hits to pass over and the number of hits wanted, if given. -/
structure SearchRequest where
  query : Text
  skipped : Option Int
  size : Option Int
deriving DecidableEq, Repr

namespace SearchRequest

/-- Reads an integer that is written as one. -/
def strictInt : Json → Checked Int
  | .int n => .ok n
  | _ => Checked.fail .notInteger

/-- Reads a value that may be null. -/
def orNull {α : Type} (read : Json → Checked α) : Json → Checked (Option α)
  | .null => .ok none
  | j => (read j).map some

/-- The query among the members of a request. -/
def checkQuery (ms : List (Text × Json)) : Checked Text :=
  Checked.under (.member "query")
    (match Json.find? ms "query" with
      | none => Checked.fail .missing
      | some j =>
        Checked.require (fun t => !Text.isBlankText t) (.refused "Query is required") (readText j))

/-- The number of hits to pass over.  It has two names, the first of which counts. -/
def checkSkipped (readInt : Json → Checked Int) (ms : List (Text × Json)) :
    Checked (Option Int) :=
  let read := orNull fun j => Checked.require (0 ≤ ·) (.below 0) (readInt j)
  match Json.find? ms "from" with
  | some j => Checked.under (.member "from") (read j)
  | none => member ms "from_" none read

/-- The request that a value is, where integers are read in the given way. -/
def check (readInt : Json → Checked Int) : Json → Checked SearchRequest
  | .object ms =>
    Checked.ap (Checked.ap (Checked.ap (.ok SearchRequest.mk)
      (checkQuery ms))
      (checkSkipped readInt ms))
      (member ms "size" none (orNull readInt))
  | _ => Checked.fail (.notRecord "LogSearchRequest")

/-- The request that a value is, with integers for numbers. -/
def checkStrict : Json → Checked SearchRequest := check strictInt

/-- The request that a value is, with anything for numbers that can be meant as an integer. -/
def checkLax : Json → Checked SearchRequest := check readInt

/-- The number of hits to pass over. -/
def resolveSkipped (r : SearchRequest) : Int := r.skipped.getD 0

/-- The number of hits on a page, and the least and the greatest number. -/
def pageSize : Int := 20

@[inherit_doc pageSize]
def leastSize : Int := 1

@[inherit_doc pageSize]
def greatestSize : Int := 200

/-- The number of hits wanted. -/
def resolveSize (r : SearchRequest) : Int :=
  min (max (r.size.getD pageSize) leastSize) greatestSize

end SearchRequest

/-- A JSON object with the given members. -/
def Json.record (members : List (String × Json)) : Json :=
  .object (members.map fun m => (m.1.toList, m.2))

/-- The fields whose snippets are asked for, the preferred one first. -/
def highlightFields : List Text := ["message", "raw"].map String.toList

/-- What the search backend is asked: the compiled query, whose terms are all required, the
hits wanted, sorted by score and then from new to old, and snippets. -/
def searchPayload (query : Text) (skipped size : Int) : Json :=
  .record [
    ("query", .record [("query_string", .record [
      ("query", .text query), ("default_operator", .text "AND")])]),
    ("from", .int skipped),
    ("size", .int size),
    ("sort", .list [
      .record [("_score", .text "desc")], .record [("timestamp", .text "desc")]]),
    ("highlight", .record [("fields", .object (highlightFields.map fun f => (f, .object [])))])]

end LogSearch
