import LogSearch.Number.Binary64
import LogSearch.Text.Basic

/-!
# JSON values

Integers and floating-point numbers are told apart, and the members of an object keep their
order.  A key occurs once: a later value for a key takes the place of the earlier one.
-/

namespace LogSearch

/-- A JSON value. -/
inductive Json where
  | null
  | bool (b : Bool)
  | int (n : Int)
  | float (x : Binary64)
  | text (t : Text)
  | list (items : List Json)
  | object (members : List (Text × Json))

namespace Json

/-- The members with a value for the key; a new key goes to the end. -/
def put (key : Text) (value : Json) : List (Text × Json) → List (Text × Json)
  | [] => [(key, value)]
  | (k, v) :: rest => if k = key then (k, value) :: rest else (k, v) :: put key value rest

/-- The value of a key. -/
def find? (members : List (Text × Json)) (key : Text) : Option Json := members.lookup key

/-- The value of a key in a value that is an object; null if there is none. -/
def member (j : Json) (key : Text) : Json :=
  match j with
  | .object members => (find? members key).getD .null
  | _ => .null

/-- The value says something: it is not null, not false, not zero and not empty. -/
def isFilled : Json → Bool
  | .null => false
  | .bool b => b
  | .int n => n ≠ 0
  | .float x => !x.isZero
  | .text t => !t.isEmpty
  | .list items => !items.isEmpty
  | .object members => !members.isEmpty

/-- The value is an object. -/
def isObject : Json → Bool
  | .object _ => true
  | _ => false

/-- The name of a kind of value in messages. -/
def kindName : Json → Text
  | .null => "NoneType"
  | .bool _ => "bool"
  | .int _ => "int"
  | .float _ => "float"
  | .text _ => "str"
  | .list _ => "list"
  | .object _ => "dict"

end Json

end LogSearch
