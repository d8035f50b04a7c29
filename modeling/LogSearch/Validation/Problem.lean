import LogSearch.Text.Basic

/-!
# Problems with data from outside

Settings and requests come from outside, and everything that is wrong with them is reported at
once, each problem with the place where it was found.  `Checked.ap` is what makes that so: it
goes on after a problem and collects the problems of both sides, left before right.
-/

namespace LogSearch.Validation

/-- What can be wrong with a value. -/
inductive Cause where
  | missing
  | notText
  | notInteger
  | integerText
  | integerTooLarge
  | fractional
  | notFinite
  | notBoolean
  | booleanText
  | notNumber
  | numberText
  | notList
  /-- The value is no object, where a record of the given name is expected. -/
  | notRecord (name : Text)
  | notAmong (choices : List Text)
  /-- The value is not above the bound. -/
  | notAbove (bound : Nat)
  /-- The value is below the bound. -/
  | below (bound : Nat)
  /-- A rule that is not about the form of the value. -/
  | refused (reason : Text)
deriving DecidableEq, Repr

/-- The short name of a cause. -/
def Cause.kind : Cause → Text
  | .missing => "missing"
  | .notText => "string_type"
  | .notInteger => "int_type"
  | .integerText => "int_parsing"
  | .integerTooLarge => "int_parsing_size"
  | .fractional => "int_from_float"
  | .notFinite => "finite_number"
  | .notBoolean => "bool_type"
  | .booleanText => "bool_parsing"
  | .notNumber => "float_type"
  | .numberText => "float_parsing"
  | .notList => "list_type"
  | .notRecord _ => "model_type"
  | .notAmong _ => "literal_error"
  | .notAbove _ => "greater_than"
  | .below _ => "greater_than_equal"
  | .refused _ => "value_error"

/-- Choices in quotes, the last one after the word "or". -/
def choicesText : List Text → Text
  | [] => []
  | [t] => "'" ++ t ++ "'"
  | [t, u] => "'" ++ t ++ "' or '" ++ u ++ "'"
  | t :: rest => "'" ++ t ++ "', " ++ choicesText rest

/-- The wording of a cause. -/
def Cause.message : Cause → Text
  | .missing => "Field required"
  | .notText => "Input should be a valid string"
  | .notInteger => "Input should be a valid integer"
  | .integerText => "Input should be a valid integer, unable to parse string as an integer"
  | .integerTooLarge => "Unable to parse input string as an integer, exceeded maximum size"
  | .fractional => "Input should be a valid integer, got a number with a fractional part"
  | .notFinite => "Input should be a finite number"
  | .notBoolean => "Input should be a valid boolean"
  | .booleanText => "Input should be a valid boolean, unable to interpret input"
  | .notNumber => "Input should be a valid number"
  | .numberText => "Input should be a valid number, unable to parse string as a number"
  | .notList => "Input should be a valid list"
  | .notRecord name => "Input should be a valid dictionary or instance of " ++ name
  | .notAmong choices => "Input should be " ++ choicesText choices
  | .notAbove bound => "Input should be greater than " ++ Text.ofNat bound
  | .below bound => "Input should be greater than or equal to " ++ Text.ofNat bound
  | .refused reason => "Value error, " ++ reason

/-- A step on the way to a value: a member of a record or an item of a list. -/
inductive Step where
  | member (key : Text)
  | item (index : Nat)
deriving DecidableEq, Repr

/-- A problem and the way to the value that has it. -/
structure Problem where
  place : List Step
  cause : Cause
deriving DecidableEq, Repr

/-- The problem, seen from one step further out. -/
def Problem.under (p : Problem) (step : Step) : Problem := { p with place := step :: p.place }

/-- A value that was checked, or all problems with it. -/
abbrev Checked (α : Type) := Except (List Problem) α

namespace Checked

variable {α β : Type}

/-- A problem with the value itself. -/
def fail (cause : Cause) : Checked α := .error [⟨[], cause⟩]

/-- The result, seen from one step further out. -/
def under (step : Step) (c : Checked α) : Checked α := c.mapError fun ps => ps.map (·.under step)

/-- Applies a checked function to a checked value; the problems of both are reported. -/
def ap (f : Checked (α → β)) (a : Checked α) : Checked β :=
  match f, a with
  | .ok f, .ok a => .ok (f a)
  | .ok _, .error ps => .error ps
  | .error ps, .ok _ => .error ps
  | .error ps, .error qs => .error (ps ++ qs)

/-- Checks the items of a list, counted from `index` on. -/
def items (check : α → Checked β) : Nat → List α → Checked (List β)
  | _, [] => .ok []
  | index, a :: rest =>
    ap (ap (.ok List.cons) (under (.item index) (check a))) (items check (index + 1) rest)

/-- The value, if it satisfies the test. -/
def require (test : α → Bool) (cause : Cause) (c : Checked α) : Checked α :=
  c.bind fun a => if test a then .ok a else fail cause

end Checked

end LogSearch.Validation
