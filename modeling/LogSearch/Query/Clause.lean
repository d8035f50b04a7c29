import LogSearch.Query.Expr
import LogSearch.Text.Basic
import LogSearch.Time.Timestamp

/-!
# Clauses

What a condition asks of the search backend.  A condition on text becomes a phrase that has to
match a target, or its negation; a condition on the timestamp becomes a range of instants with
one bound, or with the same bound on both sides.

* `level` is matched exactly, in upper case, and `source` exactly as it is,
* `message` is matched as a phrase, and so is the raw line, which has two names,
* `timestamp` is compared.

`Condition.clause` is the meaning of a condition, and `Clause.text` its written form.  In a
phrase a backslash stands before every quote and every backslash, so that no value can end the
phrase early.
-/

namespace LogSearch.Query

/-- The targets of a phrase. -/
inductive Target where
  | level | message | raw | source
deriving DecidableEq, Repr

/-- The name of a target in the index. -/
def Target.name : Target → Text
  | .level => "level.keyword"
  | .message => "message"
  | .raw => "raw"
  | .source => "source.keyword"

/-- The fields that a condition can name. -/
inductive Field where
  | phrase (target : Target)
  | timestamp
deriving DecidableEq, Repr

/-- The field of a name in lower case. -/
def Field.ofName? (name : Text) : Option Field :=
  if name = "level".toList then some (.phrase .level)
  else if name = "message".toList then some (.phrase .message)
  else if name = "text".toList then some (.phrase .raw)
  else if name = "raw".toList then some (.phrase .raw)
  else if name = "source".toList then some (.phrase .source)
  else if name = "timestamp".toList then some .timestamp
  else none

/-- The comparisons of a timestamp. -/
inductive Bound where
  | exactly | after | from | before | upTo
deriving DecidableEq, Repr

/-- The comparison of a timestamp that an operator stands for, if it is one. -/
def Bound.ofOperator? : Operator → Option Bound
  | .eq => some .exactly
  | .gt => some .after
  | .gte => some .from
  | .lt => some .before
  | .lte => some .upTo
  | .neq | .contains | .notContains => none

/-- An operator on text either asks for the phrase or asks for its absence. -/
def Operator.negates? : Operator → Option Bool
  | .eq | .contains => some false
  | .neq | .notContains => some true
  | .gt | .gte | .lt | .lte => none

/-- What a condition asks of the search backend. -/
inductive Clause where
  | phrase (target : Target) (value : Text) (negated : Bool)
  | range (bound : Bound) (moment : Instant)
deriving DecidableEq

/-- What can be wrong with a condition that is well formed. -/
inductive ConditionCause where
  | unsupportedField
  | unsupportedOperator (operator : Operator)
  | emptyTimestamp
  | unknownTimestamp (value : Text)
deriving DecidableEq, Repr

/-- A fault in a condition on the field. -/
structure ConditionFault where
  field : Text
  cause : ConditionCause
deriving DecidableEq, Repr

/-- The wording of a fault. -/
def ConditionFault.message (f : ConditionFault) : Text :=
  match f.cause with
  | .unsupportedField => "Unsupported field '" ++ f.field ++ "'"
  | .unsupportedOperator op =>
    "Operator " ++ op.name ++ " is not supported for field '" ++ f.field ++ "'"
  | .emptyTimestamp => "Timestamp value cannot be empty"
  | .unknownTimestamp v => "Timestamp value '" ++ v ++ "' is not in a supported format"

/-- Why a condition has no clause: something is wrong with the condition, or its timestamp is out
of the range of instants. -/
inductive ClauseFault where
  | condition (fault : ConditionFault)
  | range (fault : RangeFault)
deriving DecidableEq, Repr

/-- The value as it is stored in the target: levels are stored in upper case. -/
def Target.stored : Target → Text → Text
  | .level, v => Text.upper v
  | _, v => v

/-- The clause of a condition; a local timestamp is read in the zone. -/
def Condition.clause (z : Zone) (c : Condition) : Except ClauseFault Clause :=
  let refuse (cause : ConditionCause) : Except ClauseFault Clause :=
    .error (.condition ⟨c.field, cause⟩)
  match Field.ofName? c.field with
  | none => refuse .unsupportedField
  | some (.phrase target) =>
    match c.operator.negates? with
    | none => refuse (.unsupportedOperator c.operator)
    | some negated => .ok (.phrase target (target.stored c.value) negated)
  | some .timestamp =>
    match Bound.ofOperator? c.operator with
    | none => refuse (.unsupportedOperator c.operator)
    | some bound =>
      if Text.isBlankText c.value then refuse .emptyTimestamp
      else
        match Instant.read? z c.value with
        | .error fault => .error (.range fault)
        | .ok none => refuse (.unknownTimestamp c.value)
        | .ok (some moment) => .ok (.range bound moment)

/-- One character inside a phrase. -/
def escapeChar (c : Char) : Text := if c = '\\' ∨ c = '"' then ['\\', c] else [c]

/-- A value inside a phrase. -/
def escapePhrase (value : Text) : Text := value.flatMap escapeChar

/-- A range, with its brackets; a square bracket includes the bound, a curly one does not. -/
def Bound.text (bound : Bound) (moment : Text) : Text :=
  match bound with
  | .exactly => "[" ++ moment ++ " TO " ++ moment ++ "]"
  | .from => "[" ++ moment ++ " TO *]"
  | .after => "\x7b" ++ moment ++ " TO *\x7d"
  | .upTo => "[* TO " ++ moment ++ "]"
  | .before => "\x7b* TO " ++ moment ++ "\x7d"

/-- The written form of a clause. -/
def Clause.text : Clause → Text
  | .phrase target value negated =>
    let clause := target.name ++ ":\"" ++ escapePhrase value ++ "\""
    if negated then "NOT (" ++ clause ++ ")" else clause
  | .range bound moment => "timestamp:" ++ bound.text moment.text

end LogSearch.Query
