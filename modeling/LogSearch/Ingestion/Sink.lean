import LogSearch.Ingestion.Bulk

/-!
# Sinks

A sink takes batches of documents.  What it answers is known at once, but the answer may take
time to arrive.  A sink that answers late does so a bounded number of times (`lateAnswers`),
which is what makes every wait for it come to an end.

What the program reports about its own work, here and elsewhere, are the entries of a journal.
-/

namespace LogSearch

/-- How important an entry is. -/
inductive Severity where
  | info | warning | error
deriving DecidableEq, Repr

/-- The name of a severity. -/
def Severity.name : Severity → Text
  | .info => "INFO"
  | .warning => "WARNING"
  | .error => "ERROR"

/-- A line of the journal. -/
structure Entry where
  severity : Severity
  message : Text
deriving DecidableEq, Repr

namespace Ingestion

/-- What comes of a request to the search backend. -/
inductive Outcome where
  /-- The backend replied. -/
  | reply (body : Json)
  /-- There is no usable reply. -/
  | unavailable (message : Text)
  /-- The decoder broke off at the reply, with a text about that. -/
  | undecodable (message : Text)

/-- The outcome of a request and the seconds after which it is there. -/
structure Delivery where
  outcome : Outcome
  delay : Rat

/-- The outcome has to be waited for. -/
def Delivery.isLate (d : Delivery) : Bool := 0 < d.delay

/-- Something that takes batches of documents for an index. -/
class Sink (σ : Type) where
  /-- Takes a batch. -/
  bulk : σ → Text → List Document → Delivery × σ
  /-- A bound on the number of late answers that are still to come. -/
  lateAnswers : σ → Nat
  lateAnswers_bulk : ∀ (s : σ) (index : Text) (batch : List Document),
    (bulk s index batch).1.isLate → lateAnswers (bulk s index batch).2 < lateAnswers s

/-- A sink that answers from a script and remembers the batches that it was sent and the bodies in
which they came, first one first.  After the end of the script every reply says that there were no
errors. -/
structure ScriptedSink where
  script : List Delivery
  batches : List (List Document)
  bodies : List Text

namespace ScriptedSink

/-- The answer to a request when the script has come to its end. -/
def lastDelivery : Delivery :=
  ⟨.reply (.object [("errors".toList, .bool false), ("items".toList, .list [])]), 0⟩

/-- Takes a batch. -/
def bulk (s : ScriptedSink) (index : Text) (batch : List Document) : Delivery × ScriptedSink :=
  (s.script.headD lastDelivery,
    ⟨s.script.tail, s.batches ++ [batch], s.bodies ++ [Bulk.body index batch]⟩)

instance : Sink ScriptedSink where
  bulk := bulk
  lateAnswers s := s.script.length
  lateAnswers_bulk s index batch h := by
    cases hs : s.script with
    | nil => simp [bulk, hs, lastDelivery, Delivery.isLate] at h
    | cons d rest => simp [bulk, hs]

end ScriptedSink

end Ingestion

end LogSearch
