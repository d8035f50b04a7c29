import LogSearch.Ingestion.Bulk
import LogSearch.Ingestion.Sink

/-!
# The outbox

Documents wait in the outbox until there are as many as go into one request, or until they are
sent before that.  Delivery is at most once: a batch that was handed to the sink is not in the
outbox any more, and one whose request fails is counted as dropped and not tried again.

Sending has two halves, since the sink may take time: `Outbox.empty` takes the batch out, and
`Outbox.settle` books it when the outcome is there.  `Outbox.flush` is both, with a sink that
answers at once.
-/

namespace LogSearch.Ingestion

/-- Documents that wait, the index that they are for, and what became of the others. -/
structure Outbox where
  index : Text
  capacity : Nat
  pending : List Document
  shipped : Nat
  dropped : Nat
  batchesSent : Nat
  failedBatches : Nat

/-- Why the outcome of a request cannot be booked to the end. -/
inductive SendFault where
  | reply (fault : Bulk.ReplyFault)
  | undecodable (message : Text)
deriving DecidableEq, Repr

/-- The wording of a fault. -/
def SendFault.message : SendFault → Text
  | .reply fault => fault.message
  | .undecodable message => message

/-- What comes of booking a batch: the outbox, the number of documents handed over or what is
wrong with the reply, and what is reported. -/
structure Settlement where
  outbox : Outbox
  result : Except SendFault Nat
  entries : List Entry

namespace Outbox

/-- An outbox for batches of at most `capacity` documents, of which there has to be at least
one. -/
def new? (index : Text) (capacity : Int) : Option Outbox :=
  if 1 ≤ capacity then some ⟨index, capacity.toNat, [], 0, 0, 0, 0⟩ else none

/-- The outbox with one more document. -/
def add (o : Outbox) (d : Document) : Outbox := { o with pending := o.pending ++ [d] }

/-- There are as many documents as go into one request. -/
def isFull (o : Outbox) : Bool := o.capacity ≤ o.pending.length

/-- The outbox without the documents that wait; they are not sent. -/
def discard (o : Outbox) : Outbox :=
  { o with pending := [], dropped := o.dropped + o.pending.length }

/-- The outbox without the documents that wait; they are in a batch of their own now. -/
def empty (o : Outbox) : Outbox := { o with pending := [] }

/-- What is reported of a batch of which some documents were rejected. -/
def rejectedEntry (index : Text) (rejected : Nat) : Entry :=
  ⟨.warning,
    "Bulk request to index " ++ index ++ " completed with " ++ Text.ofNat rejected ++
      " rejected document(s)"⟩

/-- What is reported of a batch whose request failed. -/
def failedEntry (size : Nat) : Entry :=
  ⟨.error, "Failed to ship batch of " ++ Text.ofNat size ++ " log documents"⟩

/-- Books a batch of `size` documents with its outcome.  A batch with a reply is shipped,
whatever the reply says. -/
def settle (o : Outbox) (size : Nat) : Outcome → Settlement
  | .unavailable _ =>
    ⟨{ o with failedBatches := o.failedBatches + 1, dropped := o.dropped + size }, .ok 0,
      [failedEntry size]⟩
  | .undecodable message => ⟨o, .error (.undecodable message), []⟩
  | .reply body =>
    let o := { o with batchesSent := o.batchesSent + 1, shipped := o.shipped + size }
    match Bulk.countRejected body with
    | .error fault => ⟨o, .error (.reply fault), []⟩
    | .ok none => ⟨o, .ok size, []⟩
    | .ok (some rejected) => ⟨o, .ok size, [rejectedEntry o.index rejected]⟩

/-- Sends all that waits as one batch; nothing is sent if nothing waits. -/
def flush {σ : Type} [Sink σ] (o : Outbox) (sink : σ) : Settlement × σ :=
  if o.pending = [] then (⟨o, .ok 0, []⟩, sink)
  else
    let (delivery, sink) := Sink.bulk sink o.index o.pending
    (o.empty.settle o.pending.length delivery.outcome, sink)

/-- Adds a document and sends all that waits if that is enough for a request. -/
def addAndFlush {σ : Type} [Sink σ] (o : Outbox) (d : Document) (sink : σ) : Settlement × σ :=
  let o := o.add d
  if o.isFull then o.flush sink else (⟨o, .ok 0, []⟩, sink)

end Outbox

end LogSearch.Ingestion
