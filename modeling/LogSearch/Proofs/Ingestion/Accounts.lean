import LogSearch.Ingestion.Outbox
import LogSearch.Proofs.Ingestion.Bodies

/-!
# The books of the outbox

Every document that is put into the outbox is in one of three places afterwards: in a batch that
was handed to the sink, in a run of documents that was given up, or among those that wait.  The
four counters of the outbox say how many documents and batches went which way.  This file states
both as one invariant, `Balanced`, and proves that every call keeps it, whatever the sink answers
and whether or not the reply can be read to its end.

A *parcel* is what leaves the outbox in one piece.  The parcels of a call are read off the two
states around it (`Call.parcels`): a posted batch is one that the sink has and did not have
before, and a discarded run is what waited when `discard` was called.  Nothing in the invariant
refers to how a call is carried out.

`accounts_balance` is the statement about runs.  It takes the outbox as `Outbox.new?` makes it
and a sink with any script of replies and failures, and follows the documents into the bodies that
were posted (`Bulk.Holds`).  The outcome that is left out is a reply
with text that is not UTF-8 (`Outcome.undecodable`), which no counter records.
-/

namespace LogSearch.Ingestion

/-! ## What the sink answers -/

/-- The request has a reply, whatever it says, or it failed. -/
def Outcome.IsBooked : Outcome → Prop
  | .undecodable _ => False
  | _ => True

namespace ScriptedSink

variable {s : ScriptedSink} {index : Text} {batch : List Document}

@[simp] lemma batches_bulk : (Sink.bulk s index batch).2.batches = s.batches ++ [batch] := by
  obtain ⟨script, batches⟩ := s
  cases script <;> rfl

@[simp] lemma bodies_bulk :
    (Sink.bulk s index batch).2.bodies = s.bodies ++ [Bulk.body index batch] := by
  obtain ⟨script, batches, bodies⟩ := s
  cases script <;> rfl

@[simp] lemma script_bulk : (Sink.bulk s index batch).2.script = s.script.tail := by
  obtain ⟨script, batches⟩ := s
  cases script <;> rfl

/-- What holds of every outcome in the script, and of the reply after its end, holds of every
outcome. -/
lemma outcome_bulk {P : Outcome → Prop} (hlast : P lastDelivery.outcome)
    (hs : ∀ d ∈ s.script, P d.outcome) : P (Sink.bulk s index batch).1.outcome := by
  obtain ⟨script, batches⟩ := s
  cases script with
  | nil => exact hlast
  | cons d rest => exact hs d (List.mem_cons_self ..)

end ScriptedSink

/-! ## One call -/

namespace Outbox

variable {o : Outbox} {size : Nat} {out : Outcome}

lemma new?_eq_some {index : Text} {capacity : Int} (h : new? index capacity = some o) :
    1 ≤ capacity ∧ o = ⟨index, capacity.toNat, [], 0, 0, 0, 0⟩ := by
  rw [new?] at h
  split at h
  · exact ⟨‹_›, (Option.some.inj h).symm⟩
  · simp at h

/-- Booking a batch touches nothing but the counters. -/
lemma settle_frame (o : Outbox) (size : Nat) (out : Outcome) :
    (o.settle size out).outbox.index = o.index ∧
      (o.settle size out).outbox.capacity = o.capacity ∧
      (o.settle size out).outbox.pending = o.pending := by
  cases out with
  | unavailable message => exact ⟨rfl, rfl, rfl⟩
  | undecodable fault => exact ⟨rfl, rfl, rfl⟩
  | reply body =>
    unfold settle
    simp only
    split <;> exact ⟨rfl, rfl, rfl⟩

@[simp] lemma settle_index : (o.settle size out).outbox.index = o.index :=
  (settle_frame o size out).1

@[simp] lemma settle_capacity : (o.settle size out).outbox.capacity = o.capacity :=
  (settle_frame o size out).2.1

@[simp] lemma settle_pending : (o.settle size out).outbox.pending = o.pending :=
  (settle_frame o size out).2.2

/-- A batch is counted once by its documents and once as a batch. -/
lemma settle_counters (o : Outbox) (size : Nat) (hout : out.IsBooked) :
    (o.settle size out).outbox.shipped + (o.settle size out).outbox.dropped =
        o.shipped + o.dropped + size ∧
      (o.settle size out).outbox.batchesSent + (o.settle size out).outbox.failedBatches =
        o.batchesSent + o.failedBatches + 1 := by
  cases out with
  | unavailable message => simp only [settle]; omega
  | undecodable fault => exact hout.elim
  | reply body =>
    unfold settle
    simp only
    split <;> simp only <;> omega

section Flush

variable {σ : Type} [Sink σ] {sink : σ}

lemma flush_of_pending_eq_nil (h : o.pending = []) : o.flush sink = (⟨o, .ok 0, []⟩, sink) := by
  rw [flush, if_pos h]

lemma flush_of_pending_ne_nil (h : o.pending ≠ []) :
    o.flush sink =
      (o.empty.settle o.pending.length (Sink.bulk sink o.index o.pending).1.outcome,
        (Sink.bulk sink o.index o.pending).2) := by
  rw [flush, if_neg h]

end Flush

/-! ## Runs of calls -/

/-- What can be asked of the outbox. -/
inductive Call where
  | add (document : Document)
  | flush
  | discard

/-- What leaves the outbox in one piece. -/
inductive Parcel where
  | posted (batch : List Document)
  | discarded (documents : List Document)

/-- The documents of a parcel. -/
def Parcel.documents : Parcel → List Document
  | .posted batch => batch
  | .discarded documents => documents

/-- The batch of a parcel that was posted. -/
def Parcel.batch? : Parcel → Option (List Document)
  | .posted batch => some batch
  | .discarded _ => none

/-- An outbox and the sink behind it. -/
structure Office where
  outbox : Outbox
  sink : ScriptedSink

namespace Call

/-- The office after a call, returned or raised. -/
def apply (s : Office) : Call → Office
  | .add d => ⟨(s.outbox.addAndFlush d s.sink).1.outbox, (s.outbox.addAndFlush d s.sink).2⟩
  | .flush => ⟨(s.outbox.flush s.sink).1.outbox, (s.outbox.flush s.sink).2⟩
  | .discard => ⟨s.outbox.discard, s.sink⟩

/-- The documents that a call puts into the outbox. -/
def added : Call → List Document
  | .add d => [d]
  | .flush | .discard => []

/-- What leaves the outbox during a call: the documents that waited, if they are given up, and
otherwise the batches that the sink did not have before. -/
def parcels (s : Office) (call : Call) : List Parcel :=
  match call with
  | .discard => [.discarded s.outbox.pending]
  | .add _ | .flush =>
    ((call.apply s).sink.batches.drop s.sink.batches.length).map Parcel.posted

/-- The office after a run of calls. -/
def run (s : Office) : List Call → Office
  | [] => s
  | call :: rest => run (call.apply s) rest

/-- What leaves the outbox during a run of calls, first parcel first. -/
def parcelsOf (s : Office) : List Call → List Parcel
  | [] => []
  | call :: rest => call.parcels s ++ parcelsOf (call.apply s) rest

end Call

/-- The books of an office into which the documents `added` have been put, first one first, and
which the parcels `out` have left. -/
structure Balanced (index : Text) (capacity : Nat) (added : List Document) (out : List Parcel)
    (s : Office) : Prop where
  index_eq : s.outbox.index = index
  capacity_eq : s.outbox.capacity = capacity
  booked : ∀ d ∈ s.sink.script, d.outcome.IsBooked
  count : added.length = s.outbox.shipped + s.outbox.dropped + s.outbox.pending.length
  sizes : ∀ b ∈ s.sink.batches, 1 ≤ b.length ∧ b.length ≤ capacity
  requests : s.outbox.batchesSent + s.outbox.failedBatches = s.sink.batches.length
  parts : added = out.flatMap Parcel.documents ++ s.outbox.pending
  posted : out.filterMap Parcel.batch? = s.sink.batches
  bodies : s.sink.bodies = s.sink.batches.map (Bulk.body index)

variable {index : Text} {capacity : Nat} {added : List Document} {out : List Parcel} {s : Office}

lemma Balanced.put (h : Balanced index capacity added out s) (d : Document) :
    Balanced index capacity (added ++ [d]) out ⟨s.outbox.add d, s.sink⟩ where
  index_eq := h.index_eq
  capacity_eq := h.capacity_eq
  booked := h.booked
  count := by
    have := h.count
    simp only [Outbox.add, List.length_append, List.length_singleton]
    omega
  sizes := h.sizes
  requests := h.requests
  parts := by rw [h.parts, List.append_assoc]; rfl
  posted := h.posted
  bodies := h.bodies

/-- Flushing sends what waits as one batch, or nothing if nothing waits. -/
lemma Balanced.flush (h : Balanced index capacity added out s)
    (hroom : s.outbox.pending.length ≤ capacity) :
    Balanced index capacity added (out ++ Call.parcels s .flush) (Call.apply s .flush) ∧
      (Call.apply s .flush).outbox.pending = [] := by
  by_cases hnil : s.outbox.pending = []
  · have happly : Call.apply s .flush = s := by
      simp only [Call.apply, flush_of_pending_eq_nil hnil]
    have hparcels : Call.parcels s .flush = [] := by simp [Call.parcels, happly]
    rw [happly, hparcels, List.append_nil]
    exact ⟨h, hnil⟩
  · have happly : Call.apply s .flush =
        ⟨(s.outbox.empty.settle s.outbox.pending.length
            (Sink.bulk s.sink s.outbox.index s.outbox.pending).1.outcome).outbox,
          (Sink.bulk s.sink s.outbox.index s.outbox.pending).2⟩ := by
      simp only [Call.apply, flush_of_pending_ne_nil hnil]
    have hparcels : Call.parcels s .flush = [.posted s.outbox.pending] := by
      simp [Call.parcels, happly]
    have hbooked : (Sink.bulk s.sink s.outbox.index s.outbox.pending).1.outcome.IsBooked :=
      ScriptedSink.outcome_bulk trivial h.booked
    obtain ⟨hdocuments, hbatches⟩ :=
      settle_counters s.outbox.empty s.outbox.pending.length hbooked
    rw [happly, hparcels]
    refine ⟨?_, settle_pending⟩
    constructor
    · exact settle_index.trans h.index_eq
    · exact settle_capacity.trans h.capacity_eq
    · intro d hd
      simp only [ScriptedSink.script_bulk] at hd
      exact h.booked d (List.mem_of_mem_tail hd)
    · have := h.count
      simp only [settle_pending, Outbox.empty, List.length_nil] at hdocuments ⊢
      omega
    · intro b hb
      simp only [ScriptedSink.batches_bulk, List.mem_append, List.mem_singleton] at hb
      rcases hb with hb | rfl
      · exact h.sizes b hb
      · exact ⟨List.length_pos_iff.2 hnil, hroom⟩
    · have := h.requests
      simp only [Outbox.empty, ScriptedSink.batches_bulk, List.length_append,
        List.length_singleton] at hbatches ⊢
      omega
    · rw [h.parts]
      simp [Parcel.documents, Outbox.empty]
    · rw [List.filterMap_append, h.posted, ScriptedSink.batches_bulk]
      rfl
    · rw [ScriptedSink.bodies_bulk, ScriptedSink.batches_bulk, h.bodies, h.index_eq,
        List.map_append, List.map_singleton]

lemma Balanced.discard (h : Balanced index capacity added out s) :
    Balanced index capacity added (out ++ Call.parcels s .discard)
      (Call.apply s .discard) where
  index_eq := h.index_eq
  capacity_eq := h.capacity_eq
  booked := h.booked
  count := by
    have := h.count
    simp only [Call.apply, Outbox.discard, List.length_nil]
    omega
  sizes := h.sizes
  requests := h.requests
  parts := by
    rw [h.parts]
    simp [Call.parcels, Call.apply, Parcel.documents, Outbox.discard]
  posted := by
    rw [List.filterMap_append, h.posted]
    simp [Call.parcels, Call.apply, Parcel.batch?]
  bodies := h.bodies

/-- The step: every call keeps the books and leaves room for one more document. -/
lemma Balanced.apply (h : Balanced index capacity added out s) (hcap : 1 ≤ capacity)
    (hroom : s.outbox.pending.length < capacity) (call : Call) :
    Balanced index capacity (added ++ call.added) (out ++ call.parcels s) (call.apply s) ∧
      (call.apply s).outbox.pending.length < capacity := by
  cases call with
  | add d =>
    have hput := h.put d
    have hlength : (s.outbox.add d).pending.length = s.outbox.pending.length + 1 := by
      simp [Outbox.add]
    by_cases hfull : (s.outbox.add d).isFull
    · -- a full outbox is flushed: the call is a flush of the office with the document in it
      have happly : Call.apply s (.add d) = Call.apply ⟨s.outbox.add d, s.sink⟩ .flush := by
        simp only [Call.apply, addAndFlush, hfull, if_true]
      have hparcels : Call.parcels s (.add d) = Call.parcels ⟨s.outbox.add d, s.sink⟩ .flush := by
        simp only [Call.parcels, happly]
      obtain ⟨hflush, hnil⟩ := hput.flush (by rw [hlength]; omega)
      rw [happly, hparcels, hnil]
      exact ⟨hflush, hcap⟩
    · have happly : Call.apply s (.add d) = ⟨s.outbox.add d, s.sink⟩ := by
        simp only [Call.apply, addAndFlush, hfull]
        rfl
      have hparcels : Call.parcels s (.add d) = [] := by simp [Call.parcels, happly]
      rw [happly, hparcels, List.append_nil]
      refine ⟨hput, ?_⟩
      have hcapacity : (s.outbox.add d).capacity = capacity := h.capacity_eq
      simp only [isFull, decide_eq_true_eq, hcapacity] at hfull
      simpa using hfull
  | flush =>
    obtain ⟨hflush, hnil⟩ := h.flush (Nat.le_of_lt hroom)
    rw [Call.added, List.append_nil, hnil]
    exact ⟨hflush, hcap⟩
  | discard =>
    rw [Call.added, List.append_nil]
    exact ⟨h.discard, hcap⟩

/-- The run: the books are kept by any number of calls. -/
lemma Balanced.run (hcap : 1 ≤ capacity) (calls : List Call) :
    ∀ {added out s}, Balanced index capacity added out s → s.outbox.pending.length < capacity →
      Balanced index capacity (added ++ calls.flatMap Call.added)
          (out ++ Call.parcelsOf s calls) (Call.run s calls) ∧
        (Call.run s calls).outbox.pending.length < capacity := by
  induction calls with
  | nil =>
    intro added out s h hroom
    simpa [Call.parcelsOf, Call.run] using ⟨h, hroom⟩
  | cons call rest ih =>
    intro added out s h hroom
    obtain ⟨hstep, hroom'⟩ := h.apply hcap hroom call
    have := ih hstep hroom'
    simpa only [List.flatMap_cons, Call.parcelsOf, Call.run, List.append_assoc] using this

/-- **The outbox neither loses, duplicates nor reorders documents.**  After any calls, whatever
the sink answers, the documents put in are those of the parcels that left, in this order, and
then those that wait; the posted parcels are the batches that the sink has, and the bodies that
were posted hold these batches, one each; and the counters agree with both. -/
theorem accounts_balance {index : Text} {capacity : Int} {o : Outbox}
    (hnew : Outbox.new? index capacity = some o) {script : List Delivery}
    (hscript : ∀ d ∈ script, d.outcome.IsBooked) (calls : List Call) :
    let start : Office := ⟨o, ⟨script, [], []⟩⟩
    let finish := Call.run start calls
    let out := Call.parcelsOf start calls
    (calls.flatMap Call.added).length =
        finish.outbox.shipped + finish.outbox.dropped + finish.outbox.pending.length ∧
      (finish.outbox.pending.length : Int) < capacity ∧
      (∀ b ∈ finish.sink.batches, 1 ≤ b.length ∧ (b.length : Int) ≤ capacity) ∧
      finish.outbox.batchesSent + finish.outbox.failedBatches = finish.sink.batches.length ∧
      calls.flatMap Call.added = out.flatMap Parcel.documents ++ finish.outbox.pending ∧
      out.filterMap Parcel.batch? = finish.sink.batches ∧
      List.Forall₂
        (fun body b => Bulk.Holds index body b ∧ 1 ≤ b.length ∧ (b.length : Int) ≤ capacity)
        finish.sink.bodies finish.sink.batches ∧
      finish.outbox.batchesSent + finish.outbox.failedBatches = finish.sink.bodies.length := by
  intro start finish out
  obtain ⟨hcap, rfl⟩ := new?_eq_some hnew
  have hstart : Balanced index capacity.toNat [] [] start :=
    ⟨rfl, rfl, hscript, rfl, by simp [start], rfl, rfl, rfl, rfl⟩
  obtain ⟨h, hroom⟩ := Balanced.run (by omega) calls hstart (by simp [start]; omega)
  rw [List.nil_append, List.nil_append] at h
  have hpending : finish.outbox.pending.length < capacity.toNat := hroom
  have hsizes : ∀ b ∈ finish.sink.batches, 1 ≤ b.length ∧ (b.length : Int) ≤ capacity := by
    intro b hb
    obtain ⟨hpos, hle⟩ := h.sizes b hb
    exact ⟨hpos, by omega⟩
  have hbodies : finish.sink.bodies = finish.sink.batches.map (Bulk.body index) := h.bodies
  refine ⟨h.count, by omega, hsizes, h.requests, h.parts, h.posted, ?_, ?_⟩
  · rw [hbodies, List.forall₂_map_left_iff, List.forall₂_same]
    intro b hb
    exact ⟨Bulk.holds_body index (List.length_pos_iff.1 (hsizes b hb).1), hsizes b hb⟩
  · rw [hbodies, List.length_map]
    exact h.requests

/-- A batch of two whose reply cannot be read to its end, a discarded document, and a batch whose
request fails: all four documents are accounted for. -/
theorem accounts_balance_of_malformed_reply :
    let d : Document := ⟨⟨0, by decide⟩, none, ['m'], ['r'], ['s']⟩
    let malformed : Json := .object [("errors".toList, .bool true), ("items".toList, .int 5)]
    let o : Outbox := ⟨"logs".toList, 2, [], 0, 0, 0, 0⟩
    let script : List Delivery := [⟨.reply malformed, 0⟩, ⟨.unavailable [], 0⟩]
    let finish := Call.run ⟨o, ⟨script, [], []⟩⟩ [.add d, .add d, .add d, .discard, .add d, .flush]
    Outbox.new? "logs".toList 2 = some o ∧ (∀ r ∈ script, r.outcome.IsBooked) ∧
      finish.outbox.batchesSent + finish.outbox.failedBatches = finish.sink.batches.length ∧
      4 = finish.outbox.shipped + finish.outbox.dropped + finish.outbox.pending.length := by
  intro d malformed o script finish
  have hnew : Outbox.new? "logs".toList 2 = some o := rfl
  have hscript : ∀ r ∈ script, r.outcome.IsBooked := by simp [script, Outcome.IsBooked]
  obtain ⟨hcount, -, -, hrequests, -⟩ :=
    accounts_balance hnew hscript [.add d, .add d, .add d, .discard, .add d, .flush]
  exact ⟨hnew, hscript, hrequests, hcount⟩

end Outbox

end LogSearch.Ingestion
