import LogSearch.Proofs.Ingestion.Accounts
import LogSearch.Proofs.Ingestion.Walks

/-!
# No document leaves the books

A line that is turned into a document is counted as parsed, and from then on the document waits, or
is in a request that is under way, or has been booked as shipped or dropped.  Every part of a pass
keeps the number of documents that are in none of these places (`Collector.unbooked`) in step with
the requests under way, wherever the part comes to its end: at the end of a file, where a file
cannot be read, where a line or a reply cannot, and where an outcome has to be waited for.

The statement is one structure, `Kept`.  It is proved of one step, and so it holds of every walk.  A
request that is under way belongs to the `Suspension` that waits for it.

The outcome that is left out is a reply with text that is not UTF-8 (`Outcome.IsBooked`).
-/

namespace LogSearch.Ingestion

/-! ## What is under way -/

/-- The number of documents in the request that is waited for. -/
def inFlight : Option Suspension → Nat
  | some s => s.batch.length
  | none => 0

namespace Collector

/-- The number of parsed documents that have neither been booked nor are waiting. -/
def unbooked {σ : Type} (c : Collector σ) : Int :=
  c.counts.parsed - (c.outbox.shipped + c.outbox.dropped + c.outbox.pending.length)

/-- There is room for one more document, and all outcomes can be booked. -/
structure Sound (c : Collector ScriptedSink) : Prop where
  room : c.outbox.pending.length < c.outbox.capacity
  booked : ∀ d ∈ c.sink.script, d.outcome.IsBooked

/-- A part of a pass that began with `before` documents in a request of its own, and has come from
the collector `c` to `c'` and to what it waits for now. -/
structure Kept (c : Collector ScriptedSink) (before : Nat) (c' : Collector ScriptedSink)
    (s? : Option Suspension) : Prop where
  sound : c'.Sound
  capacity : c'.outbox.capacity = c.outbox.capacity
  script : c'.sink.script.length + s?.toList.length ≤ c.sink.script.length
  unbooked : c'.unbooked + before = c.unbooked + inFlight s?
  held : ∀ s ∈ s?, s.batch.length ≤ c.outbox.capacity ∧ s.outcome.IsBooked

variable {c c' c₁ : Collector ScriptedSink} {before : Nat} {fault? : Option PassFault}
  {s? : Option Suspension} {site : Site} {readable : Bytes → Prop}

lemma Sound.kept (h : c.Sound) (houtbox : c'.outbox = c.outbox) (hsink : c'.sink = c.sink)
    (hcounts : c'.counts = c.counts) : Kept c 0 c' none where
  sound := ⟨by rw [houtbox]; exact h.room, by rw [hsink]; exact h.booked⟩
  capacity := by rw [houtbox]
  script := by rw [hsink]; exact Nat.le_refl _
  unbooked := by rw [Collector.unbooked, Collector.unbooked, houtbox, hcounts]; rfl
  held s hs := by simp at hs

lemma Kept.trans (h : Kept c before c₁ none) (h' : Kept c₁ 0 c' s?) : Kept c before c' s? where
  sound := h'.sound
  capacity := h'.capacity.trans h.capacity
  script := Nat.le_trans h'.script (Nat.le_trans (Nat.le_add_right _ _) h.script)
  unbooked := by
    have hfirst := h.unbooked
    have hsecond := h'.unbooked
    simp only [inFlight] at hfirst
    omega
  held s hs := h.capacity ▸ h'.held s hs

lemma Sound.kept_discard (h : c.Sound) : Kept c 0 c.discard none where
  sound := ⟨Nat.zero_lt_of_lt h.room, h.booked⟩
  capacity := rfl
  script := Nat.le_refl _
  unbooked := by
    simp only [Collector.unbooked, discard, Outbox.discard, inFlight, List.length_nil]
    omega
  held s hs := by simp at hs

/-! ## Requests -/

lemma Sound.kept_settle (h : c.Sound) (size : Nat) {outcome : Outcome}
    (hbooked : outcome.IsBooked) :
    Kept c size (c.settle size outcome).1 none where
  sound := by
    constructor
    · change (c.outbox.settle size outcome).outbox.pending.length <
        (c.outbox.settle size outcome).outbox.capacity
      rw [Outbox.settle_pending, Outbox.settle_capacity]
      exact h.room
    · exact h.booked
  capacity := Outbox.settle_capacity
  script := Nat.le_refl _
  unbooked := by
    obtain ⟨hdocuments, -⟩ := Outbox.settle_counters c.outbox size hbooked
    have hpending : (c.outbox.settle size outcome).outbox.pending = c.outbox.pending :=
      Outbox.settle_pending
    simp only [Collector.unbooked, settle, inFlight, hpending]
    omega
  held s hs := by simp at hs

lemma script_pos_of_isLate {sink : ScriptedSink} (index : Text) (batch : List Document)
    (h : (Sink.bulk sink index batch).1.isLate) : 0 < sink.script.length := by
  cases hscript : sink.script with
  | nil =>
    have hlast : (Sink.bulk sink index batch).1 = ScriptedSink.lastDelivery := by
      change (ScriptedSink.bulk sink index batch).1 = _
      rw [ScriptedSink.bulk, hscript]
      rfl
    rw [hlast] at h
    simp [ScriptedSink.lastDelivery, Delivery.isLate] at h
  | cons d rest => exact Nat.succ_pos _

/-- A batch that is handed to the sink is in none of the places, and its outcome can be booked. -/
lemma dispatch_spec (hpositive : 0 < c.outbox.capacity)
    (hfits : c.outbox.pending.length ≤ c.outbox.capacity)
    (hbooked : ∀ d ∈ c.sink.script, d.outcome.IsBooked) {batch : List Document}
    {delivery : Delivery} (h : c.dispatch = (batch, delivery, c₁)) :
    c₁.Sound ∧ c₁.outbox.capacity = c.outbox.capacity ∧
      c₁.unbooked = c.unbooked + batch.length ∧ batch.length ≤ c.outbox.capacity ∧
      delivery.outcome.IsBooked ∧ c₁.sink.script.length ≤ c.sink.script.length ∧
      (delivery.isLate → c₁.sink.script.length < c.sink.script.length) := by
  obtain ⟨rfl, rfl, rfl⟩ : c.outbox.pending = batch ∧
      (Sink.bulk c.sink c.outbox.index c.outbox.pending).1 = delivery ∧
      { c with outbox := c.outbox.empty,
               sink := (Sink.bulk c.sink c.outbox.index c.outbox.pending).2 } = c₁ := by
    simpa only [dispatch, Prod.mk.injEq] using h
  simp only [ScriptedSink.script_bulk, List.length_tail]
  refine ⟨⟨hpositive, fun d hd => ?_⟩, rfl, ?_, hfits, ScriptedSink.outcome_bulk trivial hbooked,
    Nat.sub_le .., fun hlate => ?_⟩
  · simp only [ScriptedSink.script_bulk] at hd
    exact hbooked d (List.mem_of_mem_tail hd)
  · simp only [Collector.unbooked, Outbox.empty, List.length_nil]
    omega
  · have hpos := script_pos_of_isLate _ _ hlate
    omega

/-- The documents that are sent are under way, and booked when the outcome is there. -/
lemma Sends.kept (h : Sends c c' fault? s?) (hpositive : 0 < c.outbox.capacity)
    (hfits : c.outbox.pending.length ≤ c.outbox.capacity)
    (hbooked : ∀ d ∈ c.sink.script, d.outcome.IsBooked) : Kept c 0 c' s? := by
  rcases hdispatch : c.dispatch with ⟨batch, delivery, c₁⟩
  obtain ⟨hsound, hcapacity, hunbooked, hbatch, houtcome, hscript, hlater⟩ :=
    dispatch_spec hpositive hfits hbooked hdispatch
  have hatOnce : c.settleAtOnce = c₁.settle batch.length delivery.outcome := by
    rw [settleAtOnce, hdispatch]
  -- the batch is taken out and booked at once
  have hboth : Kept c 0 c.settleAtOnce.1 none := by
    have hsettle := hsound.kept_settle batch.length houtcome
    have hsame := hsettle.unbooked
    rw [hatOnce]
    refine ⟨hsettle.sound, hsettle.capacity.trans hcapacity,
      Nat.le_trans hsettle.script hscript, ?_, fun s hs => by simp at hs⟩
    omega
  cases h with
  | booked _ hsettle => rwa [hsettle] at hboth
  | unbooked _ hsettle => rwa [hsettle] at hboth
  | @late s hlate hbatch' houtcome' _ =>
    rw [hdispatch] at hlate hbatch' houtcome' ⊢
    subst hbatch'
    refine ⟨hsound, hcapacity, hlater hlate, by simp only [inFlight]; omega, fun x hx => ?_⟩
    obtain rfl := Option.some.inj hx
    exact ⟨hbatch, houtcome' ▸ houtcome⟩

/-! ## Steps -/

/-- A document that is counted and put into the outbox is not missing from the books. -/
lemma unbooked_add (c : Collector ScriptedSink) (d : Document) :
    unbooked { c with counts := c.counts.count (some d), outbox := c.outbox.add d } =
      c.unbooked := by
  simp only [unbooked, Line.Counts.count, Outbox.add, List.length_append, List.length_singleton]
  omega

lemma Step.kept (h : Step site readable c c' fault? s?) (hsound : c.Sound) : Kept c 0 c' s? := by
  have hroom := hsound.room
  cases h with
  | note _ houtbox hsink hcounts => exact hsound.kept houtbox hsink hcounts
  | stop => exact hsound.kept rfl rfl rfl
  | discard => exact hsound.kept_discard
  | refuse _ haccept =>
    obtain rfl := eq_of_accept_error haccept
    exact hsound.kept rfl rfl rfl
  | skip haccept =>
    obtain rfl := eq_of_accept_none haccept
    have hunbooked : unbooked { c with counts := c.counts.count none } = c.unbooked := rfl
    exact ⟨⟨hroom, hsound.booked⟩, rfl, Nat.le_refl _, congrArg (· + 0) hunbooked,
      fun s hs => by simp at hs⟩
  | @take _ _ _ d haccept hfull =>
    obtain rfl := eq_of_accept_some haccept
    simp only [Outbox.isFull, decide_eq_true_eq, Nat.not_le] at hfull
    exact ⟨⟨hfull, hsound.booked⟩, rfl, Nat.le_refl _, congrArg (· + 0) (c.unbooked_add d),
      fun s hs => by simp at hs⟩
  | send hsend =>
    exact hsend.kept (Nat.zero_lt_of_lt hroom) (Nat.le_of_lt hroom) hsound.booked
  | @fill _ _ _ _ d _ _ haccept hsend =>
    obtain rfl := eq_of_accept_some haccept
    have hfits : (c.outbox.add d).pending.length ≤ c.outbox.capacity := by
      rw [Outbox.add, List.length_append, List.length_singleton]
      exact hroom
    have hkept := hsend.kept (Nat.zero_lt_of_lt hroom) hfits hsound.booked
    -- what comes of the sending is as if it came before the line
    have hunbooked := hkept.unbooked
    rw [c.unbooked_add d] at hunbooked
    exact ⟨hkept.sound, hkept.capacity, hkept.script, hunbooked, hkept.held⟩

/-- Every walk keeps the books, wherever it comes to its end. -/
lemma Walk.kept (h : Walk site readable c c' fault? s?) (hsound : c.Sound) : Kept c 0 c' s? := by
  induction h with
  | nothing => exact hsound.kept rfl rfl rfl
  | last h => exact h.kept hsound
  | next h _ ih =>
    have hfirst := h.kept hsound
    exact hfirst.trans (ih hfirst.sound)

/-! ## Passes -/

lemma Sound.kept_pass (h : c.Sound) (paths : List Text) :
    Kept c 0 (c.pass site paths).1 (c.pass site paths).2.suspension? :=
  (walk_pass site c paths fun _ _ => trivial).kept h

/-- A pass that goes on settles its batch first. -/
lemma Sound.kept_resumePass (h : c.Sound) {s : Suspension} (hs : s.outcome.IsBooked)
    (paths : List Text) :
    Kept c s.batch.length (c.resumePass site s paths).1
      (c.resumePass site s paths).2.suspension? := by
  have hsettle := h.kept_settle s.batch.length hs
  have hwalk := walk_resumePass site c s paths (fun _ _ => trivial) fun _ _ => trivial
  exact hsettle.trans (hwalk.kept hsettle.sound)

end Collector

end LogSearch.Ingestion
