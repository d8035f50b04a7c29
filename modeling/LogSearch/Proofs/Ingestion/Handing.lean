import LogSearch.Proofs.Ingestion.Scenes
import Mathlib.Logic.Relation

/-!
# What becomes of the sink

A service has its sink to itself, and all that it does with it is hand over batches.  So whatever a
sink keeps up with every batch, it keeps up through passes, waits and stops (`Handed.keeps`), in
whatever order they come.  This is so for the steps of the collector, and is followed through the
service from there, where `Service.Continues` says it together with the one other thing that lasts:
a service that has been started once has been started ever after.

A stop leaves no background: a delay ends at once, and a pass that does not come to its end in time
is cancelled (`Service.ends_stop`).
-/

namespace LogSearch.Ingestion

/-- The sink was handed batches, and nothing else has happened to it. -/
def Handed {σ : Type} [Sink σ] : σ → σ → Prop :=
  Relation.ReflTransGen fun s s' => ∃ index batch, s' = (Sink.bulk s index batch).2

variable {σ : Type} [Sink σ]

namespace Handed

lemma refl (s : σ) : Handed s s := Relation.ReflTransGen.refl

lemma of_eq {s s' : σ} (h : s' = s) : Handed s s' := h ▸ refl s

lemma trans {s s₁ s' : σ} (h : Handed s s₁) (h' : Handed s₁ s') : Handed s s' :=
  Relation.ReflTransGen.trans h h'

lemma bulk (s : σ) (index : Text) (batch : List Document) :
    Handed s (Sink.bulk s index batch).2 :=
  Relation.ReflTransGen.single ⟨index, batch, rfl⟩

/-- What every batch leaves true stays true. -/
lemma keeps {s s' : σ} {P : σ → Prop} (h : Handed s s') (hs : P s)
    (hbulk : ∀ s index batch, P s → P (Sink.bulk s index batch).2) : P s' := by
  induction h with
  | refl => exact hs
  | tail _ hlast ih =>
    obtain ⟨index, batch, rfl⟩ := hlast
    exact hbulk _ index batch ih

end Handed

/-! ## Passes -/

namespace Collector

variable {site : Site} {readable : Bytes → Prop} {c c' : Collector σ}
  {fault? : Option PassFault} {s? : Option Suspension}

lemma Sends.handed (h : Sends c c' fault? s?) : Handed c.sink c'.sink := by
  have hdispatch : Handed c.sink c.dispatch.2.2.sink := .bulk c.sink c.outbox.index _
  have hsettle : c.settleAtOnce.1.sink = c.dispatch.2.2.sink := rfl
  rw [← hsettle] at hdispatch
  cases h with
  | booked _ h => rwa [h] at hdispatch
  | unbooked _ h => rwa [h] at hdispatch
  | late => exact hdispatch

lemma Step.handed (h : Step site readable c c' fault? s?) : Handed c.sink c'.sink := by
  cases h with
  | note _ _ hsink => exact .of_eq hsink
  | stop => exact .refl _
  | discard => exact .refl _
  | refuse _ haccept => exact .of_eq (by rw [eq_of_accept_error haccept])
  | skip haccept => exact .of_eq (by rw [eq_of_accept_none haccept])
  | take haccept => exact .of_eq (by rw [eq_of_accept_some haccept])
  | send hsend => exact hsend.handed
  | fill haccept hsend =>
    have hsink := congrArg Collector.sink (eq_of_accept_some haccept)
    exact (Handed.of_eq hsink).trans hsend.handed

lemma Walk.handed (h : Walk site readable c c' fault? s?) : Handed c.sink c'.sink := by
  induction h with
  | nothing => exact .refl _
  | last h => exact h.handed
  | next h _ ih => exact h.handed.trans ih

lemma handed_pass (site : Site) (c : Collector σ) (paths : List Text) :
    Handed c.sink (c.pass site paths).1.sink :=
  (walk_pass site c paths fun _ _ => trivial).handed

lemma handed_resumePass (site : Site) (c : Collector σ) (s : Suspension) (paths : List Text) :
    Handed c.sink (c.resumePass site s paths).1.sink := by
  have hsettle : Handed c.sink (c.settle s.batch.length s.outcome).1.sink := .refl _
  exact hsettle.trans
    (walk_resumePass site c s paths (fun _ _ => trivial) fun _ _ => trivial).handed

end Collector

/-! ## The service -/

namespace Service

/-- The service goes on, with nothing done to its sink but batches handed over, and if it was
started before, then it was. -/
structure Continues (s s' : Service σ) : Prop where
  handed : Handed s.collector.sink s'.collector.sink
  started : s'.stopRequested.isSome = s.stopRequested.isSome

variable {s s₁ s' : Service σ}

lemma Continues.refl (s : Service σ) : Continues s s := ⟨.refl _, rfl⟩

lemma Continues.trans (h : Continues s s₁) (h' : Continues s₁ s') : Continues s s' :=
  ⟨h.handed.trans h'.handed, h'.started.trans h.started⟩

lemma Continues.of_same (hsink : s'.collector.sink = s.collector.sink)
    (hrequested : s'.stopRequested = s.stopRequested) : Continues s s' :=
  ⟨.of_eq hsink, by rw [hrequested]⟩

omit [Sink σ] in
lemma stopRequested_rest (s : Service σ) : s.rest.stopRequested = s.stopRequested := by
  rw [rest]
  split
  · rfl
  · split <;> rfl

omit [Sink σ] in
lemma stopRequested_afterPass (s : Service σ) (r : Collector σ × PassResult) :
    (s.afterPass r).stopRequested = s.stopRequested := by
  obtain ⟨c, _ | fault | ⟨x, paths⟩⟩ := r
  · exact stopRequested_rest _
  · exact stopRequested_rest _
  · rfl

lemma continues_afterPass {r : Collector σ × PassResult}
    (h : Handed s.collector.sink r.1.sink) : Continues s (s.afterPass r) :=
  ⟨(s.afterPass_frame r).2.1.symm ▸ h, by rw [stopRequested_afterPass]⟩

lemma handed_makePass (s : Service σ) : Handed s.collector.sink s.makePass.1.sink := by
  rw [makePass]
  split
  · exact Collector.handed_pass ..
  · exact .refl _

lemma continues_wake (s : Service σ) : Continues s s.wake := by
  rw [wake]
  split
  next => exact .refl s
  next task _ =>
    have hclock : Continues s { s with clock := task.timer.due.getD s.clock } := .of_same rfl rfl
    refine hclock.trans ?_
    cases task with
    | passing timer x paths => exact continues_afterPass (Collector.handed_resumePass ..)
    | created | delaying | resting | turning => exact continues_afterPass (handed_makePass _)

lemma continues_runUntil (moment : Rat) (number : Option Nat) (fuel : Nat) (s : Service σ) :
    Continues s (runUntil moment number fuel s) := by
  induction fuel generalizing s with
  | zero => exact .refl s
  | succ fuel ih =>
    rw [runUntil]
    split
    · exact .refl s
    · split
      · exact (continues_wake s).trans (ih s.wake)
      · exact .refl s

omit [Sink σ] in
lemma stopRequested_begun (s : Service σ) : s.begun.stopRequested = s.stopRequested := by
  rw [begun]
  split
  · simp only
    split
    · rfl
    · split <;> rfl
  · rfl

lemma continues_begun (s : Service σ) : Continues s s.begun :=
  .of_same (congrArg Collector.sink s.begun_frame.1) s.stopRequested_begun

lemma continues_runTo (s : Service σ) (moment : Rat) (number : Option Nat) :
    Continues s (s.runTo moment number) :=
  s.continues_begun.trans (continues_runUntil moment number _ s.begun)

lemma continues_waitUntil (s : Service σ) (moment : Rat) (number : Option Nat) :
    Continues s (s.waitUntil moment number) :=
  (continues_runTo s moment number).trans (.of_same rfl rfl)

lemma continues_pause (s : Service σ) (seconds : Rat) : Continues s (s.pause seconds) := by
  have htimer : Continues s { s with timersSet := s.timersSet + 1 } := .of_same rfl rfl
  exact htimer.trans (continues_waitUntil ..)

lemma continues_advance (s : Service σ) (seconds : Rat) : Continues s (s.advance seconds) :=
  continues_waitUntil ..

lemma continues_finishPass (fuel : Nat) {r : Collector σ × PassResult}
    (h : Handed s.collector.sink r.1.sink) : Continues s (finishPass fuel s r).1 := by
  induction fuel generalizing s r with
  | zero =>
    obtain ⟨c, _ | fault | ⟨x, paths⟩⟩ := r
    all_goals exact ⟨h, rfl⟩
  | succ fuel ih =>
    obtain ⟨c, _ | fault | ⟨x, paths⟩⟩ := r
    · exact ⟨h, rfl⟩
    · exact ⟨h, rfl⟩
    · have hpassed : Continues s { s with collector := c } := ⟨h, rfl⟩
      rw [finishPass]
      exact (hpassed.trans (continues_pause _ x.delay)).trans
        (ih (Collector.handed_resumePass ..))

lemma continues_tick (s : Service σ) : Continues s s.tick.1 := by
  rw [tick]
  split
  · exact continues_finishPass _ (handed_makePass s)
  · exact .refl s

lemma ends_forceStop (s : Service σ) : Continues s s.forceStop ∧ s.forceStop.task = none := by
  obtain ⟨c, hsink, hcancel⟩ := s.exists_cancel_eq
  rw [forceStop, hcancel]
  exact ⟨.of_same hsink rfl, rfl⟩

lemma ends_awaitEnd (s : Service σ) (w : Rat) :
    Continues s (s.awaitEnd (some w)) ∧ (s.awaitEnd (some w)).task = none := by
  have hruns := continues_runTo s (s.clock + w) (some s.timersSet)
  rw [awaitEnd]
  split
  · exact s.ends_forceStop
  · simp only
    generalize s.runTo (s.clock + w) (some s.timersSet) = s₁ at hruns ⊢
    split
    · have hset : Continues s₁ { s₁ with clock := s.clock + w } := .of_same rfl rfl
      obtain ⟨hforced, hidle⟩ := ends_forceStop { s₁ with clock := s.clock + w }
      exact ⟨(hruns.trans hset).trans hforced, hidle⟩
    next hidle =>
      rw [isRunning, Option.not_isSome_iff_eq_none] at hidle
      exact ⟨hruns, hidle⟩

/-- **A stop leaves no background**, whatever it was at: a delay ends at once, and anything else
comes to its end in time or is cancelled. -/
lemma ends_stop (h : s.stopRequested.isSome) (w : Rat) :
    Continues s (s.stop (some w)) ∧ (s.stop (some w)).task = none := by
  have hreported (s₁ : Service σ) (h₁ : Continues s s₁ ∧ s₁.task = none) :
      Continues s s₁.reportStopped ∧ s₁.reportStopped.task = none :=
    ⟨h₁.1.trans (.of_same rfl rfl), h₁.2⟩
  have hrequested : Continues s { s with stopRequested := some true } := ⟨.refl _, h.symm⟩
  rw [stop, if_neg (Option.isSome_iff_ne_none.1 h)]
  refine hreported _ ?_
  dsimp only
  split
  next htask => exact ⟨hrequested, htask⟩
  next =>
    split
    · exact ⟨hrequested.trans (.of_same rfl rfl), rfl⟩
    · obtain ⟨hcontinues, hidle⟩ := ends_awaitEnd { s with stopRequested := some true } w
      exact ⟨hrequested.trans hcontinues, hidle⟩

omit [Sink σ] in
lemma stopRequested_start (h : s.task = none) : s.start.stopRequested = some false := by
  rw [start, isRunning, h]
  rfl

end Service

end LogSearch.Ingestion
