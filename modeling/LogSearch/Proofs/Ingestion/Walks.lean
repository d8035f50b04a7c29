import LogSearch.Proofs.Ingestion.Awaiting

/-!
# What a collector does, step by step

A pass goes through files, lines and requests, and it can stop in the middle of them.  Here it is
taken apart into steps: something is noted, a line is taken in, the documents that wait are sent or
given up, or the pass stops, for a fault or for an outcome (`Collector.Step`).  Passes and what
follows a wait are walks, one step after another (`Collector.walk_pass`,
`Collector.walk_resumePass`).

So whatever is to be shown of all passes has to be shown of the steps only.  The functions of the
collector are followed in this file and nowhere else for it.
-/

namespace LogSearch.Ingestion

/-- What a reading waits for. -/
def FileResult.suspension? : FileResult → Option Suspension
  | .suspended s => some s
  | .finished _ | .failed _ => none

/-- What a pass waits for. -/
def PassResult.suspension? : PassResult → Option Suspension
  | .suspended s _ => some s
  | .finished | .failed _ => none

/-- The fault for which a reading is given up. -/
@[simp]
def FileResult.fault? : FileResult → Option PassFault
  | .failed fault => some fault
  | .finished _ | .suspended _ => none

/-- The fault for which a pass is given up. -/
@[simp]
def PassResult.fault? : PassResult → Option PassFault
  | .failed fault => some fault
  | .finished | .suspended _ _ => none

namespace Collector

variable {σ : Type} [Sink σ]

/-- What comes of sending if the outcome is booked at once. -/
def settleAtOnce (c : Collector σ) : Collector σ × Except SendFault Nat :=
  c.dispatch.2.2.settle c.dispatch.1.length c.dispatch.2.1.outcome

/-- The documents that wait are sent.  The outcome is there at once and is booked, or it cannot be
booked to the end, or it has to be waited for. -/
inductive Sends (c : Collector σ) :
    Collector σ → Option PassFault → Option Suspension → Prop where
  | booked {c' : Collector σ} {size : Nat} (hlate : ¬ c.dispatch.2.1.isLate)
      (hsettle : c.settleAtOnce = (c', .ok size)) : Sends c c' none none
  | unbooked {c' : Collector σ} {fault : SendFault} (hlate : ¬ c.dispatch.2.1.isLate)
      (hsettle : c.settleAtOnce = (c', .error fault)) : Sends c c' (some (.send fault)) none
  | late {s : Suspension} (hlate : c.dispatch.2.1.isLate) (hbatch : s.batch = c.dispatch.1)
      (houtcome : s.outcome = c.dispatch.2.1.outcome) (hdelay : s.delay = c.dispatch.2.1.delay) :
      Sends c c.dispatch.2.2 none (some s)

/-- One step of a pass: where it leads, the fault that stops the reading there, and what is waited
for there.  `readable` are the lines that there are to be read. -/
inductive Step (site : Site) (readable : Bytes → Prop) (c : Collector σ) :
    Collector σ → Option PassFault → Option Suspension → Prop where
  | note {c' : Collector σ} (hfiles : c'.files = c.files) (houtbox : c'.outbox = c.outbox)
      (hsink : c'.sink = c.sink) (hcounts : c'.counts = c.counts) :
      Step site readable c c' none none
  | stop {fault : PassFault} (hfault : ∀ range, fault ≠ .range range) :
      Step site readable c c (some fault) none
  | discard : Step site readable c c.discard none none
  | refuse {c' : Collector σ} {source : Text} {line : Bytes} {fault : RangeFault}
      (hline : readable line) (haccept : c.accept site source line = (c', .error fault)) :
      Step site readable c c' (some (.range fault)) none
  | skip {c' : Collector σ} {source : Text} {line : Bytes}
      (haccept : c.accept site source line = (c', .ok none)) : Step site readable c c' none none
  | take {c' : Collector σ} {source : Text} {line : Bytes} {d : Document}
      (haccept : c.accept site source line = (c', .ok (some d))) (hroom : ¬ c'.outbox.isFull) :
      Step site readable c c' none none
  | send {c' : Collector σ} {fault? : Option PassFault} {s? : Option Suspension}
      (hsend : Sends c c' fault? s?) : Step site readable c c' fault? s?
  /-- The outbox is full with a document, and is sent. -/
  | fill {c₁ c' : Collector σ} {source : Text} {line : Bytes} {d : Document}
      {fault? : Option PassFault} {s? : Option Suspension}
      (haccept : c.accept site source line = (c₁, .ok (some d))) (hsend : Sends c₁ c' fault? s?) :
      Step site readable c c' fault? s?

/-- Steps one after the other.  Only the last one may have stopped the reading. -/
inductive Walk (site : Site) (readable : Bytes → Prop) :
    Collector σ → Collector σ → Option PassFault → Option Suspension → Prop where
  | nothing (c : Collector σ) : Walk site readable c c none none
  | last {c c' : Collector σ} {fault? : Option PassFault} {s? : Option Suspension}
      (h : Step site readable c c' fault? s?) : Walk site readable c c' fault? s?
  | next {c c₁ c' : Collector σ} {fault? : Option PassFault} {s? : Option Suspension}
      (h : Step site readable c c₁ none none) (hrest : Walk site readable c₁ c' fault? s?) :
      Walk site readable c c' fault? s?

variable {site : Site} {readable : Bytes → Prop} {c c₁ c' : Collector σ} {f : OpenFile}
  {fault? : Option PassFault} {s? : Option Suspension}

/-! ## Steps -/

omit [Sink σ] in
lemma eq_of_accept_error {source : Text} {line : Bytes} {fault : RangeFault}
    (h : c.accept site source line = (c', .error fault)) : c' = c := by
  rw [accept] at h
  split at h <;> simp only [Prod.mk.injEq, reduceCtorEq, and_false] at h
  exact h.1.symm

omit [Sink σ] in
lemma eq_of_accept_none {source : Text} {line : Bytes}
    (h : c.accept site source line = (c', .ok none)) :
    c' = { c with counts := c.counts.count none } := by
  rw [accept] at h
  split at h <;> simp only [Prod.mk.injEq, Except.ok.injEq, reduceCtorEq, and_false] at h
  exact h.1.symm

omit [Sink σ] in
lemma eq_of_accept_some {source : Text} {line : Bytes} {d : Document}
    (h : c.accept site source line = (c', .ok (some d))) :
    c' = { c with counts := c.counts.count (some d), outbox := c.outbox.add d } := by
  rw [accept] at h
  split at h <;> simp only [Prod.mk.injEq, Except.ok.injEq, Option.some.injEq, reduceCtorEq,
    and_false] at h
  obtain ⟨rfl, rfl⟩ := h
  rfl

lemma Sends.files (h : Sends c c' fault? s?) : c'.files = c.files := by
  have hsettle : c.settleAtOnce.1.files = c.files := rfl
  cases h with
  | booked _ h => rwa [h] at hsettle
  | unbooked _ h => rwa [h] at hsettle
  | late => rfl

lemma Step.files (h : Step site readable c c' fault? s?) : c'.files = c.files := by
  cases h with
  | note hfiles => exact hfiles
  | stop => rfl
  | discard => rfl
  | refuse _ haccept => rw [eq_of_accept_error haccept]
  | skip haccept => rw [eq_of_accept_none haccept]
  | take haccept => rw [eq_of_accept_some haccept]
  | send hsend => exact hsend.files
  | fill haccept hsend => rw [hsend.files, eq_of_accept_some haccept]

/-- Where a step stops for a fault, a reply is at fault, or a line that may be read, or all is left
as it was. -/
lemma Step.fault_cases {fault : PassFault} (h : Step site readable c c' (some fault) s?) :
    (∃ reply, fault = .send reply) ∨
      (∃ range source line, fault = .range range ∧ readable line ∧
        c.accept site source line = (c', .error range)) ∨
      c' = c ∧ ∀ range, fault ≠ .range range := by
  cases h with
  | stop hfault => exact .inr (.inr ⟨rfl, hfault⟩)
  | @refuse _ source line range hline haccept =>
    exact .inr (.inl ⟨range, source, line, rfl, hline, haccept⟩)
  | send hsend =>
    cases hsend
    exact .inl ⟨_, rfl⟩
  | fill _ hsend =>
    cases hsend
    exact .inl ⟨_, rfl⟩

/-! ## Walks -/

lemma Walk.files (h : Walk site readable c c' fault? s?) : c'.files = c.files := by
  induction h with
  | nothing => rfl
  | last h => exact h.files
  | next h _ ih => exact ih.trans h.files

lemma Walk.trans (h : Walk site readable c c₁ none none)
    (h' : Walk site readable c₁ c' fault? s?) : Walk site readable c c' fault? s? := by
  generalize hfault : (none : Option PassFault) = first? at h
  generalize hwait : (none : Option Suspension) = wait? at h
  induction h with
  | nothing => exact h'
  | last h =>
    subst hfault hwait
    exact .next h h'
  | next h _ ih => exact .next h (ih h' hfault hwait)

/-- A file that cannot be read leaves everything as it was when it was left. -/
lemma Walk.of_read {fault : ReadFault} (h : Walk site readable c c' (some (.read fault)) s?) :
    Walk site readable c c' none none := by
  generalize hfault : some (PassFault.read fault) = fault? at h
  induction h with
  | nothing => exact .nothing _
  | next h _ ih => exact .next h (ih hfault)
  | last h =>
    subst hfault
    obtain ⟨reply, hreply⟩ | ⟨range, _, _, hrange, -⟩ | ⟨rfl, -⟩ := h.fault_cases
    · cases hreply
    · cases hrange
    · exact .nothing _

/-! ## Files -/

/-- Sending is a step, on its own or together with what fills the outbox, and what comes after it
goes on from there. -/
lemma walk_send {before : Collector σ} {atEnd : Bool}
    {next : Collector σ → Collector σ × FileResult}
    (hstep : ∀ {c' : Collector σ} {fault? : Option PassFault} {s? : Option Suspension},
      Sends c c' fault? s? → Step site readable before c' fault? s?)
    (hnext : ∀ c₁ : Collector σ,
      Walk site readable c₁ (next c₁).1 (next c₁).2.fault? (next c₁).2.suspension?) :
    Walk site readable before (c.send f atEnd next).1 (c.send f atEnd next).2.fault?
      (c.send f atEnd next).2.suspension? := by
  by_cases hlate : c.dispatch.2.1.isLate
  · have hsend : c.send f atEnd next = (c.dispatch.2.2, .suspended
        ⟨f.rest (c.dispatch.2.2.files.content f.number), c.dispatch.1, c.dispatch.2.1.outcome,
          c.dispatch.2.1.delay, atEnd⟩) := if_pos hlate
    rw [hsend]
    exact .last (hstep (.late hlate rfl rfl rfl))
  · rcases hsettle : c.settleAtOnce with ⟨c₁, fault | size⟩
    · have hsend : c.send f atEnd next = (c₁, .failed (.send fault)) := by
        rw [settleAtOnce] at hsettle
        simp only [send, if_neg hlate, hsettle]
      rw [hsend]
      exact .last (hstep (.unbooked hlate hsettle))
    · have hsend : c.send f atEnd next = next c₁ := by
        rw [settleAtOnce] at hsettle
        simp only [send, if_neg hlate, hsettle]
      rw [hsend]
      exact .next (hstep (.booked hlate hsettle)) (hnext c₁)

/-- Keeping an offset is a note. -/
lemma walk_complete (c : Collector σ) (f : OpenFile) :
    Walk site readable c (c.complete f).1 (c.complete f).2.fault? (c.complete f).2.suspension? :=
  .last (.note rfl rfl rfl rfl)

lemma walk_finishFile (c : Collector σ) (f : OpenFile) :
    Walk site readable c (c.finishFile f).1 (c.finishFile f).2.fault?
      (c.finishFile f).2.suspension? := by
  rw [finishFile_eq]
  split
  · exact walk_complete c f
  · exact walk_send .send fun c₁ => walk_complete c₁ f

lemma walk_readLines {lines : List Bytes} (hlines : ∀ line ∈ lines, readable line) :
    Walk site readable c (c.readLines site f lines).1 (c.readLines site f lines).2.fault?
      (c.readLines site f lines).2.suspension? := by
  induction lines generalizing c f with
  | nil =>
    rw [readLines_nil]
    split
    · exact .last (.stop (by simp))
    · exact walk_finishFile c f
  | cons line rest ih =>
    obtain ⟨hline, hrest⟩ := List.forall_mem_cons.1 hlines
    rw [readLines_cons]
    split
    · exact .last (.stop (by simp))
    · rcases haccept : c.accept site f.path line with ⟨c₁, fault | _ | d⟩
      · exact .last (.refuse hline haccept)
      · exact .next (.skip haccept) (ih hrest)
      · dsimp only
        split
        · exact walk_send (.fill haccept) fun c₂ => ih hrest
        next hroom => exact .next (.take haccept hroom) (ih hrest)

/-- The lines that stand in the files, from some place on. -/
def InFiles (fs : Files) (line : Bytes) : Prop :=
  ∃ number start, line ∈ splitLines ((fs.content number).drop start)

lemma walk_tail (path : Text) (hreadable : ∀ line, InFiles c.files line → readable line) :
    Walk site readable c (c.tail site path).1 (c.tail site path).2.fault?
      (c.tail site path).2.suspension? := by
  rw [tail]
  split
  · exact .last (.stop (by simp))
  · split
    · exact .nothing c
    · exact .nothing c
    · exact .last (.stop (by simp))
    · exact .last (.note rfl rfl rfl rfl)
    next number _ =>
      have hlines : ∀ start, ∀ line ∈ splitLines ((c.files.content number).drop start),
          readable line := fun start line hline => hreadable line ⟨number, start, hline⟩
      simp only [readFile]
      split
      · -- that the file has become shorter is noted before it is read
        let c₁ : Collector σ :=
          { c.report .info
              (rotationMessage path (c.files.content number).length (c.offset path)) with
            rotations := c.rotations + 1 }
        have hnote : Step site readable c c₁ none none := .note rfl rfl rfl rfl
        exact .next hnote (walk_readLines (hlines 0))
      · split
        · exact .last (.stop (by simp))
        · exact walk_readLines (hlines _)

/-- After a wait the batch is settled, and the walk goes on from there. -/
lemma walk_resume (s : Suspension)
    (hreadable : ∀ line ∈ splitLines (s.file.remaining (c.files.content s.file.number)),
      readable line) :
    Walk site readable (c.settle s.batch.length s.outcome).1 (c.resume site s).1
      (c.resume site s).2.fault? (c.resume site s).2.suspension? := by
  have hfiles := settle_files c s.batch.length s.outcome
  rw [resume]
  rcases hsettle : c.settle s.batch.length s.outcome with ⟨c₁, fault | size⟩
  · exact .last (.stop (by simp))
  · rw [hsettle] at hfiles
    dsimp only
    split
    · exact walk_complete c₁ s.file
    · rw [← hfiles] at hreadable
      exact walk_readLines hreadable

/-! ## Passes -/

/-- A pass goes on after the reading of a file, or stops with it. -/
lemma Walk.proceed {r : Collector σ × FileResult} {path : Text} {paths : List Text}
    {go : Collector σ → Collector σ × PassResult}
    (h : Walk site readable c r.1 r.2.fault? r.2.suspension?)
    (hgo : ∀ c₁ : Collector σ, c₁.files = c.files →
      Walk site readable c₁ (go c₁).1 (go c₁).2.fault? (go c₁).2.suspension?) :
    Walk site readable c (Collector.proceed path paths go r).1
      (Collector.proceed path paths go r).2.fault?
      (Collector.proceed path paths go r).2.suspension? := by
  have hfiles := h.files
  obtain ⟨c₁, lines | fault | s⟩ := r
  · exact h.trans (hgo c₁ hfiles)
  · cases fault with
    | read fault =>
      refine (Walk.of_read h).trans (.next ?_ (.next .discard (hgo _ hfiles)))
      exact .note rfl rfl rfl rfl
    | nulInPath => exact h
    | range fault => exact h
    | send fault => exact h
  · exact h

lemma walk_pass (site : Site) (c : Collector σ) (paths : List Text)
    (hreadable : ∀ line, InFiles c.files line → readable line) :
    Walk site readable c (c.pass site paths).1 (c.pass site paths).2.fault?
      (c.pass site paths).2.suspension? := by
  induction paths generalizing c with
  | nil => exact .nothing c
  | cons configured paths ih =>
    rw [pass]
    exact (walk_tail _ hreadable).proceed fun c₁ hfiles => ih c₁ (hfiles ▸ hreadable)

lemma walk_resumePass (site : Site) (c : Collector σ) (s : Suspension) (paths : List Text)
    (hrest : ∀ line ∈ splitLines (s.file.remaining (c.files.content s.file.number)),
      readable line)
    (hreadable : ∀ line, InFiles c.files line → readable line) :
    Walk site readable (c.settle s.batch.length s.outcome).1 (c.resumePass site s paths).1
      (c.resumePass site s paths).2.fault? (c.resumePass site s paths).2.suspension? := by
  rw [resumePass]
  refine (walk_resume s hrest).proceed fun c₁ hfiles => walk_pass site c₁ paths ?_
  rw [hfiles, settle_files]
  exact hreadable

end Collector

end LogSearch.Ingestion
