import LogSearch.Ingestion.Collector
import LogSearch.Proofs.Ingestion.Lines

/-!
# Waiting for outcomes

A file is read in runs: a run stops where the sink answers late, and `Collector.resume` makes the
next one.  If nothing else happens while an outcome is waited for, the runs together are one
reading of the file, which is `Collector.awaited`.  It comes to an end because each run takes at
least one line.

How late the answers are makes no difference to what comes of the reading.  This is stated with
a sink that answers at once what another sink would answer, `Prompt`.  Its runs never stop, so
that a reading is one recursion over the lines, and `prompt_awaited_tail` says that it comes to
the same as the runs that do.  Statements about a file are therefore proved of a prompt sink and
hold of every other.
-/

namespace LogSearch.Ingestion

/-! ## One reading -/

/-- A bound on the runs that are still to come after a result, when nothing changes in the
files: none at the end, one if only the outcome is missing, and otherwise one for every byte that
is left. -/
def FileResult.runsLeft (fs : Files) : FileResult → Nat
  | .finished _ | .failed _ => 0
  | .suspended s =>
    if s.atEnd then 1 else (s.file.remaining (fs.content s.file.number)).length + 2

namespace Collector

variable {σ : Type} [Sink σ] {site : Site} {c c' : Collector σ} {f : OpenFile}

/-- Sends what waits and goes on with `next` when the outcome is there. -/
def send (c : Collector σ) (f : OpenFile) (atEnd : Bool)
    (next : Collector σ → Collector σ × FileResult) : Collector σ × FileResult :=
  let (batch, delivery, c) := c.dispatch
  if delivery.isLate then
    (c, .suspended ⟨f.rest (c.files.content f.number), batch, delivery.outcome, delivery.delay,
      atEnd⟩)
  else
    match c.settle batch.length delivery.outcome with
    | (c, .error fault) => (c, .failed (.send fault))
    | (c, .ok _) => next c

lemma finishFile_eq (c : Collector σ) (f : OpenFile) :
    c.finishFile f =
      if c.outbox.pending = [] then c.complete f else c.send f true (·.complete f) := rfl

lemma readLines_nil (c : Collector σ) (f : OpenFile) :
    c.readLines site f [] =
      if f.failsAfter.isSome then (c, .failed (.read .refused)) else c.finishFile f := rfl

lemma readLines_cons (c : Collector σ) (f : OpenFile) (line : Bytes) (rest : List Bytes) :
    c.readLines site f (line :: rest) =
      if f.failsAfter = some 0 then (c, .failed (.read .refused))
      else
        match c.accept site f.path line with
        | (c, .error fault) => (c, .failed (.range fault))
        | (c, .ok none) => c.readLines site (f.takeLine line) rest
        | (c, .ok (some _)) =>
          if c.outbox.isFull then
            c.send (f.takeLine line) false fun c => c.readLines site (f.takeLine line) rest
          else c.readLines site (f.takeLine line) rest := rfl

@[simp] lemma dispatch_files (c : Collector σ) : c.dispatch.2.2.files = c.files := rfl

omit [Sink σ] in
@[simp] lemma settle_files (c : Collector σ) (size : Nat) (outcome : Outcome) :
    (c.settle size outcome).1.files = c.files := rfl

omit [Sink σ] in
lemma accept_files (site : Site) (c : Collector σ) (source : Text) (line : Bytes) :
    (c.accept site source line).1.files = c.files := by
  rw [accept]
  split <;> rfl

omit [Sink σ] in
lemma accept_sink (site : Site) (c : Collector σ) (source : Text) (line : Bytes) :
    (c.accept site source line).1.sink = c.sink := by
  rw [accept]
  split <;> rfl

omit [Sink σ] in
lemma accept_index (site : Site) (c : Collector σ) (source : Text) (line : Bytes) :
    (c.accept site source line).1.outbox.index = c.outbox.index := by
  rw [accept]
  split <;> rfl

/-- A request that stops the reading stops it where the sending stood. -/
lemma send_suspended {atEnd : Bool} {next : Collector σ → Collector σ × FileResult}
    {s : Suspension} (h : c.send f atEnd next = (c', .suspended s)) :
    (c'.files = c.files ∧ s.file = f.rest (c.files.content f.number) ∧ s.atEnd = atEnd) ∨
      ∃ c₁ : Collector σ, c₁.files = c.files ∧ next c₁ = (c', .suspended s) := by
  rw [send] at h
  simp only at h
  split at h
  next =>
    simp only [Prod.mk.injEq, FileResult.suspended.injEq] at h
    obtain ⟨rfl, rfl⟩ := h
    exact .inl ⟨rfl, rfl, rfl⟩
  next =>
    split at h
    next => simp at h
    next c₁ n hsettle =>
      refine .inr ⟨c₁, ?_, h⟩
      have hfiles := settle_files c.dispatch.2.2 c.dispatch.1.length c.dispatch.2.1.outcome
      rw [hsettle] at hfiles
      exact hfiles

/-- When the reading stops, it is the same file that is to be read on.  If it stops before the end,
at least one line has been taken since it went on. -/
lemma readLines_suspended {lines : List Bytes} {s : Suspension} (hlines : ∀ line ∈ lines, line ≠ [])
    (h : c.readLines site f lines = (c', .suspended s)) :
    c'.files = c.files ∧ s.file.path = f.path ∧
      (s.atEnd ∨ lines ≠ [] ∧ ∃ taken, f.taken < taken ∧
        s.file.remaining (c.files.content s.file.number) =
          (f.remaining (c.files.content f.number)).drop taken) := by
  induction lines generalizing c f with
  | nil =>
    rw [readLines_nil] at h
    split at h
    next => simp at h
    next =>
      rw [finishFile_eq] at h
      split at h
      next => simp [complete] at h
      next =>
        rcases send_suspended h with ⟨hfiles, hfile, hatEnd⟩ | ⟨c₁, -, hnext⟩
        · exact ⟨hfiles, hfile ▸ (f.rest_frame _).1, .inl hatEnd⟩
        · simp [complete] at hnext
  | cons line rest ih =>
    have hline : 0 < line.length := List.length_pos_iff.2 (hlines line List.mem_cons_self)
    have hrest : ∀ line ∈ rest, line ≠ [] := fun l hl => hlines l (List.mem_cons_of_mem _ hl)
    have haccept := accept_files site c f.path line
    -- what holds after the line is taken holds with it
    have hlater : ∀ c₁ : Collector σ, c₁.files = c.files →
        c₁.readLines site (f.takeLine line) rest = (c', .suspended s) →
        c'.files = c.files ∧ s.file.path = f.path ∧
          (s.atEnd ∨ line :: rest ≠ [] ∧ ∃ taken, f.taken < taken ∧
            s.file.remaining (c.files.content s.file.number) =
              (f.remaining (c.files.content f.number)).drop taken) := by
      intro c₁ hfiles hc₁
      obtain ⟨hsame, hpath, hleft⟩ := ih hrest hc₁
      rw [hfiles] at hsame hleft
      refine ⟨hsame, hpath, hleft.imp_right ?_⟩
      rintro ⟨-, taken, htaken, hremaining⟩
      exact ⟨List.cons_ne_nil _ _, taken, Nat.lt_of_le_of_lt (Nat.le_add_right _ _) htaken,
        hremaining⟩
    rw [readLines_cons] at h
    split at h
    next => simp at h
    next =>
      split at h
      next => simp at h
      next c₁ hc₁ => exact hlater c₁ (by rw [← haccept, hc₁]) h
      next c₁ d hc₁ =>
        have hfiles : c₁.files = c.files := by rw [← haccept, hc₁]
        split at h
        next =>
          rcases send_suspended h with ⟨hsame, hfile, -⟩ | ⟨c₂, hc₂, hnext⟩
          · rw [hfiles] at hsame hfile
            obtain ⟨hpath, hnumber, -⟩ :=
              (f.takeLine line).rest_frame (c.files.content (f.takeLine line).number)
            refine ⟨hsame, hfile ▸ hpath, .inr ⟨List.cons_ne_nil _ _, f.taken + line.length,
              by omega, ?_⟩⟩
            rw [hfile, hnumber]
            exact (f.takeLine line).remaining_rest (c.files.content f.number)
          · exact hlater c₂ (hc₂.trans hfiles) hnext
        next => exact hlater c₁ hfiles h

lemma readOn_suspended {s : Suspension} (h : c.readOn site f = (c', .suspended s)) :
    c'.files = c.files ∧ s.file.path = f.path ∧
      (s.atEnd ∨ f.remaining (c.files.content f.number) ≠ [] ∧ ∃ taken, f.taken < taken ∧
        s.file.remaining (c.files.content s.file.number) =
          (f.remaining (c.files.content f.number)).drop taken) := by
  rw [readOn] at h
  obtain ⟨hfiles, hpath, hleft⟩ := readLines_suspended (fun _ => ne_nil_of_mem_splitLines) h
  exact ⟨hfiles, hpath, hleft.imp_right (And.imp_left (mt splitLines_eq_nil.2))⟩

lemma runsLeft_resume_lt (site : Site) (c : Collector σ) (s : Suspension) :
    (c.resume site s).2.runsLeft (c.resume site s).1.files <
      (FileResult.suspended s).runsLeft c.files := by
  have hpositive : 0 < (FileResult.suspended s).runsLeft c.files := by
    rw [FileResult.runsLeft]
    split <;> omega
  have hfiles := settle_files c s.batch.length s.outcome
  rw [resume]
  split
  next => exact hpositive
  next c₁ n hsettle =>
    rw [hsettle] at hfiles
    split
    next => exact hpositive
    next hatEnd =>
      rcases hread : c₁.readOn site s.file with ⟨c₂, lines | fault | s₂⟩
      · exact hpositive
      · exact hpositive
      · -- the reading has stopped again, with fewer bytes left
        obtain ⟨hsame, -, hleft⟩ := readOn_suspended hread
        rw [hfiles] at hsame hleft
        simp only [FileResult.runsLeft, if_neg hatEnd, hsame]
        split
        next => omega
        next hmore =>
          obtain ⟨hsome, taken, htaken, hremaining⟩ := hleft.resolve_left hmore
          have hpos := List.length_pos_iff.2 hsome
          rw [hremaining, List.length_drop]
          omega

/-- The reading of a file from a result on, with every outcome waited for. -/
def awaited (site : Site) (r : Collector σ × FileResult) : Collector σ × FileResult :=
  match r with
  | (c, .suspended s) => awaited site (c.resume site s)
  | (c, .finished lines) => (c, .finished lines)
  | (c, .failed fault) => (c, .failed fault)
termination_by r.2.runsLeft r.1.files
decreasing_by exact runsLeft_resume_lt site c s

lemma awaited_suspended (site : Site) (c : Collector σ) (s : Suspension) :
    awaited site (c, .suspended s) = awaited site (c.resume site s) := by
  rw [awaited]

lemma awaited_finished (site : Site) (c : Collector σ) (lines : Nat) :
    awaited site (c, .finished lines) = (c, .finished lines) := by
  rw [awaited]

lemma awaited_failed (site : Site) (c : Collector σ) (fault : PassFault) :
    awaited site (c, .failed fault) = (c, .failed fault) := by
  rw [awaited]

lemma resume_suspended {s s' : Suspension} (h : c.resume site s = (c', .suspended s')) :
    s'.file.path = s.file.path := by
  rw [resume] at h
  split at h
  next => simp at h
  next =>
    split at h
    next => simp [complete] at h
    next => exact (readOn_suspended h).2.1

lemma tail_suspended {path : Text} {s : Suspension} (h : c.tail site path = (c', .suspended s)) :
    s.file.path = path := by
  rw [tail] at h
  split at h
  next => simp at h
  next =>
    split at h
    next => simp at h
    next => simp at h
    next => simp at h
    next => simp at h
    next number =>
      simp only [readFile] at h
      split at h
      next => exact (readOn_suspended h).2.1
      next =>
        split at h
        next => simp at h
        next => exact (readOn_suspended h).2.1

end Collector

/-! ## Prompt sinks -/

/-- A sink that answers at once what another sink would answer. -/
structure Prompt (σ : Type) where
  sink : σ

instance {σ : Type} [Sink σ] : Sink (Prompt σ) where
  bulk s index batch :=
    (⟨(Sink.bulk s.sink index batch).1.outcome, 0⟩, ⟨(Sink.bulk s.sink index batch).2⟩)
  lateAnswers _ := 0
  lateAnswers_bulk _ _ _ h := by simp [Delivery.isLate] at h

namespace Collector

variable {σ : Type} [Sink σ] {site : Site} {c c' : Collector σ} {f g : OpenFile}

/-- The collector with a prompt sink. -/
def prompt (c : Collector σ) : Collector (Prompt σ) := { c with sink := ⟨c.sink⟩ }

omit [Sink σ] in
@[simp] lemma prompt_files (c : Collector σ) : c.prompt.files = c.files := rfl

omit [Sink σ] in
@[simp] lemma prompt_outbox (c : Collector σ) : c.prompt.outbox = c.outbox := rfl

omit [Sink σ] in
@[simp] lemma prompt_offset (c : Collector σ) (path : Text) :
    c.prompt.offset path = c.offset path := rfl

omit [Sink σ] in
/-- Nothing is lost with a prompt sink. -/
lemma eq_of_prompt_eq {r r' : Collector σ × FileResult}
    (h : Prod.map prompt id r = Prod.map prompt id r') : r = r' := by
  obtain ⟨⟨⟩, result⟩ := r
  obtain ⟨⟨⟩, result'⟩ := r'
  simpa [prompt] using h

omit [Sink σ] in
lemma prompt_settle (c : Collector σ) (size : Nat) (outcome : Outcome) :
    c.prompt.settle size outcome =
      ((c.settle size outcome).1.prompt, (c.settle size outcome).2) := rfl

omit [Sink σ] in
lemma prompt_accept (site : Site) (c : Collector σ) (source : Text) (line : Bytes) :
    c.prompt.accept site source line =
      ((c.accept site source line).1.prompt, (c.accept site source line).2) := by
  rw [accept, accept]
  split <;> rfl

lemma prompt_send (c : Collector σ) (f : OpenFile) (atEnd : Bool)
    (next : Collector (Prompt σ) → Collector (Prompt σ) × FileResult) :
    c.prompt.send f atEnd next =
      match c.dispatch.2.2.settle c.dispatch.1.length c.dispatch.2.1.outcome with
      | (c, .error fault) => (c.prompt, .failed (.send fault))
      | (c, .ok _) => next c.prompt := by
  have hprompt : c.prompt.dispatch =
      (c.dispatch.1, ⟨c.dispatch.2.1.outcome, 0⟩, c.dispatch.2.2.prompt) := rfl
  have hlate : ¬ (Delivery.mk c.dispatch.2.1.outcome 0).isLate := by simp [Delivery.isLate]
  rw [send, hprompt]
  simp only [if_neg hlate, prompt_settle]
  rcases c.dispatch.2.2.settle c.dispatch.1.length c.dispatch.2.1.outcome with
    ⟨c₁, fault | n⟩ <;> rfl

/-- An outcome that is waited for is settled like one that is there at once. -/
lemma prompt_awaited_send {atEnd : Bool} {next : Collector σ → Collector σ × FileResult}
    {next' : Collector (Prompt σ) → Collector (Prompt σ) × FileResult}
    (hnext : ∀ c₁ : Collector σ, c₁.files = c.files →
      Prod.map prompt id (awaited site (next c₁)) = next' c₁.prompt)
    (hresume : ∀ c₁ : Collector σ, c₁.files = c.files →
      Prod.map prompt id (awaited site
        (if atEnd then c₁.complete (f.rest (c.files.content f.number))
          else c₁.readOn site (f.rest (c.files.content f.number)))) = next' c₁.prompt) :
    Prod.map prompt id (awaited site (c.send f atEnd next)) = c.prompt.send g atEnd next' := by
  have hfiles := settle_files c.dispatch.2.2 c.dispatch.1.length c.dispatch.2.1.outcome
  rw [dispatch_files] at hfiles
  rw [prompt_send, send]
  by_cases hlate : c.dispatch.2.1.isLate
  · simp only [if_pos hlate, awaited_suspended, resume]
    rcases hsettle : c.dispatch.2.2.settle c.dispatch.1.length c.dispatch.2.1.outcome with
      ⟨c₁, fault | n⟩
    · simp only [awaited_failed]
      rfl
    · rw [hsettle] at hfiles
      exact hresume c₁ hfiles
  · simp only [if_neg hlate]
    rcases hsettle : c.dispatch.2.2.settle c.dispatch.1.length c.dispatch.2.1.outcome with
      ⟨c₁, fault | n⟩
    · simp only [awaited_failed]
      rfl
    · rw [hsettle] at hfiles
      exact hnext c₁ hfiles

/-- Two open files agree except for the blocks in which their bytes are fetched. -/
structure Alike (f g : OpenFile) : Prop where
  path : f.path = g.path
  offset : f.offset = g.offset
  lines : f.lines = g.lines
  failsAfter : f.failsAfter = g.failsAfter

omit [Sink σ] in
lemma Alike.takeLine (h : Alike f g) (line : Bytes) :
    Alike (f.takeLine line) (g.takeLine line) where
  path := h.path
  offset := congrArg (· + (line.length : Int)) h.offset
  lines := congrArg (· + 1) h.lines
  failsAfter := congrArg (Option.map (· - 1)) h.failsAfter

omit [Sink σ] in
lemma Alike.rest (h : Alike f g) (content : Bytes) : Alike (f.rest content) g := by
  obtain ⟨hpath, -, hoffset, hlines, hfails, -⟩ := f.rest_frame content
  exact ⟨hpath.trans h.path, hoffset.trans h.offset, hlines.trans h.lines,
    hfails.trans h.failsAfter⟩

lemma prompt_awaited_complete (h : Alike f g) (c : Collector σ) :
    Prod.map prompt id (awaited site (c.complete f)) = c.prompt.complete g := by
  rw [complete, awaited_finished, h.path, h.offset, h.lines]
  rfl

lemma prompt_awaited_finishFile (h : Alike f g) (c : Collector σ) :
    Prod.map prompt id (awaited site (c.finishFile f)) = c.prompt.finishFile g := by
  rw [finishFile_eq, finishFile_eq]
  rw [prompt_outbox]
  split
  next => exact prompt_awaited_complete h c
  next =>
    refine prompt_awaited_send (fun c₁ _ => prompt_awaited_complete h c₁) fun c₁ _ => ?_
    rw [if_pos rfl]
    exact prompt_awaited_complete (h.rest _) c₁

/-- Reading lines comes to the same with a prompt sink.  The blocks matter only where the reading
stops, and there the lines that are left are the lines of what is left. -/
lemma prompt_awaited_readLines {lines : List Bytes} (h : Alike f g) (c : Collector σ)
    (hleft : splitLines ((f.remaining (c.files.content f.number)).drop f.taken) = lines) :
    Prod.map prompt id (awaited site (c.readLines site f lines)) =
      c.prompt.readLines site g lines := by
  induction lines generalizing c f g with
  | nil =>
    rw [readLines_nil, readLines_nil, h.failsAfter]
    split
    next =>
      rw [awaited_failed]
      rfl
    next => exact prompt_awaited_finishFile h c
  | cons line rest ih =>
    have hnext : splitLines (((f.takeLine line).remaining
        (c.files.content (f.takeLine line).number)).drop (f.takeLine line).taken) = rest := by
      have hdrop := splitLines_eq_cons hleft
      rw [List.drop_drop] at hdrop
      exact hdrop
    have hstep : ∀ c₁ : Collector σ, c₁.files = c.files →
        Prod.map prompt id (awaited site (c₁.readLines site (f.takeLine line) rest)) =
          c₁.prompt.readLines site (g.takeLine line) rest :=
      fun c₁ hfiles => ih (h.takeLine line) c₁ (hfiles ▸ hnext)
    have haccept := accept_files site c f.path line
    rw [readLines_cons, readLines_cons, prompt_accept, ← h.failsAfter, ← h.path]
    split
    next =>
      rw [awaited_failed]
      rfl
    next =>
      rcases hc₁ : c.accept site f.path line with ⟨c₁, fault | _ | d⟩
      · simp only [awaited_failed]
        rfl
      · rw [hc₁] at haccept
        exact hstep c₁ haccept
      · rw [hc₁] at haccept
        dsimp only
        rw [prompt_outbox]
        split
        next =>
          refine prompt_awaited_send (fun c₂ hc₂ => hstep c₂ (hc₂.trans haccept)) ?_
          intro c₂ hc₂
          rw [if_neg Bool.false_ne_true, readOn, hc₂, haccept]
          obtain ⟨-, hnumber, -, -, -, htaken⟩ :=
            (f.takeLine line).rest_frame (c.files.content (f.takeLine line).number)
          have hlines : splitLines (((f.takeLine line).rest
              (c.files.content (f.takeLine line).number)).remaining
                (c.files.content (f.takeLine line).number)) = rest := by
            rw [OpenFile.remaining_rest, hnext]
          rw [hnumber, hlines]
          refine ih ((h.takeLine line).rest _) c₂ ?_
          rw [hc₂, haccept, hnumber, htaken, List.drop_zero, hlines]
        next => exact hstep c₁ haccept

lemma prompt_awaited_readOn (c : Collector σ) (hf : f.taken = 0) :
    Prod.map prompt id (awaited site (c.readOn site f)) = c.prompt.readOn site f := by
  refine prompt_awaited_readLines ⟨rfl, rfl, rfl, rfl⟩ c ?_
  rw [hf, List.drop_zero]

/-- **Late answers make no difference.**  Reading what has been added to the file at a path, with
every outcome waited for, comes to the same as reading it with a sink that answers at once. -/
lemma prompt_awaited_tail (site : Site) (c : Collector σ) (path : Text) :
    Prod.map prompt id (awaited site (c.tail site path)) = c.prompt.tail site path := by
  rw [tail, tail]
  split
  next =>
    rw [awaited_failed]
    rfl
  next =>
    rw [prompt_files]
    cases c.files.find path with
    | vacant place =>
      simp only [awaited_finished]
      rfl
    | missing =>
      simp only [awaited_finished]
      rfl
    | unreachable fault =>
      simp only [awaited_failed]
      rfl
    | directory place =>
      simp only [awaited_finished]
      rfl
    | file number =>
      simp only [readFile]
      rw [prompt_files, prompt_offset]
      split
      next => exact prompt_awaited_readOn _ rfl
      next =>
        split
        next =>
          rw [awaited_failed]
          rfl
        next => exact prompt_awaited_readOn _ rfl

end Collector

end LogSearch.Ingestion
