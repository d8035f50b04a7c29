import LogSearch.Proofs.Ingestion.Accounts
import LogSearch.Proofs.Ingestion.Awaiting

/-!
# One pass over a file

What comes of reading a file to its end: the lines become documents in their order, and the
documents go to the sink in full batches, with one more batch for those that are left.  This is
said by an equation.  The reading of the lines is the sending of these batches and then
`Collector.complete`, which moves the offset (`exists_sent_readLines`); `Sent` says what the
sending leaves as it was.

The sink may refuse requests and answer late.  Left out are the outcomes that cannot be booked to
the end (`Outcome.IsCounted`) and lines that begin with a timestamp out of range (`Site.Reads`),
each of which ends the reading with a fault.  So does a file whose reading breaks off; what was read
of it before that is dealt with in `exists_sent_readLines_append`.

`exists_sent_awaited_tail` is the pass as a whole, late answers included, over a file that holds at
least as much as was read of it before.
-/

namespace LogSearch.Ingestion

/-! ## Documents -/

/-- No line begins with a timestamp that is out of range. -/
def Site.Reads (site : Site) (source : Text) (lines : List Bytes) : Prop :=
  ∀ line ∈ lines, ∃ d, Line.document? site.zone site.now source (lineText line) = .ok d

/-- The document of a line, if it has one. -/
def Site.document? (site : Site) (source : Text) (line : Bytes) : Option Document :=
  match Line.document? site.zone site.now source (lineText line) with
  | .ok d => d
  | .error _ => none

/-- The documents of the lines of a file, in their order. -/
def Site.documents (site : Site) (source : Text) (lines : List Bytes) : List Document :=
  lines.filterMap (site.document? source)

/-! ## Batches -/

/-- The batches in which documents are sent, one after the other, when others wait already. -/
def inBatches (capacity : Nat) (waiting : List Document) : List Document → List (List Document)
  | [] => if waiting = [] then [] else [waiting]
  | d :: rest =>
    if capacity ≤ waiting.length + 1 then (waiting ++ [d]) :: inBatches capacity [] rest
    else inBatches capacity (waiting ++ [d]) rest

lemma flatten_inBatches (capacity : Nat) (waiting documents : List Document) :
    (inBatches capacity waiting documents).flatten = waiting ++ documents := by
  induction documents generalizing waiting with
  | nil =>
    rw [inBatches]
    split
    next h => simp [h]
    next => simp
  | cons d rest ih =>
    rw [inBatches]
    split
    · simp [ih]
    · simp [ih]

/-- The full batches among them; more of the same may be sent later. -/
def fullBatches {α : Type} (capacity : Nat) (waiting : List α) : List α → List (List α)
  | [] => []
  | d :: rest =>
    if capacity ≤ waiting.length + 1 then (waiting ++ [d]) :: fullBatches capacity [] rest
    else fullBatches capacity (waiting ++ [d]) rest

/-- What waits after the last full batch. -/
def leftOver {α : Type} (capacity : Nat) (waiting : List α) : List α → List α
  | [] => waiting
  | d :: rest =>
    if capacity ≤ waiting.length + 1 then leftOver capacity [] rest
    else leftOver capacity (waiting ++ [d]) rest

/-- All batches are the full ones, and one more for what is left. -/
lemma inBatches_eq (capacity : Nat) (waiting documents : List Document) :
    inBatches capacity waiting documents =
      fullBatches capacity waiting documents ++
        if leftOver capacity waiting documents = [] then []
        else [leftOver capacity waiting documents] := by
  induction documents generalizing waiting with
  | nil => rfl
  | cons d rest ih =>
    rw [inBatches, fullBatches, leftOver]
    split
    · rw [ih, List.cons_append]
    · rw [ih]

/-! ## Sending -/

/-- The outcome can be booked to the end: the request failed, or the reply says how many
documents were rejected. -/
def Outcome.IsCounted : Outcome → Prop
  | .unavailable _ => True
  | .undecodable _ => False
  | .reply body => ∃ rejected, Bulk.countRejected body = .ok rejected

lemma Outbox.exists_result_settle (o : Outbox) (size : Nat) {outcome : Outcome}
    (h : outcome.IsCounted) : ∃ n, (o.settle size outcome).result = .ok n := by
  cases outcome with
  | unavailable message => exact ⟨0, rfl⟩
  | undecodable fault => exact h.elim
  | reply body =>
    obtain ⟨rejected, hrejected⟩ := h
    rw [settle]
    simp only [hrejected]
    cases rejected with
    | none => exact ⟨size, rfl⟩
    | some n => exact ⟨size, rfl⟩

/-- The collector `c'` is `c` after the batches were sent; what waits may differ. -/
structure Sent (batches : List (List Document)) (c c' : Collector ScriptedSink) : Prop where
  files : c'.files = c.files
  offsets : c'.offsets = c.offsets
  rotations : c'.rotations = c.rotations
  linesRead : c'.linesRead = c.linesRead
  capacity : c'.outbox.capacity = c.outbox.capacity
  batches : c'.sink.batches = c.sink.batches ++ batches
  script : ∀ d ∈ c'.sink.script, d ∈ c.sink.script

lemma Sent.refl (c : Collector ScriptedSink) : Sent [] c c :=
  ⟨rfl, rfl, rfl, rfl, rfl, (List.append_nil _).symm, fun _ => id⟩

lemma Sent.trans {first second : List (List Document)} {c c₁ c₂ : Collector ScriptedSink}
    (h : Sent first c c₁) (h' : Sent second c₁ c₂) : Sent (first ++ second) c c₂ where
  files := h'.files.trans h.files
  offsets := h'.offsets.trans h.offsets
  rotations := h'.rotations.trans h.rotations
  linesRead := h'.linesRead.trans h.linesRead
  capacity := h'.capacity.trans h.capacity
  batches := by rw [h'.batches, h.batches, List.append_assoc]
  script d hd := h.script d (h'.script d hd)

/-- With every line that is taken, the reading is one line nearer to where it breaks off. -/
lemma OpenFile.failsAfter_foldl_takeLine (lines : List Bytes) (f : OpenFile) :
    (lines.foldl takeLine f).failsAfter = f.failsAfter.map (· - lines.length) := by
  induction lines generalizing f with
  | nil => simp
  | cons line rest ih =>
    rw [List.foldl_cons, ih, takeLine, Option.map_map, List.length_cons]
    congr 1
    funext n
    simp only [Function.comp_apply]
    omega

namespace Collector

variable {site : Site} {c : Collector ScriptedSink} {f : OpenFile}

/-- Sending posts what waits as one batch and goes on. -/
lemma exists_sent_send (hcounted : ∀ d ∈ c.sink.script, d.outcome.IsCounted)
    (f : OpenFile) (atEnd : Bool)
    (next : Collector (Prompt ScriptedSink) → Collector (Prompt ScriptedSink) × FileResult) :
    ∃ c₁, Sent [c.outbox.pending] c c₁ ∧ c₁.outbox.pending = [] ∧
      c.prompt.send f atEnd next = next c₁.prompt := by
  have houtcome : (Sink.bulk c.sink c.outbox.index c.outbox.pending).1.outcome.IsCounted :=
    ScriptedSink.outcome_bulk ⟨none, rfl⟩ hcounted
  obtain ⟨n, hn⟩ :=
    c.dispatch.2.2.outbox.exists_result_settle c.dispatch.1.length houtcome
  have hsettle : c.dispatch.2.2.settle c.dispatch.1.length c.dispatch.2.1.outcome =
      ((c.dispatch.2.2.settle c.dispatch.1.length c.dispatch.2.1.outcome).1, .ok n) := by
    rw [← hn]
    rfl
  have hsink : (c.dispatch.2.2.settle c.dispatch.1.length c.dispatch.2.1.outcome).1.sink =
      (Sink.bulk c.sink c.outbox.index c.outbox.pending).2 := rfl
  refine ⟨(c.dispatch.2.2.settle c.dispatch.1.length c.dispatch.2.1.outcome).1, ?_,
    Outbox.settle_pending, ?_⟩
  · constructor
    · rfl
    · rfl
    · rfl
    · rfl
    · exact Outbox.settle_capacity
    · rw [hsink, ScriptedSink.batches_bulk]
    · intro d hd
      rw [hsink, ScriptedSink.script_bulk] at hd
      exact List.mem_of_mem_tail hd
  · rw [prompt_send, hsettle]

lemma exists_sent_accept {source : Text} {line : Bytes}
    (hread : ∃ d, Line.document? site.zone site.now source (lineText line) = .ok d) :
    ∃ c₁, Sent [] c c₁ ∧
      c₁.outbox.pending = c.outbox.pending ++ (site.document? source line).toList ∧
      c.accept site source line = (c₁, .ok (site.document? source line)) := by
  obtain ⟨d, hd⟩ := hread
  rw [accept, Site.document?, hd]
  cases d with
  | none =>
    exact ⟨{ c with counts := c.counts.count none },
      ⟨rfl, rfl, rfl, rfl, rfl, (List.append_nil _).symm, fun _ => id⟩,
      (List.append_nil _).symm, rfl⟩
  | some d =>
    exact ⟨{ c with counts := c.counts.count (some d), outbox := c.outbox.add d },
      ⟨rfl, rfl, rfl, rfl, rfl, (List.append_nil _).symm, fun _ => id⟩, rfl, rfl⟩

/-- Lines that are taken before the reading breaks off become documents, and these are sent in full
batches behind those that wait. -/
lemma exists_sent_readLines_append {source : Text} {taken : List Bytes} (rest : List Bytes)
    (hcounted : ∀ d ∈ c.sink.script, d.outcome.IsCounted)
    (hroom : c.outbox.pending.length < c.outbox.capacity) (hpath : f.path = source)
    (hfails : ∀ k, f.failsAfter = some k → taken.length ≤ k) (hreads : site.Reads source taken) :
    ∃ c₁,
      Sent (fullBatches c.outbox.capacity c.outbox.pending (site.documents source taken)) c c₁ ∧
      c₁.outbox.pending =
        leftOver c.outbox.capacity c.outbox.pending (site.documents source taken) ∧
      c₁.outbox.pending.length < c.outbox.capacity ∧
      c.prompt.readLines site f (taken ++ rest) =
        c₁.prompt.readLines site (taken.foldl OpenFile.takeLine f) rest := by
  induction taken generalizing c f with
  | nil => exact ⟨c, .refl c, rfl, hroom, rfl⟩
  | cons line taken ih =>
    have hlater : site.Reads source taken := fun l hl => hreads l (List.mem_cons_of_mem _ hl)
    have hpath' : (f.takeLine line).path = source := hpath
    have hsome : f.failsAfter ≠ some 0 := fun h => absurd (hfails 0 h) (Nat.not_succ_le_zero _)
    have hfails' : ∀ k, (f.takeLine line).failsAfter = some k → taken.length ≤ k := by
      intro k hk
      obtain ⟨n, hn, rfl⟩ := Option.map_eq_some_iff.1 hk
      have hlength := hfails n hn
      rw [List.length_cons] at hlength
      omega
    obtain ⟨c₀, hsent, hpending, haccept⟩ :=
      exists_sent_accept (c := c) (hreads line List.mem_cons_self)
    have hcounted₀ : ∀ d ∈ c₀.sink.script, d.outcome.IsCounted :=
      fun d hd => hcounted d (hsent.script d hd)
    rw [List.cons_append, readLines_cons, if_neg hsome, prompt_accept, hpath, haccept,
      Site.documents, List.filterMap_cons, List.foldl_cons]
    cases hd : site.document? source line with
    | none =>
      rw [hd, Option.toList_none, List.append_nil] at hpending
      obtain ⟨c₁, hsent₁, hleft, hroom₁, hlines⟩ :=
        ih hcounted₀ (by rwa [hpending, hsent.capacity]) hpath' hfails' hlater
      rw [hpending, hsent.capacity] at hsent₁ hleft
      rw [hsent.capacity] at hroom₁
      exact ⟨c₁, hsent.trans hsent₁, hleft, hroom₁, hlines⟩
    | some d =>
      rw [hd, Option.toList_some] at hpending
      have hfull : c₀.prompt.outbox.isFull =
          decide (c.outbox.capacity ≤ c.outbox.pending.length + 1) := by
        rw [prompt_outbox, Outbox.isFull, hsent.capacity, hpending, List.length_append,
          List.length_singleton]
      simp only [hfull, decide_eq_true_eq]
      rw [fullBatches, leftOver]
      by_cases hle : c.outbox.capacity ≤ c.outbox.pending.length + 1
      · -- the outbox is full: what waits is sent, and the rest begins with an empty outbox
        obtain ⟨c₁, hsent₁, hempty₁, hsend⟩ := exists_sent_send hcounted₀ (f.takeLine line) false
          fun c => c.readLines site (f.takeLine line) (taken ++ rest)
        obtain ⟨c₂, hsent₂, hleft, hroom₂, hlines⟩ :=
          ih (c := c₁) (fun d hd => hcounted₀ d (hsent₁.script d hd))
            (by rw [hempty₁, hsent₁.capacity, hsent.capacity]; exact Nat.zero_lt_of_lt hroom)
            hpath' hfails' hlater
        rw [hempty₁, hsent₁.capacity, hsent.capacity] at hsent₂ hleft
        rw [hsent₁.capacity, hsent.capacity] at hroom₂
        rw [hpending] at hsent₁
        rw [if_pos hle, if_pos hle, if_pos hle]
        exact ⟨c₂, (hsent.trans hsent₁).trans hsent₂, hleft, hroom₂, hsend.trans hlines⟩
      · obtain ⟨c₁, hsent₁, hleft, hroom₁, hlines⟩ :=
          ih hcounted₀ (by rw [hpending, hsent.capacity, List.length_append,
            List.length_singleton]; omega) hpath' hfails' hlater
        rw [hpending, hsent.capacity] at hsent₁ hleft
        rw [hsent.capacity] at hroom₁
        rw [if_neg hle, if_neg hle, if_neg hle]
        exact ⟨c₁, hsent.trans hsent₁, hleft, hroom₁, hlines⟩

/-- The lines of a file become documents, which are sent in batches behind those that wait; then
the file is complete. -/
lemma exists_sent_readLines {source : Text} {lines : List Bytes}
    (hcounted : ∀ d ∈ c.sink.script, d.outcome.IsCounted)
    (hroom : c.outbox.pending.length < c.outbox.capacity) (hpath : f.path = source)
    (hfails : f.failsAfter = none) (hreads : site.Reads source lines) :
    ∃ c₁, Sent (inBatches c.outbox.capacity c.outbox.pending (site.documents source lines)) c c₁ ∧
      c₁.outbox.pending = [] ∧
      c.prompt.readLines site f lines =
        Prod.map prompt id (c₁.complete (lines.foldl OpenFile.takeLine f)) := by
  obtain ⟨c₁, hsent, hleft, -, hlines⟩ := exists_sent_readLines_append [] hcounted hroom hpath
    (by simp [hfails]) hreads
  have hsound : (lines.foldl OpenFile.takeLine f).failsAfter = none := by
    rw [OpenFile.failsAfter_foldl_takeLine, hfails, Option.map_none]
  rw [List.append_nil] at hlines
  rw [hlines, readLines_nil, hsound, Option.isSome_none, if_neg Bool.false_ne_true, finishFile_eq,
    prompt_outbox, inBatches_eq, ← hleft]
  by_cases hnil : c₁.outbox.pending = []
  · rw [if_pos hnil, if_pos hnil, List.append_nil]
    exact ⟨c₁, hsent, hnil, rfl⟩
  · have hcounted₁ : ∀ d ∈ c₁.sink.script, d.outcome.IsCounted :=
      fun d hd => hcounted d (hsent.script d hd)
    obtain ⟨c₂, hsent₂, hempty, hsend⟩ := exists_sent_send hcounted₁
      (lines.foldl OpenFile.takeLine f) true (·.complete (lines.foldl OpenFile.takeLine f))
    rw [if_neg hnil, if_neg hnil]
    exact ⟨c₂, hsent.trans hsent₂, hempty, hsend⟩

end Collector

/-! ## Offsets -/

lemma lookup_assign {α β : Type} [BEq α] [LawfulBEq α] [DecidableEq α] (key k : α) (value : β)
    (entries : List (α × β)) :
    (Files.assign key value entries).lookup k =
      if k = key then some value else entries.lookup k := by
  induction entries with
  | nil =>
    rw [Files.assign, List.lookup_cons]
    by_cases h : k = key
    · rw [if_pos h, h, beq_self_eq_true]
    · rw [if_neg h, beq_eq_false_iff_ne.2 h]
  | cons entry rest ih =>
    obtain ⟨k', v'⟩ := entry
    rw [Files.assign]
    by_cases hkey : k' = key
    · rw [if_pos hkey, hkey, List.lookup_cons, List.lookup_cons]
      by_cases h : k = key
      · rw [if_pos h, h, beq_self_eq_true]
      · rw [if_neg h, beq_eq_false_iff_ne.2 h]
    · rw [if_neg hkey, List.lookup_cons, List.lookup_cons, ih]
      by_cases h : k = key
      · rw [h, if_pos rfl, if_pos rfl, beq_eq_false_iff_ne.2 (Ne.symm hkey)]
      · rw [if_neg h, if_neg h]

lemma Collector.offset_setOffset {σ : Type} (c : Collector σ) (path other : Text) (offset : Int) :
    (c.setOffset path offset).offset other = if other = path then offset else c.offset other := by
  rw [Collector.offset, setOffset, lookup_assign]
  split <;> rfl

/-! ## A file -/

/-- At the path is a file that holds the content and can be read to its end.  The name of a file
cannot hold the character NUL. -/
structure Files.Shows (fs : Files) (path : Text) (content : Bytes) : Prop where
  nul : Char.ofNat 0 ∉ path
  found : ∃ number, fs.find path = .file number ∧ fs.content number = content
  sound : fs.failsAfter? path = none

lemma OpenFile.foldl_takeLine (lines : List Bytes) (f : OpenFile) :
    (lines.foldl takeLine f).path = f.path ∧
      (lines.foldl takeLine f).offset = f.offset + lines.flatten.length ∧
      (lines.foldl takeLine f).lines = f.lines + lines.length := by
  induction lines generalizing f with
  | nil => simp
  | cons line rest ih =>
    obtain ⟨hpath, hoffset, hlines⟩ := ih (f.takeLine line)
    rw [List.foldl_cons, hpath, hoffset, hlines, List.flatten_cons, List.length_append,
      List.length_cons]
    refine ⟨rfl, ?_, ?_⟩
    · simp only [takeLine]
      omega
    · simp only [takeLine]
      omega

namespace Collector

variable {site : Site} {c : Collector ScriptedSink} {path : Text} {content : Bytes} {start : Nat}

/-- When all lines from a place on have been taken, the offset is the size of the file. -/
lemma complete_start {number : Nat} {failsAfter : Option Nat} (hstart : start ≤ content.length) :
    c.complete ((splitLines (content.drop start)).foldl OpenFile.takeLine
        (.start path number start failsAfter)) =
      ({ c.setOffset path content.length with
          linesRead := c.linesRead + (splitLines (content.drop start)).length },
        .finished (splitLines (content.drop start)).length) := by
  obtain ⟨hpath, hend, hcount⟩ :=
    OpenFile.foldl_takeLine (splitLines (content.drop start))
      (.start path number start failsAfter)
  have hstarted : (OpenFile.start path number start failsAfter).offset = start ∧
      (OpenFile.start path number start failsAfter).lines = 0 ∧
      (OpenFile.start path number start failsAfter).path = path := ⟨rfl, rfl, rfl⟩
  have hsize : (start : Int) + (content.drop start).length = content.length := by
    rw [List.length_drop]
    omega
  rw [flatten_splitLines] at hend
  rw [complete, hpath, hend, hcount, hstarted.1, hstarted.2.1, hstarted.2.2, hsize, Nat.zero_add]

/-- **One pass over a file.**  The bytes from the offset on are read to the end of the file and the
documents of their lines are sent; then the offset is the size of the file. -/
lemma exists_sent_awaited_tail (hcounted : ∀ d ∈ c.sink.script, d.outcome.IsCounted)
    (hroom : c.outbox.pending.length < c.outbox.capacity) (hshows : c.files.Shows path content)
    (hoffset : c.offset path = start) (hstart : start ≤ content.length)
    (hreads : site.Reads path (splitLines (content.drop start))) :
    ∃ c₁, Sent (inBatches c.outbox.capacity c.outbox.pending
        (site.documents path (splitLines (content.drop start)))) c c₁ ∧ c₁.outbox.pending = [] ∧
      awaited site (c.tail site path) =
        ({ c₁.setOffset path content.length with
            linesRead := c₁.linesRead + (splitLines (content.drop start)).length },
          .finished (splitLines (content.drop start)).length) := by
  obtain ⟨number, hfind, hcontent⟩ := hshows.found
  obtain ⟨c₁, hsent, hempty, hlines⟩ := exists_sent_readLines hcounted hroom
    (f := .start path number start none) rfl rfl hreads
  refine ⟨c₁, hsent, hempty, ?_⟩
  have htail : c.prompt.tail site path = c.prompt.readLines site (.start path number start none)
      (splitLines (content.drop start)) := by
    have hremaining : (OpenFile.start path number start none).remaining content =
        content.drop start := rfl
    rw [tail, if_neg hshows.nul, prompt_files, hfind]
    simp only [readFile, prompt_files, prompt_offset, hcontent, hoffset, hshows.sound]
    rw [if_neg (by omega), if_neg (by omega), readOn]
    have hnumber : (OpenFile.start path number (start : Int).toNat none).number = number := rfl
    rw [prompt_files, hnumber, hcontent, Int.toNat_natCast, hremaining]
  have hprompt := prompt_awaited_tail site c path
  rw [htail, hlines, complete_start hstart] at hprompt
  exact eq_of_prompt_eq hprompt

end Collector

end LogSearch.Ingestion
