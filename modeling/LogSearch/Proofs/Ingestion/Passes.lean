import LogSearch.Proofs.Document.Line
import LogSearch.Proofs.Ingestion.OnePass

/-!
# Passes over several files

A pass goes over the files at several paths, one after the other, with one outbox for all of them.
It stops where the sink answers late, and `Collector.awaitedPass` goes on with it until it has come
to its end.  What comes of a pass is what comes of the files, each of them awaited in its turn
(`awaitedPass_pass_cons`).

What is read at a path depends on the files and on the offset reached there, and on nothing else
that the collector knows.  It is described by a `Reading`, with the lines that are taken and the
size of the file if it is read to its end.  From it follow the batches that are posted and the
offset that is kept.  This is so for one path (`Idle.exists_went_awaited_tail`) and, since every
path finds the outbox empty, for all paths of a pass (`Idle.exists_awaitedPass`).
-/

namespace LogSearch.Ingestion

/-! ## Waiting in a pass -/

/-- The number of paths from the one at which a pass is suspended. -/
def PassResult.pathsLeft : PassResult → Nat
  | .finished | .failed _ => 0
  | .suspended _ paths => paths.length + 1

/-- A bound on the runs that are still to come at the path at which a pass is suspended. -/
def PassResult.runsLeft (fs : Files) : PassResult → Nat
  | .finished | .failed _ => 0
  | .suspended s _ => (FileResult.suspended s).runsLeft fs

namespace Collector

section Awaited

variable {σ : Type} [Sink σ] {site : Site} {c c' : Collector σ} {path : Text} {paths : List Text}

omit [Sink σ] in
lemma proceed_suspended {go : Collector σ → Collector σ × PassResult}
    {r : Collector σ × FileResult} {s : Suspension} {left : List Text}
    (h : proceed path paths go r = (c', .suspended s left)) :
    (r = (c', .suspended s) ∧ left = paths) ∨ ∃ c₁, go c₁ = (c', .suspended s left) := by
  obtain ⟨c₁, lines | fault | s₁⟩ := r
  · exact .inr ⟨c₁, h⟩
  · cases fault with
    | read fault => exact .inr ⟨_, h⟩
    | nulInPath => simp [proceed] at h
    | range fault => simp [proceed] at h
    | send fault => simp [proceed] at h
  · simp only [proceed, Prod.mk.injEq, PassResult.suspended.injEq] at h
    obtain ⟨rfl, rfl, rfl⟩ := h
    exact .inl ⟨rfl, rfl⟩

lemma length_lt_of_pass_suspended {s : Suspension} {left : List Text}
    (h : c.pass site paths = (c', .suspended s left)) : left.length < paths.length := by
  induction paths generalizing c with
  | nil => simp [pass] at h
  | cons configured paths ih =>
    rw [pass] at h
    rcases proceed_suspended h with ⟨-, rfl⟩ | ⟨c₁, hc₁⟩
    · exact Nat.lt_succ_self _
    · exact Nat.lt_succ_of_lt (ih hc₁)

/-- A resumed pass has fewer paths to come, or fewer runs at the path at which it is. -/
lemma left_resumePass_lt (site : Site) (c : Collector σ) (s : Suspension) (paths : List Text) :
    Prod.Lex (· < ·) (· < ·)
      ((c.resumePass site s paths).2.pathsLeft,
        (c.resumePass site s paths).2.runsLeft (c.resumePass site s paths).1.files)
      ((PassResult.suspended s paths).pathsLeft,
        (PassResult.suspended s paths).runsLeft c.files) := by
  rcases hpass : c.resumePass site s paths with ⟨c', result⟩
  cases result with
  | finished => exact .left _ _ (Nat.succ_pos _)
  | failed fault => exact .left _ _ (Nat.succ_pos _)
  | suspended s' left =>
    rw [resumePass] at hpass
    rcases proceed_suspended hpass with ⟨hresume, rfl⟩ | ⟨c₁, hc₁⟩
    · have hruns := runsLeft_resume_lt site c s
      rw [hresume] at hruns
      exact .right _ hruns
    · exact .left _ _ (Nat.succ_lt_succ (length_lt_of_pass_suspended hc₁))

/-- A pass from a result on, with every outcome waited for. -/
def awaitedPass (site : Site) (r : Collector σ × PassResult) : Collector σ × PassResult :=
  match r with
  | (c, .suspended s paths) => awaitedPass site (c.resumePass site s paths)
  | (c, .finished) => (c, .finished)
  | (c, .failed fault) => (c, .failed fault)
termination_by (r.2.pathsLeft, r.2.runsLeft r.1.files)
decreasing_by exact left_resumePass_lt site c s paths

lemma awaitedPass_suspended (site : Site) (c : Collector σ) (s : Suspension) (paths : List Text) :
    awaitedPass site (c, .suspended s paths) = awaitedPass site (c.resumePass site s paths) := by
  rw [awaitedPass]

lemma awaitedPass_finished (site : Site) (c : Collector σ) :
    awaitedPass site (c, .finished) = (c, .finished) := by
  rw [awaitedPass]

lemma awaitedPass_failed (site : Site) (c : Collector σ) (fault : PassFault) :
    awaitedPass site (c, .failed fault) = (c, .failed fault) := by
  rw [awaitedPass]

/-- Waiting in a pass is waiting at its first path and then at the others. -/
lemma awaitedPass_proceed {r : Collector σ × FileResult}
    (hpath : ∀ s, r.2 = .suspended s → s.file.path = path) :
    awaitedPass site (proceed path paths (fun c => c.pass site paths) r) =
      proceed path paths (fun c => awaitedPass site (c.pass site paths)) (awaited site r) := by
  fun_induction awaited site r with
  | case1 c s ih =>
    have hs : s.file.path = path := hpath s rfl
    rw [proceed, awaitedPass_suspended, resumePass, hs]
    exact ih fun s' hs' => (resume_suspended (Prod.ext rfl hs')).trans hs
  | case2 c lines => rw [proceed, proceed]
  | case3 c fault =>
    cases fault with
    | read fault => rw [proceed, proceed]
    | nulInPath => exact awaitedPass_failed site c _
    | range fault => exact awaitedPass_failed site c _
    | send fault => exact awaitedPass_failed site c _

lemma awaitedPass_pass_nil (site : Site) (c : Collector σ) :
    awaitedPass site (c.pass site []) = (c, .finished) := by
  rw [pass, awaitedPass_finished]

lemma awaitedPass_pass_cons (site : Site) (c : Collector σ) (configured : Text)
    (paths : List Text) :
    awaitedPass site (c.pass site (configured :: paths)) =
      proceed (Path.normalize site.cwd site.home configured) paths
        (fun c => awaitedPass site (c.pass site paths))
        (awaited site (c.tail site (Path.normalize site.cwd site.home configured))) := by
  rw [pass]
  exact awaitedPass_proceed fun s hs => tail_suspended (Prod.ext rfl hs)

end Awaited

end Collector

/-! ## What is read at a path -/

/-- What is taken in of a file: where the reading begins, the lines, and the size of the file if it
is read to its end. -/
structure Reading where
  start : Nat
  lines : List Bytes
  size? : Option Nat

namespace Reading

/-- Nothing is taken in. -/
def nothing : Reading := ⟨0, [], none⟩

/-- What is taken in of a file from a place on, where the reading may break off after so many
lines. -/
def ofContent (start : Nat) (content : Bytes) : Option Nat → Reading
  | none => ⟨start, splitLines (content.drop start), some content.length⟩
  | some lines => ⟨start, (splitLines (content.drop start)).take lines, none⟩

/-- The place from which a file is read: the offset reached in it, or its beginning if it has become
shorter than that.  No file can be read from before its beginning. -/
def start? (size : Nat) (offset : Int) : Option Nat :=
  if (size : Int) < offset then some 0 else if offset < 0 then none else some offset.toNat

lemma negative_of_start?_eq_none {size : Nat} {offset : Int} (h : start? size offset = none) :
    offset < 0 := by
  rw [start?] at h
  split at h
  next => cases h
  next =>
    split at h
    next hnegative => exact hnegative
    next => cases h

/-- The batches in which what the lines are turned into is posted, when nothing waits before: the
full ones and, at the end of the file, one more for what is left. -/
def inBatches {α : Type} (r : Reading) (capacity : Nat) (items : List α) : List (List α) :=
  fullBatches capacity [] items ++
    if r.size? = none ∨ leftOver capacity [] items = [] then []
    else [leftOver capacity [] items]

/-- The batches of documents. -/
def batches (r : Reading) (site : Site) (path : Text) (capacity : Nat) : List (List Document) :=
  r.inBatches capacity (site.documents path r.lines)

end Reading

/-- What is taken in at a path, from the offset reached there. -/
def Files.reading (fs : Files) (path : Text) (offset : Int) : Reading :=
  match fs.find path with
  | .file number =>
    match Reading.start? (fs.content number).length offset with
    | some start => .ofContent start (fs.content number) (fs.failsAfter? path)
    | none => .nothing
  | _ => .nothing

/-- What is taken in at a path now. -/
def Collector.reading {σ : Type} (c : Collector σ) (path : Text) : Reading :=
  c.files.reading path (c.offset path)

/-- Nothing waits, there is room in the outbox, and every outcome can be booked to the end. -/
structure Collector.Idle (c : Collector ScriptedSink) : Prop where
  pending : c.outbox.pending = []
  capacity : 0 < c.outbox.capacity
  counted : ∀ d ∈ c.sink.script, d.outcome.IsCounted

/-- The collector `c'` is `c` after batches were posted.  For some paths there is a new offset. -/
structure Went (batches : List (List Document)) (size? : Text → Option Nat)
    (c c' : Collector ScriptedSink) : Prop where
  files : c'.files = c.files
  capacity : c'.outbox.capacity = c.outbox.capacity
  script : ∀ d ∈ c'.sink.script, d ∈ c.sink.script
  batches : c'.sink.batches = c.sink.batches ++ batches
  offsets : ∀ path,
    c'.offsets.lookup path = ((size? path).map Nat.cast).or (c.offsets.lookup path)

/-- The reading at a path has ended: nothing waits any more, or the file could not be read to its
end and has no new offset. -/
def FileResult.Ends (size? : Option Nat) (c : Collector ScriptedSink) : FileResult → Prop
  | .finished _ => c.outbox.pending = []
  | .failed (.read _) => size? = none
  | _ => False

/-- The new offset of one path. -/
def only (path : Text) (size? : Option Nat) (other : Text) : Option Nat :=
  if other = path then size? else none

namespace Collector

variable {site : Site} {c c' : Collector ScriptedSink} {path : Text} {start : Nat} {content : Bytes}
  {failsAfter : Option Nat}

lemma Idle.room (h : c.Idle) : c.outbox.pending.length < c.outbox.capacity := by
  rw [h.pending]
  exact h.capacity

/-- The reading breaks off when the lines before that have been taken, and at the end of the file if
there are not as many. -/
lemma readLines_drop {σ : Type} [Sink σ] (site : Site) (c : Collector σ) {f : OpenFile}
    {lines : List Bytes} {k : Nat} (hfails : f.failsAfter = some (k - (lines.take k).length)) :
    c.readLines site f (lines.drop k) = (c, .failed (.read .refused)) := by
  cases hdrop : lines.drop k with
  | nil => rw [readLines_nil, hfails, Option.isSome_some, if_pos rfl]
  | cons line rest =>
    have hk : k < lines.length := by
      have hlength := congrArg List.length hdrop
      rw [List.length_drop, List.length_cons] at hlength
      omega
    have htake : (lines.take k).length = k := by
      rw [List.length_take, Nat.min_eq_left (Nat.le_of_lt hk)]
    rw [htake, Nat.sub_self] at hfails
    rw [readLines_cons, if_pos hfails]

/-- The lines of a file are taken in as far as that goes, and their documents are posted. -/
lemma Idle.exists_went_readLines (h : c.Idle) (number : Nat) (hstart : start ≤ content.length)
    (hreads : site.Reads path (Reading.ofContent start content failsAfter).lines) :
    let r := Reading.ofContent start content failsAfter
    ∃ c₁ result,
      c.prompt.readLines site (.start path number start failsAfter)
          (splitLines (content.drop start)) = Prod.map prompt id (c₁, result) ∧
        Went (r.batches site path c.outbox.capacity) (only path r.size?) c c₁ ∧
        result.Ends r.size? c₁ := by
  intro r
  cases failsAfter with
  | none =>
    replace hreads : site.Reads path (splitLines (content.drop start)) := hreads
    obtain ⟨c₁, hsent, hempty, hlines⟩ := exists_sent_readLines h.counted h.room
      (f := .start path number start none) rfl rfl hreads
    rw [complete_start hstart] at hlines
    refine ⟨_, _, hlines, ⟨hsent.files, hsent.capacity, hsent.script, ?_, ?_⟩, hempty⟩
    · have hall : r.batches site path c.outbox.capacity =
          Ingestion.inBatches c.outbox.capacity [] (site.documents path r.lines) := by
        rw [inBatches_eq, Reading.batches, Reading.inBatches]
        simp [r, Reading.ofContent]
      rw [hall, ← h.pending]
      exact hsent.batches
    · intro other
      refine (lookup_assign path other (content.length : Int) c₁.offsets).trans ?_
      rw [hsent.offsets, only]
      split <;> rfl
  | some k =>
    replace hreads : site.Reads path ((splitLines (content.drop start)).take k) := hreads
    have hfails : ∀ n, (OpenFile.start path number start (some k)).failsAfter = some n →
        ((splitLines (content.drop start)).take k).length ≤ n := by
      intro n hn
      obtain rfl : k = n := Option.some.inj hn
      exact List.length_take_le _ _
    obtain ⟨c₁, hsent, -, -, hlines⟩ := exists_sent_readLines_append
      ((splitLines (content.drop start)).drop k) h.counted h.room
      (f := .start path number start (some k)) rfl hfails hreads
    have hbroken := readLines_drop site c₁.prompt
      (OpenFile.failsAfter_foldl_takeLine ((splitLines (content.drop start)).take k)
        (.start path number start (some k)))
    rw [List.take_append_drop, hbroken] at hlines
    refine ⟨c₁, .failed (.read .refused), hlines,
      ⟨hsent.files, hsent.capacity, hsent.script, ?_, ?_⟩, rfl⟩
    · have hfull : r.batches site path c.outbox.capacity =
          fullBatches c.outbox.capacity [] (site.documents path r.lines) := by
        rw [Reading.batches, Reading.inBatches, if_pos (.inl rfl), List.append_nil]
      rw [hfull, ← h.pending]
      exact hsent.batches
    · intro other
      have hsize : r.size? = none := rfl
      rw [hsent.offsets, hsize, only, ite_self]
      rfl

section ReadFile

variable {σ : Type} [Sink σ] (site : Site) (c : Collector σ) {path : Text}

lemma readFile_of_shorter {number : Nat}
    (h : ((c.files.content number).length : Int) < c.offset path) :
    c.readFile site path number =
      readOn site
        { c.report .info (rotationMessage path (c.files.content number).length (c.offset path)) with
          rotations := c.rotations + 1 }
        (.start path number 0 (c.files.failsAfter? path)) := by
  rw [readFile]
  exact if_pos h

lemma readFile_of_negative (number : Nat) (h : c.offset path < 0) :
    c.readFile site path number = (c, .failed (.read .refused)) := by
  rw [readFile]
  simp only
  rw [if_neg (by omega), if_pos h]

lemma readFile_of_le {number : Nat} (h : c.offset path ≤ (c.files.content number).length)
    (hpositive : 0 ≤ c.offset path) :
    c.readFile site path number =
      readOn site c (.start path number (c.offset path).toNat (c.files.failsAfter? path)) := by
  rw [readFile]
  simp only
  rw [if_neg (by omega), if_neg (by omega)]

/-- A file is read on from the place that there is to read it from.  If it has become shorter, that
is reported and counted before, and changes nothing else. -/
lemma exists_readFile_eq {number start : Nat}
    (hstart : Reading.start? (c.files.content number).length (c.offset path) = some start) :
    start ≤ (c.files.content number).length ∧ ∃ journal, c.readFile site path number =
      readOn site
        { c with
          rotations := c.rotations +
            if ((c.files.content number).length : Int) < c.offset path then 1 else 0
          journal := journal }
        (.start path number start (c.files.failsAfter? path)) := by
  rw [Reading.start?] at hstart
  split at hstart
  next hshorter =>
    obtain rfl := Option.some.inj hstart
    rw [readFile_of_shorter site c hshorter, if_pos hshorter]
    exact ⟨Nat.zero_le _, _, rfl⟩
  next hlonger =>
    split at hstart
    next => cases hstart
    next hpositive =>
      obtain rfl := Option.some.inj hstart
      rw [readFile_of_le site c (Int.not_lt.1 hlonger) (Int.not_lt.1 hpositive), if_neg hlonger]
      exact ⟨by omega, c.journal, rfl⟩

end ReadFile

lemma went_nothing (hfiles : c'.files = c.files) (houtbox : c'.outbox = c.outbox)
    (hsink : c'.sink = c.sink) (hoffsets : c'.offsets = c.offsets) :
    Went (Reading.nothing.batches site path c.outbox.capacity)
      (only path Reading.nothing.size?) c c' where
  files := hfiles
  capacity := by rw [houtbox]
  script d hd := by rwa [hsink] at hd
  batches := by
    rw [hsink, Reading.batches, Reading.inBatches, if_pos (.inl rfl)]
    exact (List.append_nil _).symm
  offsets other := by
    have hsize : Reading.nothing.size? = none := rfl
    rw [hoffsets, hsize, only, ite_self]
    rfl

/-- **One path of a pass.**  When the outcomes have been waited for, the batches of what was there
to be read have been posted; the offset of the path has been moved if the file was read to its end,
and no other offset has. -/
lemma Idle.exists_went_awaited_tail (h : c.Idle) (hnul : Char.ofNat 0 ∉ path)
    (hreads : site.Reads path (c.reading path).lines) :
    ∃ c₁ result, awaited site (c.tail site path) = (c₁, result) ∧
      Went ((c.reading path).batches site path c.outbox.capacity)
        (only path (c.reading path).size?) c c₁ ∧
      result.Ends (c.reading path).size? c₁ := by
  suffices hprompt : ∃ c₁ result, c.prompt.tail site path = Prod.map prompt id (c₁, result) ∧
      Went ((c.reading path).batches site path c.outbox.capacity)
        (only path (c.reading path).size?) c c₁ ∧
      result.Ends (c.reading path).size? c₁ by
    obtain ⟨c₁, result, htail, hwent, hends⟩ := hprompt
    exact ⟨c₁, result, eq_of_prompt_eq ((prompt_awaited_tail site c path).trans htail), hwent,
      hends⟩
  rw [tail, if_neg hnul, prompt_files]
  unfold reading Files.reading at *
  cases hfind : c.files.find path with
  | vacant place => exact ⟨c, .finished 0, rfl, went_nothing rfl rfl rfl rfl, h.pending⟩
  | missing => exact ⟨c, .finished 0, rfl, went_nothing rfl rfl rfl rfl, h.pending⟩
  | unreachable fault =>
    exact ⟨c, .failed (.read fault), rfl, went_nothing rfl rfl rfl rfl, rfl⟩
  | directory place =>
    exact ⟨c.report .warning ("Configured log path is not a file: " ++ path), .finished 0, rfl,
      went_nothing rfl rfl rfl rfl, h.pending⟩
  | file number =>
    simp only [hfind] at hreads ⊢
    cases hstart : Reading.start? (c.files.content number).length (c.offset path) with
    | none =>
      have hnegative := Reading.negative_of_start?_eq_none hstart
      simp only [readFile_of_negative site c.prompt number hnegative]
      exact ⟨c, .failed (.read .refused), rfl, went_nothing rfl rfl rfl rfl, rfl⟩
    | some start =>
      obtain ⟨hle, journal, hread⟩ := exists_readFile_eq site c.prompt hstart
      simp only [hstart] at hreads ⊢
      let c₀ : Collector ScriptedSink := { c with
        rotations := c.rotations +
          if ((c.files.content number).length : Int) < c.offset path then 1 else 0
        journal := journal }
      have hidle : c₀.Idle := ⟨h.pending, h.capacity, h.counted⟩
      obtain ⟨c₁, result, hlines, hwent, hends⟩ := hidle.exists_went_readLines number hle hreads
      exact ⟨c₁, result, hread.trans hlines,
        ⟨hwent.files, hwent.capacity, hwent.script, hwent.batches, hwent.offsets⟩, hends⟩

end Collector

/-! ## All paths of a pass -/

/-- The path that a configured path stands for. -/
def Site.key (site : Site) (configured : Text) : Text :=
  Path.normalize site.cwd site.home configured

lemma Went.trans {first second : List (List Document)} {size? size'? : Text → Option Nat}
    {c c₁ c₂ : Collector ScriptedSink} (h : Went first size? c c₁) (h' : Went second size'? c₁ c₂) :
    Went (first ++ second) (fun path => (size'? path).or (size? path)) c c₂ where
  files := h'.files.trans h.files
  capacity := h'.capacity.trans h.capacity
  script d hd := h.script d (h'.script d hd)
  batches := by rw [h'.batches, h.batches, List.append_assoc]
  offsets path := by
    rw [h'.offsets, h.offsets]
    cases size'? path <;> rfl

namespace Collector

variable {site : Site} {c c₁ : Collector ScriptedSink} {path : Text} {paths : List Text}
  {batches : List (List Document)} {size? : Text → Option Nat}

lemma reading_of_went (h : Went batches size? c c₁) (hpath : size? path = none) :
    c₁.reading path = c.reading path := by
  rw [reading, reading, h.files, offset, offset, h.offsets, hpath]
  rfl

/-- A pass comes to its next path with nothing waiting, however the reading before has ended. -/
lemma Idle.exists_proceed (h : c.Idle) (hwent : Went batches size? c c₁) {size : Option Nat}
    {result : FileResult} (hends : result.Ends size c₁) (path : Text) (paths : List Text)
    (go : Collector ScriptedSink → Collector ScriptedSink × PassResult) :
    ∃ c₂, proceed path paths go (c₁, result) = go c₂ ∧ c₂.Idle ∧ Went batches size? c c₂ := by
  have hroom : 0 < c₁.outbox.capacity := hwent.capacity ▸ h.capacity
  have hcounted : ∀ d ∈ c₁.sink.script, d.outcome.IsCounted :=
    fun d hd => h.counted d (hwent.script d hd)
  cases result with
  | finished lines => exact ⟨c₁, rfl, ⟨hends, hroom, hcounted⟩, hwent⟩
  | suspended s => exact hends.elim
  | failed fault =>
    cases fault with
    | read fault =>
      -- the documents that wait are given up
      exact ⟨_, rfl, ⟨rfl, hroom, hcounted⟩,
        ⟨hwent.files, hwent.capacity, hwent.script, hwent.batches, hwent.offsets⟩⟩
    | nulInPath => exact hends.elim
    | range fault => exact hends.elim
    | send fault => exact hends.elim

/-- **A pass.**  It comes to its end, and what is posted and kept for each path is what was to be
read there when the pass began. -/
lemma Idle.exists_awaitedPass (h : c.Idle) (hdistinct : (paths.map site.key).Nodup)
    (hnul : ∀ path ∈ paths.map site.key, Char.ofNat 0 ∉ path)
    (hreads : ∀ path ∈ paths.map site.key, site.Reads path (c.reading path).lines) :
    ∃ c₁, awaitedPass site (c.pass site paths) = (c₁, .finished) ∧ c₁.Idle ∧
      Went
        ((paths.map site.key).flatMap fun path =>
          (c.reading path).batches site path c.outbox.capacity)
        (fun path => if path ∈ paths.map site.key then (c.reading path).size? else none) c c₁ := by
  induction paths generalizing c with
  | nil =>
    refine ⟨c, awaitedPass_pass_nil site c, h, rfl, rfl, fun _ => id, ?_, fun _ => ?_⟩
    · exact (List.append_nil _).symm
    · rw [List.map_nil, if_neg List.not_mem_nil]
      rfl
  | cons configured paths ih =>
    rw [List.map_cons, List.nodup_cons] at hdistinct
    rw [List.map_cons, List.forall_mem_cons] at hnul hreads
    obtain ⟨c₁, result, htail, hwent, hends⟩ := h.exists_went_awaited_tail hnul.1 hreads.1
    obtain ⟨c₂, hproceed, hidle, hwent₂⟩ := h.exists_proceed hwent hends (site.key configured) paths
      fun c => awaitedPass site (c.pass site paths)
    have hsame : ∀ path ∈ paths.map site.key, c₂.reading path = c.reading path := by
      intro path hpath
      refine reading_of_went hwent₂ (if_neg ?_)
      rintro rfl
      exact hdistinct.1 hpath
    obtain ⟨c₃, hpass, hidle₃, hwent₃⟩ := ih hidle hdistinct.2 hnul.2 fun path hpath => by
      rw [hsame path hpath]
      exact hreads.2 path hpath
    have hfirst : awaited site (c.tail site (Path.normalize site.cwd site.home configured)) =
        (c₁, result) := htail
    refine ⟨c₃, ?_, hidle₃, ?_⟩
    · rw [awaitedPass_pass_cons, hfirst]
      exact hproceed.trans hpass
    · have hbatches : ((paths.map site.key).flatMap fun path =>
            (c₂.reading path).batches site path c₂.outbox.capacity) =
          (paths.map site.key).flatMap fun path =>
            (c.reading path).batches site path c.outbox.capacity := by
        rw [List.flatMap_def, List.flatMap_def]
        congr 1
        refine List.map_congr_left fun path hpath => ?_
        rw [hsame path hpath, hwent₂.capacity]
      rw [hbatches] at hwent₃
      have hboth := hwent₂.trans hwent₃
      rw [List.map_cons, List.flatMap_cons]
      refine ⟨hboth.files, hboth.capacity, hboth.script, hboth.batches, fun path => ?_⟩
      refine (hboth.offsets path).trans ?_
      rw [only]
      by_cases hlater : path ∈ paths.map site.key
      · have hother : path ≠ site.key configured := by
          rintro rfl
          exact hdistinct.1 hlater
        rw [if_pos hlater, if_neg hother, if_pos (List.mem_cons_of_mem _ hlater),
          hsame path hlater, Option.or_none]
      · rw [if_neg hlater, Option.none_or]
        by_cases hhere : path = site.key configured
        · rw [if_pos hhere, hhere, if_pos List.mem_cons_self]
        · rw [if_neg hhere, if_neg fun hmem => (List.mem_cons.1 hmem).elim hhere hlater]

end Collector

end LogSearch.Ingestion
