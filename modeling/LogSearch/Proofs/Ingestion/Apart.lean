import LogSearch.Proofs.Ingestion.Passes

/-!
# The paths of a pass are apart

All paths of a pass share one outbox, one sink and the books, and one of them may be missing or be
a directory, or its file may break off in the middle of a batch.  `pass_paths_apart` says that none
of this reaches another path.  What a path posts, batch by batch, and the offset that it ends with
are what they are when its file is read alone, from the same state and with whatever answers of the
sink; and a batch never holds documents of two files.

The paths are told apart by the files that the documents name, which are the paths in their normal
form.  Two configured paths with one normal form are read one after the other, and the second finds
the offset that the first has left; this is why the normal forms have to be different.
-/

namespace LogSearch.Ingestion

/-! ## The batches of one path -/

/-- The batches that hold a document of the file at a path. -/
def batchesFrom (path : Text) (batches : List (List Document)) : List (List Document) :=
  batches.filter fun b => b.any fun d => d.source = path

lemma batchesFrom_append (path : Text) (batches batches' : List (List Document)) :
    batchesFrom path (batches ++ batches') =
      batchesFrom path batches ++ batchesFrom path batches' :=
  List.filter_append ..

lemma source_of_mem_documents {site : Site} {path : Text} {lines : List Bytes} {d : Document}
    (h : d ∈ site.documents path lines) : d.source = path := by
  obtain ⟨line, -, hd⟩ := List.mem_filterMap.1 h
  rw [Site.document?] at hd
  split at hd
  next d' hline => exact Line.source_eq (hd ▸ hline)
  next => simp at hd

section Batches

variable {α : Type} {capacity : Nat} {waiting items : List α}

/-- The full batches and what is left are what was there to be sent. -/
lemma flatten_fullBatches (capacity : Nat) (waiting items : List α) :
    (fullBatches capacity waiting items).flatten ++ leftOver capacity waiting items =
      waiting ++ items := by
  induction items generalizing waiting with
  | nil => simp [fullBatches, leftOver]
  | cons d rest ih =>
    rw [fullBatches, leftOver]
    split
    · rw [List.flatten_cons, List.append_assoc, ih]
      simp
    · rw [ih]
      simp

lemma ne_nil_of_mem_fullBatches {b : List α} (h : b ∈ fullBatches capacity waiting items) :
    b ≠ [] := by
  induction items generalizing waiting with
  | nil => simp [fullBatches] at h
  | cons d rest ih =>
    rw [fullBatches] at h
    split at h
    · rcases List.mem_cons.1 h with rfl | h
      · simp
      · exact ih h
    · exact ih h

/-- A batch of a reading holds something, and only what the reading has taken in. -/
lemma Reading.mem_inBatches {r : Reading} {b : List α} (h : b ∈ r.inBatches capacity items) :
    b ≠ [] ∧ ∀ x ∈ b, x ∈ items := by
  have hflatten := flatten_fullBatches capacity [] items
  rw [List.nil_append] at hflatten
  rw [inBatches, List.mem_append] at h
  rcases h with h | h
  · refine ⟨ne_nil_of_mem_fullBatches h, fun x hx => ?_⟩
    rw [← hflatten]
    exact List.mem_append_left _ (List.mem_flatten.2 ⟨b, h, hx⟩)
  · split at h
    next => simp at h
    next hleft =>
      obtain rfl := List.mem_singleton.1 h
      refine ⟨fun hnil => hleft (.inr hnil), fun x hx => ?_⟩
      rw [← hflatten]
      exact List.mem_append_right _ hx

end Batches

section Paths

variable {r : Reading} {site : Site} {path path' : Text} {capacity : Nat}

lemma source_of_mem_batches {b : List Document} (h : b ∈ r.batches site path capacity) :
    ∀ d ∈ b, d.source = path :=
  fun d hd => source_of_mem_documents ((Reading.mem_inBatches h).2 d hd)

/-- Every batch of a path is from this path, and from no other. -/
lemma batchesFrom_batches :
    batchesFrom path' (r.batches site path capacity) =
      if path = path' then r.batches site path capacity else [] := by
  rw [batchesFrom]
  split
  next hpath =>
    refine List.filter_eq_self.2 fun b hb => ?_
    obtain ⟨d, hd⟩ := List.exists_mem_of_ne_nil b (Reading.mem_inBatches hb).1
    rw [List.any_eq_true]
    exact ⟨d, hd, decide_eq_true ((source_of_mem_batches hb d hd).trans hpath)⟩
  next hpath =>
    refine List.filter_eq_nil_iff.2 fun b hb hany => ?_
    obtain ⟨d, hd, hsource⟩ := List.any_eq_true.1 hany
    exact hpath ((source_of_mem_batches hb d hd).symm.trans (of_decide_eq_true hsource))

lemma batchesFrom_flatMap {paths : List Text} (hdistinct : paths.Nodup) (reading : Text → Reading)
    (path : Text) :
    batchesFrom path (paths.flatMap fun path => (reading path).batches site path capacity) =
      if path ∈ paths then (reading path).batches site path capacity else [] := by
  induction paths with
  | nil => rfl
  | cons first paths ih =>
    obtain ⟨hfirst, hpaths⟩ := List.nodup_cons.1 hdistinct
    rw [List.flatMap_cons, batchesFrom_append, batchesFrom_batches, ih hpaths]
    by_cases hhere : first = path
    · subst hhere
      rw [if_pos rfl, if_neg hfirst, if_pos List.mem_cons_self, List.append_nil]
    · have hmem : path ∈ first :: paths ↔ path ∈ paths := by
        rw [List.mem_cons, or_iff_right (Ne.symm hhere)]
      rw [if_neg hhere, List.nil_append]
      simp only [hmem]

end Paths

/-! ## A pass beside the readings of its files -/

/-- The collector with other answers of the sink to come. -/
def Collector.answering (c : Collector ScriptedSink) (script : List Delivery) :
    Collector ScriptedSink :=
  { c with sink := { c.sink with script := script } }

lemma Collector.Idle.answering {c : Collector ScriptedSink} (h : c.Idle) {script : List Delivery}
    (hscript : ∀ d ∈ script, d.outcome.IsCounted) : (c.answering script).Idle :=
  ⟨h.pending, h.capacity, hscript⟩

open Collector in
/-- **Paths do not disturb each other.**  Let nothing wait in the outbox and let the configured
paths stand for different paths, whatever there is at them, wherever their readings begin and break
off.  Then a pass, with its outcomes waited for, comes to its end and leaves nothing waiting.  Every
batch that it posts is from one path.  For each path,

* the batches are those that are posted when the file is read alone, with any answers of the sink;
* so is the offset at the end;
* if the file read alone cannot be read to its end, the offset is what it was.

Hence the order of the paths changes neither the offsets nor the batches of any path. -/
theorem pass_paths_apart {site : Site} {c : Collector ScriptedSink} (hidle : c.Idle)
    {paths : List Text} (hdistinct : (paths.map site.key).Nodup)
    (hnul : ∀ path ∈ paths.map site.key, Char.ofNat 0 ∉ path)
    (hreads : ∀ path ∈ paths.map site.key, site.Reads path (c.reading path).lines) :
    let after := awaitedPass site (c.pass site paths)
    ∃ posted, after.2 = .finished ∧ after.1.outbox.pending = [] ∧
      after.1.sink.batches = c.sink.batches ++ posted ∧
      (∀ b ∈ posted, ∃ path ∈ paths.map site.key, ∀ d ∈ b, d.source = path) ∧
      (∀ path ∈ paths.map site.key, ∀ script, (∀ d ∈ script, d.outcome.IsCounted) →
        let alone := awaited site ((c.answering script).tail site path)
        alone.1.sink.batches = c.sink.batches ++ batchesFrom path posted ∧
          alone.1.offsets.lookup path = after.1.offsets.lookup path ∧
          ((∃ lines, alone.2 = .finished lines) ∨
            (∃ fault, alone.2 = .failed (.read fault)) ∧
              after.1.offsets.lookup path = c.offsets.lookup path)) ∧
      ∀ paths', paths'.Perm paths → ∀ script, (∀ d ∈ script, d.outcome.IsCounted) →
        let other := awaitedPass site ((c.answering script).pass site paths')
        (∀ path, other.1.offsets.lookup path = after.1.offsets.lookup path) ∧
          ∃ posted', other.1.sink.batches = c.sink.batches ++ posted' ∧
            ∀ path, batchesFrom path posted' = batchesFrom path posted := by
  intro after
  obtain ⟨c₁, hpass, hidle₁, hwent⟩ := hidle.exists_awaitedPass hdistinct hnul hreads
  have hafter : after = (c₁, .finished) := hpass
  rw [hafter]
  refine ⟨_, rfl, hidle₁.pending, hwent.batches, ?_, ?_, ?_⟩
  · intro b hb
    obtain ⟨path, hpath, hb⟩ := List.mem_flatMap.1 hb
    exact ⟨path, hpath, source_of_mem_batches hb⟩
  · intro path hpath script hscript alone
    obtain ⟨c₂, result, htail, hwent₂, hends⟩ :=
      (hidle.answering hscript).exists_went_awaited_tail (hnul path hpath) (hreads path hpath)
    have halone : alone = (c₂, result) := htail
    have hoffset := hwent₂.offsets path
    have hoffset₁ := hwent.offsets path
    rw [only, if_pos rfl] at hoffset
    rw [if_pos hpath] at hoffset₁
    rw [halone, batchesFrom_flatMap hdistinct, if_pos hpath]
    refine ⟨hwent₂.batches, hoffset.trans hoffset₁.symm, ?_⟩
    cases result with
    | finished lines => exact .inl ⟨lines, rfl⟩
    | suspended s => exact hends.elim
    | failed fault =>
      cases fault with
      | read fault =>
        have hsize : (c.reading path).size? = none := hends
        rw [hsize] at hoffset₁
        exact .inr ⟨⟨fault, rfl⟩, hoffset₁⟩
      | nulInPath => exact hends.elim
      | range fault => exact hends.elim
      | send fault => exact hends.elim
  · intro paths' hperm script hscript other
    have hkeys := hperm.map site.key
    obtain ⟨c₂, hpass₂, -, hwent₂⟩ := (hidle.answering hscript).exists_awaitedPass
      (hkeys.nodup_iff.2 hdistinct) (fun path hpath => hnul path (hkeys.mem_iff.1 hpath))
      (fun path hpath => hreads path (hkeys.mem_iff.1 hpath))
    have hother : other = (c₂, .finished) := hpass₂
    rw [hother]
    refine ⟨fun path => ?_, _, hwent₂.batches, fun path => ?_⟩
    · rw [hwent₂.offsets, hwent.offsets]
      simp only [hkeys.mem_iff]
      rfl
    · rw [batchesFrom_flatMap hdistinct, batchesFrom_flatMap (hkeys.nodup_iff.2 hdistinct)]
      simp only [hkeys.mem_iff]
      rfl

lemma Files.find_eq_file {fs : Files} {path : Text} {number : Nat} (name : Text)
    (hnode : fs.node? [name] = some (.file number)) (hsplit : Text.splitAt '/' path = [[], name])
    (hplain : name ≠ [] ∧ name ≠ ['.'] ∧ name ≠ ['.', '.'])
    (hsize : Utf8.size path ≤ longestPath ∧ Utf8.size name ≤ longestName) :
    fs.find path = .file number := by
  obtain ⟨hempty, hdot, hdots⟩ := hplain
  rw [find, if_neg (Nat.not_lt.2 hsize.1), hsplit, walk, if_pos (.inl rfl), walk,
    if_neg (by simp [hempty, hdot]), if_neg hdots, if_neg (Nat.not_lt.2 hsize.2)]
  simp [hnode]

open Collector in
/-- A file that breaks off after its first line, and another one that is configured by a relative
path: the pass comes to its end, and the other order comes to the same offsets. -/
theorem pass_paths_apart_of_broken_file :
    let site : Site := ⟨⟨0⟩, "/", "/", ⟨0, by decide⟩⟩
    let files : Files :=
      ⟨[([['a']], .file 0), ([['b']], .file 1)], [(0, [120, 10, 121, 10]), (1, [122])], [("/a", 1)]⟩
    let c : Collector ScriptedSink :=
      .new files ⟨"logs", 1, [], 0, 0, 0, 0⟩ ⟨[⟨.unavailable [], 1⟩], [], []⟩
    let paths : List Text := ["/a", "b"]
    let after := awaitedPass site (c.pass site paths)
    let other := awaitedPass site ((c.answering []).pass site paths.reverse)
    after.2 = .finished ∧ after.1.outbox.pending = [] ∧
      ∀ path, other.1.offsets.lookup path = after.1.offsets.lookup path := by
  intro site files c paths after other
  have hidle : c.Idle := ⟨rfl, Nat.one_pos, fun d hd => by rw [List.mem_singleton.1 hd]; trivial⟩
  have hkeys : paths.map site.key = (["/a", "/b"] : List Text) := by decide +kernel
  have hfind : files.find "/a" = .file 0 ∧ files.find "/b" = .file 1 :=
    ⟨Files.find_eq_file ['a'] rfl (by decide) (by decide) (by decide),
      Files.find_eq_file ['b'] rfl (by decide) (by decide) (by decide)⟩
  have hfiles : c.files = files := rfl
  have hfirst : (c.reading "/a").lines = [[120, 10]] := by
    rw [reading, Files.reading, hfiles, hfind.1]
    rfl
  have hsecond : (c.reading "/b").lines = [[122]] := by
    rw [reading, Files.reading, hfiles, hfind.2]
    rfl
  have hreads : ∀ path ∈ paths.map site.key, site.Reads path (c.reading path).lines := by
    rw [hkeys, List.forall_mem_cons, List.forall_mem_singleton, hfirst, hsecond]
    constructor
    · intro line hline
      rw [List.mem_singleton.1 hline]
      exact ⟨some ⟨⟨0, by decide⟩, none, "x", "x", "/a"⟩, rfl⟩
    · intro line hline
      rw [List.mem_singleton.1 hline]
      exact ⟨some ⟨⟨0, by decide⟩, none, "z", "z", "/b"⟩, rfl⟩
  have hdistinct : (paths.map site.key).Nodup := by
    rw [hkeys]
    decide
  have hnul : ∀ path ∈ paths.map site.key, Char.ofNat 0 ∉ path := by
    rw [hkeys]
    decide
  obtain ⟨posted, hresult, hpending, -, -, -, hperm⟩ :=
    pass_paths_apart hidle hdistinct hnul hreads
  obtain ⟨hoffsets, -⟩ := hperm paths.reverse paths.reverse_perm [] (List.forall_mem_nil _)
  exact ⟨hresult, hpending, hoffsets⟩

end LogSearch.Ingestion
