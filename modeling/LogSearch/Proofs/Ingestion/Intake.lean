import LogSearch.Proofs.Document.Dates
import LogSearch.Proofs.Ingestion.Apart
import LogSearch.Proofs.Ingestion.Rotation
import LogSearch.Proofs.Ingestion.Scripted

/-!
# One reading of a file

A file is read once, by a collector that sends through the client of the search backend.  The
network may do what it likes, as long as the outcomes can be booked, and everything that takes time
is waited for.  `tail_takes_in` says all that comes of it: what was read, what was posted, what the
collector keeps and what it counts.

The parts come from the modules before.  That the batches, the offset and the lines are what they
are was proved with a scripted sink, and is put together in `Idle.exists_awaited_tail_finished`; the
client does as the sink does (`exists_awaited_tail_scripted`).  What is added here is how the
documents are shared out among batches, which lines have documents, and the counts of the lines.
-/

namespace LogSearch.Ingestion

/-! ## Sizes of batches -/

section Batches

variable {α : Type} {capacity : Nat} {waiting items : List α}

lemma length_of_mem_fullBatches {b : List α} (hroom : waiting.length < capacity)
    (h : b ∈ fullBatches capacity waiting items) : b.length = capacity := by
  induction items generalizing waiting with
  | nil => exact absurd h List.not_mem_nil
  | cons d rest ih =>
    have hlength : (waiting ++ [d]).length = waiting.length + 1 := by simp
    rw [fullBatches] at h
    split at h
    next hfull =>
      rcases List.mem_cons.1 h with rfl | h
      · omega
      · exact ih (Nat.lt_of_le_of_lt (Nat.zero_le _) hroom) h
    next => exact ih (by omega) h

lemma length_leftOver_lt (hroom : waiting.length < capacity) :
    (leftOver capacity waiting items).length < capacity := by
  induction items generalizing waiting with
  | nil => exact hroom
  | cons d rest ih =>
    have hlength : (waiting ++ [d]).length = waiting.length + 1 := by simp
    rw [leftOver]
    split
    · exact ih (Nat.lt_of_le_of_lt (Nat.zero_le _) hroom)
    · exact ih (by omega)

/-- All batches of a reading that comes to the end of the file are full, but the last one may be
smaller. -/
lemma Reading.sizes_inBatches (r : Reading) (hend : r.size?.isSome) (hcapacity : 0 < capacity)
    (items : List α) :
    (r.inBatches capacity items).flatten = items ∧
      (∀ b ∈ r.inBatches capacity items, b ≠ [] ∧ b.length ≤ capacity) ∧
      ∀ b ∈ (r.inBatches capacity items).dropLast, b.length = capacity := by
  have hroom : ([] : List α).length < capacity := hcapacity
  have hflatten := flatten_fullBatches capacity [] items
  have hfull : ∀ b ∈ fullBatches capacity [] items, b.length = capacity :=
    fun b => length_of_mem_fullBatches hroom
  have hsize : r.size? ≠ none := Option.isSome_iff_ne_none.1 hend
  rw [inBatches]
  simp only [hsize, false_or]
  by_cases hnone : leftOver capacity [] items = []
  · rw [hnone, List.append_nil, List.nil_append] at hflatten
    rw [if_pos hnone, List.append_nil]
    exact ⟨hflatten, fun b hb => ⟨ne_nil_of_mem_fullBatches hb, Nat.le_of_eq (hfull b hb)⟩,
      fun b hb => hfull b (List.dropLast_subset _ hb)⟩
  · rw [if_neg hnone, List.dropLast_concat, List.flatten_append, List.flatten_singleton]
    refine ⟨hflatten, fun b hb => ?_, hfull⟩
    rcases List.mem_append.1 hb with hb | hb
    · exact ⟨ne_nil_of_mem_fullBatches hb, Nat.le_of_eq (hfull b hb)⟩
    · rw [List.mem_singleton.1 hb]
      exact ⟨hnone, Nat.le_of_lt (length_leftOver_lt hroom)⟩

end Batches

/-! ## Lines and their documents -/

/-- The lines of a file that are not blank. -/
def filledLines (lines : List Bytes) : List Bytes :=
  lines.filter fun line => !Text.isBlankText (lineText line)

section Documents

variable {site : Site} {path : Text} {lines : List Bytes}

lemma forall₂_documents (hreads : site.Reads path lines) :
    List.Forall₂
      (fun line d => Line.document? site.zone site.now path (lineText line) = .ok (some d))
      (filledLines lines) (site.documents path lines) := by
  induction lines with
  | nil => exact .nil
  | cons line rest ih =>
    obtain ⟨⟨d?, hline⟩, hrest⟩ := List.forall_mem_cons.1 hreads
    have hdocument : site.document? path line = d? := by rw [Site.document?, hline]
    rw [filledLines, Site.documents, List.filter_cons, List.filterMap_cons, hdocument]
    cases d? with
    | none =>
      rw [Line.document?_eq_none_iff.1 hline]
      exact ih hrest
    | some d =>
      have hfilled : Text.isBlankText (lineText line) = false := by
        rw [← Bool.not_eq_true]
        intro hblank
        rw [Line.document?_of_blank hblank] at hline
        cases hline
      rw [hfilled]
      exact .cons hline (ih hrest)

end Documents

/-- Where a reading begins, if the offset is one that can be kept. -/
lemma Reading.start?_of_nonneg (size : Nat) {offset : Int} (h : 0 ≤ offset) :
    Reading.start? size offset = some (if (size : Int) < offset then 0 else offset.toNat) := by
  rw [start?, if_neg (Int.not_lt.2 h)]
  split <;> rfl

/-! ## Counts of lines -/

/-- The counts after lines. -/
def Site.countLines (site : Site) (source : Text) (counts : Line.Counts) (lines : List Bytes) :
    Line.Counts :=
  lines.foldl (fun counts line => counts.count (site.document? source line)) counts

/-- Every line is counted once, and as parsed if it has a document. -/
lemma Site.countLines_spec (site : Site) (source : Text) (counts : Line.Counts)
    (lines : List Bytes) :
    (site.countLines source counts lines).parsed =
        counts.parsed + (site.documents source lines).length ∧
      (site.countLines source counts lines).parsed + (site.countLines source counts lines).skipped =
        counts.parsed + counts.skipped + lines.length := by
  induction lines generalizing counts with
  | nil => exact ⟨rfl, rfl⟩
  | cons line rest ih =>
    obtain ⟨hparsed, hall⟩ := ih (counts.count (site.document? source line))
    rw [countLines, List.foldl_cons, ← countLines, hparsed] at *
    rw [hall, documents, documents, List.filterMap_cons, List.length_cons]
    cases site.document? source line with
    | none => exact ⟨rfl, by simp only [Line.Counts.count]; omega⟩
    | some d =>
      simp only [Line.Counts.count, List.length_cons]
      omega

namespace Collector

variable {σ : Type} [Sink σ] {site : Site} {c c' : Collector σ} {f : OpenFile} {n : Nat}

omit [Sink σ] in
lemma counts_accept {source : Text} {line : Bytes} {d? : Option Document}
    (h : c.accept site source line = (c', .ok d?)) :
    c'.counts = c.counts.count (site.document? source line) := by
  rw [accept] at h
  split at h
  next => simp at h
  next hline =>
    simp only [Prod.mk.injEq, Except.ok.injEq] at h
    obtain ⟨rfl, rfl⟩ := h
    rw [Site.document?, hline]
  next d hline =>
    simp only [Prod.mk.injEq, Except.ok.injEq] at h
    obtain ⟨rfl, rfl⟩ := h
    rw [Site.document?, hline]

lemma counts_send {atEnd : Bool} {next : Collector σ → Collector σ × FileResult}
    (h : c.send f atEnd next = (c', .finished n)) :
    ∃ c₁ : Collector σ, c₁.counts = c.counts ∧ next c₁ = (c', .finished n) := by
  have hcounts : (c.dispatch.2.2.settle c.dispatch.1.length c.dispatch.2.1.outcome).1.counts =
      c.counts := rfl
  rw [send] at h
  simp only at h
  split at h
  next => simp at h
  next =>
    split at h
    next => simp at h
    next c₁ m hsettle =>
      rw [hsettle] at hcounts
      exact ⟨c₁, hcounts, h⟩

omit [Sink σ] in
lemma counts_complete (h : c.complete f = (c', .finished n)) : c'.counts = c.counts :=
  (congrArg (fun r : Collector σ × FileResult => r.1.counts) h).symm

lemma counts_readLines {lines : List Bytes} (h : c.readLines site f lines = (c', .finished n)) :
    c'.counts = site.countLines f.path c.counts lines := by
  induction lines generalizing c f with
  | nil =>
    rw [readLines_nil] at h
    split at h
    next => simp at h
    next =>
      rw [finishFile_eq] at h
      split at h
      next => exact counts_complete h
      next =>
        obtain ⟨c₁, hcounts, hnext⟩ := counts_send h
        exact (counts_complete hnext).trans hcounts
  | cons line rest ih =>
    have hlater : ∀ {c₁ : Collector σ}, c₁.counts = c.counts.count (site.document? f.path line) →
        c₁.readLines site (f.takeLine line) rest = (c', .finished n) →
        c'.counts = site.countLines f.path c.counts (line :: rest) := by
      intro c₁ hcounts hrest
      rw [ih hrest, hcounts]
      rfl
    rw [readLines_cons] at h
    split at h
    next => simp at h
    next =>
      split at h
      next => simp at h
      next c₁ haccept => exact hlater (counts_accept haccept) h
      next c₁ d haccept =>
        split at h
        next =>
          obtain ⟨c₂, hcounts, hnext⟩ := counts_send h
          exact hlater (hcounts.trans (counts_accept haccept)) hnext
        next => exact hlater (counts_accept haccept) h

/-- The bytes of the file at a path that are to be read, if the file holds the content: those from
the offset on, or all of them if there are fewer than that. -/
def unread {σ : Type} (c : Collector σ) (path : Text) (content : Bytes) : Bytes :=
  content.drop (if (content.length : Int) < c.offset path then 0 else (c.offset path).toNat)

lemma reading_of_shows {σ : Type} {c : Collector σ} {path : Text} {content : Bytes}
    (hshows : c.files.Shows path content) (hoffset : 0 ≤ c.offset path) :
    c.reading path =
      ⟨if (content.length : Int) < c.offset path then 0 else (c.offset path).toNat,
        splitLines (c.unread path content), some content.length⟩ := by
  obtain ⟨number, hfind, rfl⟩ := hshows.found
  rw [reading, Files.reading, hfind]
  simp only [Reading.start?_of_nonneg _ hoffset, hshows.sound]
  rfl

/-- A reading that has come to the end of its file has counted the lines from where it began. -/
lemma counts_awaited_tail {path : Text} {content : Bytes} (hshows : c.files.Shows path content)
    (hoffset : 0 ≤ c.offset path) (h : awaited site (c.tail site path) = (c', .finished n)) :
    c'.counts = site.countLines path c.counts (splitLines (c.unread path content)) := by
  obtain ⟨number, hfind, rfl⟩ := hshows.found
  have hprompt : c.prompt.readFile site path number = (c'.prompt, .finished n) := by
    have htail := prompt_awaited_tail site c path
    rw [h, tail, if_neg hshows.nul, prompt_files, hfind] at htail
    exact htail.symm
  obtain ⟨-, journal, hread⟩ :=
    exists_readFile_eq site c.prompt (Reading.start?_of_nonneg _ hoffset)
  rw [hread] at hprompt
  exact counts_readLines hprompt

/-- With a scripted sink, a reading that can come to the end of its file does, and the parts of what
comes of it are put together. -/
lemma Idle.exists_awaited_tail_finished {c : Collector ScriptedSink} {path : Text}
    {content : Bytes} (h : c.Idle) (hshows : c.files.Shows path content)
    (hoffset : 0 ≤ c.offset path) (hreads : site.Reads path (splitLines (c.unread path content))) :
    let lines := splitLines (c.unread path content)
    ∃ m, awaited site (c.tail site path) = (m, .finished lines.length) ∧
      Went ((c.reading path).batches site path c.outbox.capacity)
        (only path (some content.length)) c m ∧
      m.outbox.pending = [] ∧ m.linesRead = c.linesRead + lines.length ∧
      m.rotations = c.rotations + if (content.length : Int) < c.offset path then 1 else 0 := by
  have hreading := reading_of_shows hshows hoffset
  obtain ⟨number, hfind, rfl⟩ := hshows.found
  obtain ⟨m, result, hawaited, hwent, hends⟩ := h.exists_went_awaited_tail hshows.nul
    (by rw [hreading]; exact hreads)
  have hsize : (c.reading path).size? = some (c.files.content number).length := by rw [hreading]
  rw [hsize] at hwent hends
  refine ⟨m, ?_⟩
  obtain ⟨documents, m₁, hmoved, ⟨fault, hfailed⟩ | ⟨-, hempty, hdone⟩⟩ :=
    exists_moved_awaited_tail site hshows.nul hfind (Reading.start?_of_nonneg _ hoffset)
  · -- a reading that fails would not have kept the offset
    rw [hawaited] at hfailed
    obtain ⟨-, rfl⟩ := Prod.mk.inj hfailed
    cases fault <;> simp [FileResult.Ends] at hends
  · rw [hawaited] at hdone
    obtain ⟨rfl, rfl⟩ := Prod.mk.inj hdone
    exact ⟨hawaited, hwent, hempty, congrArg (· + _) hmoved.linesRead, hmoved.rotations⟩

end Collector

/-! ## The reading as a whole -/

/-- Nothing waits, there is room in the outbox, and the network does nothing that cannot be booked
to the end if it is asked to take batches. -/
structure Collector.Ready (c : Collector Connection) : Prop where
  pending : c.outbox.pending = []
  capacity : 1 ≤ c.outbox.capacity
  readsLast : c.sink.ReadsLast
  counted : ∀ e ∈ c.sink.exchanges,
    (e.response.outcome c.sink.decode c.sink.client.bulkUrl).IsCounted

/-- The file at the path, which holds the content, has been read to its end, and the batches were
posted. -/
structure TookIn (site : Site) (path : Text) (content : Bytes) (batches : List (List Document))
    (c c' : Collector Connection) : Prop where
  posts : c'.sink.posts = c.sink.posts ++ batches.map (c.sink.client.bulkPost c.outbox.index)
  /-- What was posted is one body for every batch, which holds the documents of the batch. -/
  bodies : List.Forall₂ (fun p b => Bulk.Holds c.outbox.index p.body b)
    (c'.sink.posts.drop c.sink.posts.length) batches
  /-- There is one document for every line that is not blank, in the order of the lines. -/
  documents : List.Forall₂
    (fun line d => Line.document? site.zone site.now path (lineText line) = .ok (some d))
    (filledLines (splitLines (c.unread path content))) batches.flatten
  sizes : ∀ b ∈ batches, b ≠ [] ∧ b.length ≤ c.outbox.capacity
  full : ∀ b ∈ batches.dropLast, b.length = c.outbox.capacity
  pending : c'.outbox.pending = []
  offsets : ∀ other, c'.offsets.lookup other =
    if other = path then some (content.length : Int) else c.offsets.lookup other
  rotations : c'.rotations =
    c.rotations + if (content.length : Int) < c.offset path then 1 else 0
  linesRead : c'.linesRead = c.linesRead + (splitLines (c.unread path content)).length
  parsed : c'.counts.parsed = c.counts.parsed + batches.flatten.length
  counted : c'.counts.parsed + c'.counts.skipped =
    c.counts.parsed + c.counts.skipped + (splitLines (c.unread path content)).length

namespace Collector

variable {site : Site} {c : Collector Connection} {path : Text} {content : Bytes}

/-- With the sink whose script is what the network is going to do, nothing else is different. -/
lemma Ready.idle_scripted (h : c.Ready) : (c.withSink c.sink.scripted).Idle where
  pending := h.pending
  capacity := h.capacity
  counted d hd := by
    obtain ⟨e, he, rfl⟩ := List.mem_map.1 hd
    exact h.counted e he

/-- **One reading does its job.**  A file is read from the offset reached in it, or from its
beginning if it has become shorter, by a collector with nothing in its outbox.  None of the lines
begins with a timestamp that is out of range, and the backend may refuse what it is sent.  Then the
reading comes to the end of the file, with the number of lines as its result: one for every line
feed, and one more for an unfinished line.  What comes of it is said by `TookIn`. -/
theorem tail_takes_in (hready : c.Ready) (hshows : c.files.Shows path content)
    (hoffset : 0 ≤ c.offset path) (hreads : site.Reads path (splitLines (c.unread path content))) :
    let unread := c.unread path content
    ∃ c' batches,
      awaited site (c.tail site path) = (c', .finished (splitLines unread).length) ∧
        (splitLines unread).flatten = unread ∧
        (splitLines unread).length =
          unread.count 10 + (if unread = [] ∨ unread.getLast? = some 10 then 0 else 1) ∧
        TookIn site path content batches c c' := by
  intro unread
  let reading := (c.withSink c.sink.scripted).reading path
  have hreading : reading = _ := reading_of_shows hshows hoffset
  have hlines : reading.lines = splitLines unread := by
    rw [hreading]
    rfl
  have hend : reading.size?.isSome := by rw [hreading, Option.isSome_some]
  obtain ⟨m, hscripted, hwent, hempty, hread, hrotated⟩ :=
    hready.idle_scripted.exists_awaited_tail_finished hshows hoffset hreads
  obtain ⟨c', hclient, hsame, hposts⟩ := exists_awaited_tail_scripted hready.readsLast hscripted
  have hbatches : m.sink.batches = reading.batches site path c.outbox.capacity := hwent.batches
  have hcounts := counts_awaited_tail hshows hoffset hclient
  obtain ⟨hparsed, hall⟩ := site.countLines_spec path c.counts (splitLines unread)
  obtain ⟨hflatten, hsizes, hfull⟩ :=
    reading.sizes_inBatches hend hready.capacity (site.documents path reading.lines)
  have hfields : c'.outbox = m.outbox ∧ c'.offsets = m.offsets ∧ c'.rotations = m.rotations ∧
      c'.linesRead = m.linesRead := by
    rw [hsame]
    exact ⟨rfl, rfl, rfl, rfl⟩
  obtain ⟨houtbox, hoffsets, hrotations, hlinesRead⟩ := hfields
  refine ⟨c', reading.batches site path c.outbox.capacity, hclient, flatten_splitLines unread,
    length_splitLines unread, ?_⟩
  constructor
  case posts => rw [hposts, hbatches]
  case bodies =>
    rw [hposts, hbatches, List.drop_left, List.forall₂_map_left_iff, List.forall₂_same]
    exact fun b hb => Bulk.holds_body c.outbox.index (hsizes b hb).1
  case documents =>
    rw [Reading.batches, hflatten, hlines]
    exact forall₂_documents hreads
  case sizes => exact hsizes
  case full => exact hfull
  case pending => rw [houtbox, hempty]
  case offsets =>
    intro other
    rw [hoffsets, hwent.offsets, only]
    split <;> rfl
  case rotations => exact hrotations.trans hrotated
  case linesRead => exact hlinesRead.trans hread
  case parsed => rw [hcounts, hparsed, Reading.batches, hflatten, hlines]
  case counted => rw [hcounts, hall]

/-- The file has become shorter, it holds a blank line and an unfinished one, and the first of two
requests fails after a second. -/
theorem tail_takes_in_of_refused_batch :
    let site : Site := ⟨⟨0⟩, "/", "/", ⟨0, by decide⟩⟩
    let content : Bytes := [97, 10, 10, 98, 13, 10, 99]
    let client : Client :=
      ⟨"http://es", none, Client.defaultConnectTimeout, Client.defaultReadTimeout⟩
    let c : Collector Connection := ⟨⟨[([['a']], .file 0)], [(0, content)], []⟩,
      ⟨"logs", 2, [], 0, 0, 0, 0⟩, .new client Json.decoder [⟨.failure "refused", 1⟩],
      [(['/', 'a'], 9)], ⟨0, 0⟩, 0, 0, []⟩
    c.Ready ∧ c.files.Shows "/a" content ∧ 0 ≤ c.offset "/a" ∧
      site.Reads "/a" (splitLines (c.unread "/a" content)) ∧
      ∃ c' batches, awaited site (c.tail site "/a") = (c', .finished 4) ∧
        TookIn site "/a" content batches c c' ∧ batches.flatten.length = 3 ∧ c'.rotations = 1 ∧
        c'.counts.parsed = 3 := by
  intro site content client c
  have hready : c.Ready := by
    refine ⟨rfl, by decide, rfl, fun e he => ?_⟩
    rw [List.mem_singleton.1 he]
    trivial
  have hshows : c.files.Shows "/a" content :=
    ⟨by decide, ⟨0, Files.find_eq_file ['a'] rfl (by decide) (by decide) (by decide), rfl⟩, rfl⟩
  have hlines : splitLines (c.unread "/a" content) = [[97, 10], [10], [98, 13, 10], [99]] := rfl
  have hreads : site.Reads "/a" (splitLines (c.unread "/a" content)) := by
    -- no line has a space, and so none has a first token that could be out of range
    have hnone : ∀ line ∈ splitLines (c.unread "/a" content),
        Line.firstToken? (lineText line) = none := by
      rw [hlines]
      decide
    intro line hline
    cases hread : Line.document? site.zone site.now "/a" (lineText line) with
    | ok d => exact ⟨d, rfl⟩
    | error fault =>
      obtain ⟨first, rest, s, hfirst, -⟩ := Line.exists_document?_eq_error_iff.1 ⟨fault, hread⟩
      rw [hnone line hline] at hfirst
      cases hfirst
  have hoffset : 0 ≤ c.offset "/a" := by decide
  obtain ⟨c', batches, hawaited, -, -, htook⟩ := tail_takes_in hready hshows hoffset hreads
  have hthree : batches.flatten.length = 3 := by
    rw [← htook.documents.length_eq, hlines]
    rfl
  have hshorter : (content.length : Int) < c.offset "/a" := by decide
  rw [hlines] at hawaited
  refine ⟨hready, hshows, hoffset, hreads, c', batches, hawaited, htook, hthree, ?_, ?_⟩
  · rw [htook.rotations, if_pos hshorter]
  · rw [htook.parsed, hthree]

end Collector

end LogSearch.Ingestion
