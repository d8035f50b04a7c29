import LogSearch.Proofs.Ingestion.Apart

/-!
# How often a line is delivered

Passes are made again and again over a file that grows, and each of them begins where the last one
that read the file to its end has stopped.  A `Round` is one pass: the files as they are then, the
site and the configured paths.  What a round posts from the file is its `Shipment`, the batches with
the place of every line in the file beside its document, so that lines with the same text are told
apart.

Delivery is meant to be at most once.  Within a round it is, and what is posted by a round that
reads the file to its end comes before all that is posted later.  But a reading may break off after
batches of it were posted.  Its offset is not kept then, and the next round begins at the same place
and posts the same lines again (`posted_twice_after_break`).  `posted_once_between_breaks` says that
no line is posted twice as long as no reading that breaks off has posted anything.

It is about rounds in which a reading ends only where the file ends or cannot be read on.  The two
other ways in which a reading can be given up with its offset not kept are left out: no line that is
read begins with a timestamp that is out of range (`Collector.Visits.reads`), and every reply can be
decoded and its rejected documents counted (`Within.idle`).
-/

namespace LogSearch.Ingestion

/-! ## Lines in their places -/

/-- The document of a line of a file, with the place where the line begins. -/
structure Piece where
  start : Nat
  line : Bytes
  document : Document

namespace Piece

/-- The line ends before the other one begins. -/
def Before (p q : Piece) : Prop := p.start + p.line.length ≤ q.start

/-- The line is what a file holds at its place, and has the document. -/
structure IsIn (site : Site) (path : Text) (content : Bytes) (p : Piece) : Prop where
  some_bytes : p.line ≠ []
  bytes : (content.drop p.start).take p.line.length = p.line
  document : site.document? path p.line = some p.document

end Piece

/-- The documents of lines that follow each other from a place on. -/
def Site.pieces (site : Site) (path : Text) (start : Nat) : List Bytes → List Piece
  | [] => []
  | line :: rest =>
    let later := site.pieces path (start + line.length) rest
    match site.document? path line with
    | none => later
    | some d => ⟨start, line, d⟩ :: later

section Pieces

variable {site : Site} {path : Text} {start : Nat} {line : Bytes} {lines : List Bytes}
  {content : Bytes} {p : Piece}

lemma map_document_pieces :
    (site.pieces path start lines).map Piece.document = site.documents path lines := by
  induction lines generalizing start with
  | nil => rfl
  | cons line rest ih =>
    rw [Site.pieces, Site.documents, List.filterMap_cons]
    cases site.document? path line with
    | none => exact ih
    | some d => exact congrArg (d :: ·) ih

lemma mem_pieces_cons (h : p ∈ site.pieces path start (line :: lines)) :
    (p.start = start ∧ p.line = line ∧ site.document? path line = some p.document) ∨
      p ∈ site.pieces path (start + line.length) lines := by
  rw [Site.pieces] at h
  cases hdocument : site.document? path line with
  | none => exact .inr (by simpa only [hdocument] using h)
  | some d =>
    simp only [hdocument, List.mem_cons] at h
    rcases h with rfl | h
    · exact .inl ⟨rfl, rfl, rfl⟩
    · exact .inr h

/-- The pieces lie in the stretch of the lines. -/
lemma bounds_of_mem_pieces (h : p ∈ site.pieces path start lines) :
    start ≤ p.start ∧ p.start + p.line.length ≤ start + lines.flatten.length := by
  induction lines generalizing start with
  | nil => exact absurd h List.not_mem_nil
  | cons line rest ih =>
    rw [List.flatten_cons, List.length_append]
    rcases mem_pieces_cons h with ⟨hstart, hline, -⟩ | h
    · rw [hstart, hline]
      omega
    · have := ih h
      omega

lemma pairwise_pieces : (site.pieces path start lines).Pairwise Piece.Before := by
  induction lines generalizing start with
  | nil => exact .nil
  | cons line rest ih =>
    rw [Site.pieces]
    cases site.document? path line with
    | none => exact ih
    | some d => exact .cons (fun q hq => (bounds_of_mem_pieces hq).1) ih

lemma isIn_of_mem_pieces (hlines : ∀ line ∈ lines, line ≠ [])
    (hcontent : lines.flatten <+: content.drop start) (h : p ∈ site.pieces path start lines) :
    p.IsIn site path content := by
  induction lines generalizing start with
  | nil => exact absurd h List.not_mem_nil
  | cons line rest ih =>
    rw [List.forall_mem_cons] at hlines
    obtain ⟨more, hmore⟩ := hcontent
    rw [List.flatten_cons, List.append_assoc] at hmore
    rcases mem_pieces_cons h with ⟨hstart, hline, hdocument⟩ | h
    · refine ⟨hline ▸ hlines.1, ?_, hline ▸ hdocument⟩
      rw [hstart, hline, ← hmore, List.take_left]
    · refine ih hlines.2 ⟨more, ?_⟩ h
      rw [← List.drop_drop, ← hmore, List.drop_left]

end Pieces

section Batches

variable {α β : Type} (f : α → β) (capacity : Nat)

lemma fullBatches_map (waiting items : List α) :
    fullBatches capacity (waiting.map f) (items.map f) =
      (fullBatches capacity waiting items).map (List.map f) := by
  induction items generalizing waiting with
  | nil => rfl
  | cons d rest ih =>
    rw [List.map_cons, fullBatches, fullBatches, List.length_map]
    split
    · rw [List.map_cons, List.map_append, ← ih]
      rfl
    · rw [← ih, List.map_append]
      rfl

lemma leftOver_map (waiting items : List α) :
    leftOver capacity (waiting.map f) (items.map f) = (leftOver capacity waiting items).map f := by
  induction items generalizing waiting with
  | nil => rfl
  | cons d rest ih =>
    rw [List.map_cons, leftOver, leftOver, List.length_map]
    split
    · rw [← ih]
      rfl
    · rw [← ih, List.map_append]
      rfl

/-- What the items are makes no difference to where the batches end. -/
lemma Reading.inBatches_map (r : Reading) (items : List α) :
    r.inBatches capacity (items.map f) = (r.inBatches capacity items).map (List.map f) := by
  have hfull := fullBatches_map f capacity [] items
  have hleft := leftOver_map f capacity [] items
  rw [List.map_nil] at hfull hleft
  rw [inBatches, inBatches, hfull, hleft, List.map_append]
  simp only [List.map_eq_nil_iff]
  split
  · rfl
  · rfl

/-- The batches hold the items in their order. -/
lemma Reading.flatten_inBatches_front (r : Reading) (items : List α) :
    (r.inBatches capacity items).flatten <+: items := by
  have hflatten := flatten_fullBatches capacity [] items
  rw [List.nil_append] at hflatten
  rw [inBatches, List.flatten_append]
  split
  · exact ⟨leftOver capacity [] items, by rw [List.flatten_nil, List.append_nil, hflatten]⟩
  · exact ⟨[], by rw [List.flatten_singleton, hflatten, List.append_nil]⟩

end Batches

/-! ## Rounds -/

/-- A pass that is made over files at some time. -/
structure Round where
  files : Files
  site : Site
  paths : List Text

/-- What a round posts of the file at a path, and whether the reading of the file breaks off. -/
structure Shipment where
  brokeOff : Bool
  batches : List (List Piece)

/-- The pieces of a shipment in their order. -/
def Shipment.pieces (s : Shipment) : List Piece := s.batches.flatten

namespace Collector

/-- The collector among other files. -/
def among {σ : Type} (c : Collector σ) (files : Files) : Collector σ := { c with files := files }

/-- Makes a round, with every outcome waited for. -/
def makeRound {σ : Type} [Sink σ] (c : Collector σ) (r : Round) : Collector σ × PassResult :=
  awaitedPass r.site ((c.among r.files).pass r.site r.paths)

/-- The collector after rounds. -/
def makeRounds {σ : Type} [Sink σ] (c : Collector σ) (rounds : List Round) : Collector σ :=
  rounds.foldl (fun c r => (c.makeRound r).1) c

/-- What the collector posts of the file at a path in a round. -/
def shipment {σ : Type} (c : Collector σ) (path : Text) (r : Round) : Shipment :=
  let reading := (c.among r.files).reading path
  ⟨(r.files.failsAfter? path).isSome,
    reading.inBatches c.outbox.capacity (r.site.pieces path reading.start reading.lines)⟩

/-- What the collector posts of the file at a path, round by round. -/
def shipments {σ : Type} [Sink σ] (c : Collector σ) (path : Text) : List Round → List Shipment
  | [] => []
  | r :: later => c.shipment path r :: (c.makeRound r).1.shipments path later

/-- At a round the collector goes over the file at the path, which holds the content, and can read
the lines of all files that it goes over. -/
structure Visits (c : Collector ScriptedSink) (path : Text) (content : Bytes) (r : Round) :
    Prop where
  distinct : (r.paths.map r.site.key).Nodup
  nul : ∀ other ∈ r.paths.map r.site.key, Char.ofNat 0 ∉ other
  reads : ∀ other ∈ r.paths.map r.site.key,
    r.site.Reads other ((c.among r.files).reading other).lines
  configured : path ∈ r.paths.map r.site.key
  found : ∃ number, r.files.find path = .file number ∧ r.files.content number = content

/-- The collector goes over the file at the path round by round, while the file only grows from what
it held before. -/
def Watches (path : Text) (before : Bytes) (c : Collector ScriptedSink) : List Round → Prop
  | [] => True
  | r :: later => ∃ appended, c.Visits path (before ++ appended) r ∧
      Watches path (before ++ appended) (c.makeRound r).1 later

end Collector

/-- Nothing waits, and the offset of the file at the path is in the bytes that it held before. -/
structure Within (path : Text) (before : Bytes) (start : Nat) (c : Collector ScriptedSink) :
    Prop where
  idle : c.Idle
  offset : c.offset path = start
  start_le : start ≤ before.length

namespace Within

variable {path : Text} {before appended : Bytes} {start : Nat} {c : Collector ScriptedSink}
  {r : Round}

lemma reading_eq (h : Within path before start c)
    (hfound : ∃ number, r.files.find path = .file number ∧
      r.files.content number = before ++ appended) :
    (c.among r.files).reading path =
      .ofContent start (before ++ appended) (r.files.failsAfter? path) := by
  obtain ⟨number, hfind, hcontent⟩ := hfound
  have hlength := h.start_le
  have hstart : Reading.start? (before ++ appended).length (c.offset path) = some start := by
    rw [h.offset, Reading.start?, if_neg (by rw [List.length_append]; omega), if_neg (by omega),
      Int.toNat_natCast]
  have hoffset : (c.among r.files).offset path = c.offset path := rfl
  have hfiles : (c.among r.files).files = r.files := rfl
  rw [Collector.reading, Files.reading, hfiles, hfind]
  simp only [hcontent, hoffset, hstart]

lemma visits (h : Within path before start c) (hkeys : r.paths.map r.site.key = [path])
    (hnul : Char.ofNat 0 ∉ path)
    (hfound : ∃ number, r.files.find path = .file number ∧
      r.files.content number = before ++ appended)
    (hreads : r.site.Reads path (splitLines ((before ++ appended).drop start))) :
    c.Visits path (before ++ appended) r := by
  constructor
  · rw [hkeys]
    exact List.pairwise_singleton _ _
  · rw [hkeys, List.forall_mem_singleton]
    exact hnul
  · rw [hkeys, List.forall_mem_singleton, h.reading_eq hfound]
    cases r.files.failsAfter? path with
    | none => exact hreads
    | some k => exact fun line hline => hreads line (List.mem_of_mem_take hline)
  · rw [hkeys]
    exact List.mem_singleton_self _
  · exact hfound

/-- What is posted lies in the file from the offset on, one line after the other. -/
lemma shipment_spec (h : Within path before start c)
    (hvisits : c.Visits path (before ++ appended) r) :
    (c.shipment path r).pieces.Pairwise Piece.Before ∧
      ∀ p ∈ (c.shipment path r).pieces, start ≤ p.start ∧
        p.start + p.line.length ≤ (before ++ appended).length ∧
        p.IsIn r.site path (before ++ appended) := by
  have hstart : start ≤ (before ++ appended).length := by
    rw [List.length_append]
    exact Nat.le_add_right_of_le h.start_le
  -- the lines that are taken are the first lines of the file from the offset on
  have hlines : ∀ failsAfter,
      (Reading.ofContent start (before ++ appended) failsAfter).lines <+:
        splitLines ((before ++ appended).drop start) := by
    intro failsAfter
    cases failsAfter with
    | none => exact List.prefix_rfl
    | some k => exact List.take_prefix k _
  have hfront := hlines (r.files.failsAfter? path)
  have hfrom : (Reading.ofContent start (before ++ appended) (r.files.failsAfter? path)).start =
      start := by
    cases r.files.failsAfter? path <;> rfl
  generalize hreading : Reading.ofContent start (before ++ appended) (r.files.failsAfter? path) =
    reading at hfront hfrom
  have hpieces : (c.shipment path r).pieces <+: r.site.pieces path start reading.lines := by
    rw [Shipment.pieces, Collector.shipment, h.reading_eq hvisits.found, hreading, hfrom]
    exact Reading.flatten_inBatches_front _ _ _
  have hcontent : reading.lines.flatten <+: (before ++ appended).drop start := by
    obtain ⟨more, hmore⟩ := hfront
    exact ⟨more.flatten, by rw [← List.flatten_append, hmore, flatten_splitLines]⟩
  refine ⟨pairwise_pieces.sublist hpieces.sublist, fun p hp => ?_⟩
  have hmem := hpieces.subset hp
  obtain ⟨hfirst, hlast⟩ := bounds_of_mem_pieces hmem
  refine ⟨hfirst, ?_, isIn_of_mem_pieces (fun line hline =>
    ne_nil_of_mem_splitLines (hfront.subset hline)) hcontent hmem⟩
  have hlength := hcontent.length_le
  rw [List.length_drop] at hlength
  omega

/-- The step: a round posts its shipment, and goes on to the end of the file unless the reading
breaks off. -/
lemma makeRound (h : Within path before start c)
    (hvisits : c.Visits path (before ++ appended) r) :
    Within path (before ++ appended)
        (if (c.shipment path r).brokeOff then start else (before ++ appended).length)
        (c.makeRound r).1 ∧
      (c.makeRound r).1.outbox.capacity = c.outbox.capacity ∧
      batchesFrom path (c.makeRound r).1.sink.batches =
        batchesFrom path c.sink.batches ++
          (c.shipment path r).batches.map (List.map Piece.document) := by
  have hamong : (c.among r.files).Idle := ⟨h.idle.pending, h.idle.capacity, h.idle.counted⟩
  obtain ⟨c₁, hpass, hidle, hwent⟩ :=
    hamong.exists_awaitedPass hvisits.distinct hvisits.nul hvisits.reads
  have hround : (c.makeRound r).1 = c₁ := congrArg Prod.fst hpass
  rw [hround]
  have hlookup := hwent.offsets path
  rw [if_pos hvisits.configured, h.reading_eq hvisits.found] at hlookup
  have hlength : start ≤ (before ++ appended).length := by
    rw [List.length_append]
    exact Nat.le_add_right_of_le h.start_le
  refine ⟨?_, hwent.capacity, ?_⟩
  · rw [Collector.shipment]
    cases hfails : r.files.failsAfter? path with
    | none =>
      rw [hfails] at hlookup
      exact ⟨hidle, by rw [Collector.offset, hlookup]; rfl, Nat.le_refl _⟩
    | some k =>
      rw [hfails] at hlookup
      refine ⟨hidle, ?_, hlength⟩
      rw [Collector.offset, hlookup]
      exact h.offset
  · rw [hwent.batches, batchesFrom_append, batchesFrom_flatMap hvisits.distinct,
      if_pos hvisits.configured, Collector.shipment, ← Reading.inBatches_map, map_document_pieces]
    rfl

end Within

/-! ## All rounds -/

/-- The run: what is posted of the file is its shipments, each of them from the file as it is at its
round, and all from the offset on.  What comes after a round that reads the file to its end comes
after it in the file. -/
lemma Within.makeRounds {path : Text} {before : Bytes} {start : Nat} {c : Collector ScriptedSink}
    {rounds : List Round} (h : Within path before start c)
    (hwatches : c.Watches path before rounds) :
    batchesFrom path (c.makeRounds rounds).sink.batches =
        batchesFrom path c.sink.batches ++
          (c.shipments path rounds).flatMap (fun s => s.batches.map (List.map Piece.document)) ∧
      (∀ s ∈ c.shipments path rounds, s.pieces.Pairwise Piece.Before ∧
        (∀ p ∈ s.pieces, start ≤ p.start) ∧
        ∃ r ∈ rounds, ∃ number, r.files.find path = .file number ∧
          ∀ p ∈ s.pieces, p.IsIn r.site path (r.files.content number)) ∧
      (c.shipments path rounds).Pairwise fun s t =>
        s.brokeOff = false → ∀ p ∈ s.pieces, ∀ q ∈ t.pieces, p.Before q := by
  induction rounds generalizing before start c with
  | nil => exact ⟨(List.append_nil _).symm, List.forall_mem_nil _, .nil⟩
  | cons r later ih =>
    obtain ⟨appended, hvisits, hlater⟩ := hwatches
    obtain ⟨hpairwise, hplaces⟩ := h.shipment_spec hvisits
    obtain ⟨hwithin, -, hposted⟩ := h.makeRound hvisits
    obtain ⟨hbatches, hshipments, hordered⟩ := ih hwithin hlater
    have hlength : start ≤ (before ++ appended).length := by
      rw [List.length_append]
      exact Nat.le_add_right_of_le h.start_le
    refine ⟨?_, ?_, ?_⟩
    · rw [Collector.shipments, List.flatMap_cons, ← List.append_assoc, ← hposted]
      exact hbatches
    · rw [Collector.shipments, List.forall_mem_cons]
      constructor
      · obtain ⟨number, hfind, hcontent⟩ := hvisits.found
        refine ⟨hpairwise, fun p hp => (hplaces p hp).1, r, List.mem_cons_self, number, hfind, ?_⟩
        rw [hcontent]
        exact fun p hp => (hplaces p hp).2.2
      · intro s hs
        obtain ⟨hs₁, hs₂, r', hr', hs₃⟩ := hshipments s hs
        refine ⟨hs₁, fun p hp => ?_, r', List.mem_cons_of_mem _ hr', hs₃⟩
        have hstart := hs₂ p hp
        split at hstart
        · exact hstart
        · exact Nat.le_trans hlength hstart
    · rw [Collector.shipments]
      refine .cons (fun t ht hwhole p hp q hq => ?_) hordered
      have hstart := (hshipments t ht).2.1 q hq
      rw [hwhole, if_neg Bool.false_ne_true] at hstart
      exact Nat.le_trans (hplaces p hp).2.1 hstart

/-- **Where no line and no reply is at fault, a line is posted twice only after a reading that broke
off.**  A collector goes over a file round by round, among any other files, while the file only
grows.  Readings may break off after any number of lines, and requests may fail, but no line that is
read has a timestamp out of range, and every reply can be decoded and counted.  Then

* the batches of the file are the shipments of the rounds, and every line of a shipment is what the
  file holds at its place;
* no shipment holds a line twice, and what is posted by a round whose reading does not break off
  comes in the file before all that is posted later;
* if no reading that breaks off has posted anything, the lines that are posted come one after the
  other in the file, and none of them is posted twice. -/
theorem posted_once_between_breaks {c : Collector ScriptedSink} {path : Text} {before : Bytes}
    {start : Nat} (hwithin : Within path before start c) {rounds : List Round}
    (hwatches : c.Watches path before rounds) :
    let shipments := c.shipments path rounds
    batchesFrom path (c.makeRounds rounds).sink.batches =
        batchesFrom path c.sink.batches ++
          shipments.flatMap (fun s => s.batches.map (List.map Piece.document)) ∧
      (∀ s ∈ shipments, ∃ r ∈ rounds, ∃ number, r.files.find path = .file number ∧
        ∀ p ∈ s.pieces, p.IsIn r.site path (r.files.content number)) ∧
      (∀ s ∈ shipments, s.pieces.Pairwise Piece.Before) ∧
      (shipments.Pairwise fun s t =>
        s.brokeOff = false → ∀ p ∈ s.pieces, ∀ q ∈ t.pieces, p.Before q) ∧
      ((∀ s ∈ shipments, s.brokeOff = true → s.batches = []) →
        (shipments.flatMap Shipment.pieces).Pairwise Piece.Before) := by
  intro shipments
  obtain ⟨hbatches, hshipments, hordered⟩ := hwithin.makeRounds hwatches
  refine ⟨hbatches, fun s hs => (hshipments s hs).2.2, fun s hs => (hshipments s hs).1, hordered,
    fun hbreaks => ?_⟩
  refine List.pairwise_flatMap.2 ⟨fun s hs => (hshipments s hs).1, ?_⟩
  refine hordered.imp_of_mem fun {s t} hs ht hst p hp q hq => ?_
  cases hbroke : s.brokeOff with
  | false => exact hst hbroke p hp q hq
  | true =>
    have hnone : s.pieces = [] := by rw [Shipment.pieces, hbreaks s hs hbroke, List.flatten_nil]
    rw [hnone] at hp
    exact absurd hp List.not_mem_nil

/-- A reading that breaks off before its batch is full, and one that reads the file to its end when
it has grown: both lines are posted, and neither of them twice. -/
theorem posted_once_between_breaks_of_early_break :
    let site : Site := ⟨⟨0⟩, "/", "/", ⟨0, by decide⟩⟩
    let showing : Bytes → List (Text × Nat) → Files := fun content failing =>
      ⟨[([['a']], .file 0)], [(0, content)], failing⟩
    let broken : Round := ⟨showing [120, 10] [("/a", 1)], site, ["/a"]⟩
    let whole : Round := ⟨showing [120, 10, 121] [], site, ["/a"]⟩
    let fresh : Collector ScriptedSink :=
      .new (showing [] []) ⟨"logs", 2, [], 0, 0, 0, 0⟩ ⟨[⟨.unavailable [], 1⟩], [], []⟩
    let shipments := fresh.shipments "/a" [broken, whole]
    shipments.map Shipment.brokeOff = [true, false] ∧
      (shipments.flatMap Shipment.pieces).map Piece.line = [[120, 10], [121]] ∧
      (shipments.flatMap Shipment.pieces).Pairwise Piece.Before := by
  intro site showing broken whole fresh shipments
  have hfind : ∀ content failing, (showing content failing).find "/a" = .file 0 :=
    fun content failing => Files.find_eq_file ['a'] rfl (by decide) (by decide) (by decide)
  have hx : ∃ d, Line.document? site.zone site.now "/a" (lineText [120, 10]) = .ok d :=
    ⟨some ⟨⟨0, by decide⟩, none, "x", "x", "/a"⟩, rfl⟩
  have hy : ∃ d, Line.document? site.zone site.now "/a" (lineText [121]) = .ok d :=
    ⟨some ⟨⟨0, by decide⟩, none, "y", "y", "/a"⟩, rfl⟩
  have hcounted : ∀ d ∈ fresh.sink.script, d.outcome.IsCounted := fun d hd => by
    rw [List.mem_singleton.1 hd]
    trivial
  have hfresh : Within "/a" [] 0 fresh := ⟨⟨rfl, Nat.two_pos, hcounted⟩, rfl, Nat.zero_le _⟩
  have hbroken : fresh.Visits "/a" ([] ++ [120, 10]) broken := by
    refine hfresh.visits (by decide +kernel) (by decide) ⟨0, hfind _ _, rfl⟩ ?_
    have hlines : splitLines (([] ++ [120, 10] : Bytes).drop 0) = [[120, 10]] := rfl
    rw [hlines, Site.Reads, List.forall_mem_singleton]
    exact hx
  have hshipment : fresh.shipment "/a" broken = ⟨true, []⟩ := by
    rw [Collector.shipment, hfresh.reading_eq hbroken.found]
    rfl
  obtain ⟨hafter, hcapacity, -⟩ := hfresh.makeRound hbroken
  rw [hshipment] at hafter
  have hwhole : (fresh.makeRound broken).1.Visits "/a" ([] ++ [120, 10] ++ [121]) whole := by
    refine hafter.visits (by decide +kernel) (by decide) ⟨0, hfind _ _, rfl⟩ ?_
    have hlines : splitLines (([] ++ [120, 10] ++ [121] : Bytes).drop 0) = [[120, 10], [121]] := rfl
    rw [if_pos rfl, hlines, Site.Reads, List.forall_mem_cons, List.forall_mem_singleton]
    exact ⟨hx, hy⟩
  have hshipment' : (fresh.makeRound broken).1.shipment "/a" whole =
      ⟨false, [[⟨0, [120, 10], ⟨⟨0, by decide⟩, none, "x", "x", "/a"⟩⟩,
        ⟨2, [121], ⟨⟨0, by decide⟩, none, "y", "y", "/a"⟩⟩]]⟩ := by
    rw [Collector.shipment, hafter.reading_eq hwhole.found, hcapacity]
    rfl
  have hshipments : shipments = [⟨true, []⟩, ⟨false, [[⟨0, [120, 10], ⟨⟨0, by decide⟩, none, "x",
      "x", "/a"⟩⟩, ⟨2, [121], ⟨⟨0, by decide⟩, none, "y", "y", "/a"⟩⟩]]⟩] := by
    rw [← hshipment, ← hshipment']
    rfl
  have hwatches : fresh.Watches "/a" [] [broken, whole] := ⟨_, hbroken, _, hwhole, trivial⟩
  obtain ⟨-, -, -, -, honce⟩ := posted_once_between_breaks hfresh hwatches
  have hbreaks : ∀ s ∈ shipments, s.brokeOff = true → s.batches = [] := by
    rw [hshipments, List.forall_mem_cons, List.forall_mem_singleton]
    exact ⟨fun _ => rfl, fun h => absurd h Bool.false_ne_true⟩
  refine ⟨?_, ?_, honce hbreaks⟩
  · rw [hshipments]
    rfl
  · rw [hshipments]
    rfl

/-- The first reading breaks off after a line that has been posted, and the second posts this line
again. -/
theorem posted_twice_after_break :
    let site : Site := ⟨⟨0⟩, "/", "/", ⟨0, by decide⟩⟩
    let content : Bytes := [120, 10, 121, 10]
    let failing : List (Text × Nat) → Files := fun paths =>
      ⟨[([['a']], .file 0)], [(0, content)], paths⟩
    let broken : Round := ⟨failing [("/a", 1)], site, ["/a"]⟩
    let whole : Round := ⟨failing [], site, ["/a"]⟩
    let fresh : Collector ScriptedSink :=
      .new (failing []) ⟨"logs", 1, [], 0, 0, 0, 0⟩ ⟨[], [], []⟩
    let first : Piece := ⟨0, [120, 10], ⟨⟨0, by decide⟩, none, "x", "x", "/a"⟩⟩
    let second : Piece := ⟨2, [121, 10], ⟨⟨0, by decide⟩, none, "y", "y", "/a"⟩⟩
    first.IsIn site "/a" content ∧ second.IsIn site "/a" content ∧
      (fresh.shipments "/a" [broken, whole]).map Shipment.batches =
        [[[first]], [[first], [second]]] ∧
      batchesFrom "/a" (fresh.makeRounds [broken, whole]).sink.batches =
        [[first.document], [first.document], [second.document]] := by
  intro site content failing broken whole fresh first second
  have hfind : ∀ paths, (failing paths).find "/a" = .file 0 := fun paths =>
    Files.find_eq_file ['a'] rfl (by decide) (by decide) (by decide)
  have hx : site.document? "/a" [120, 10] = some first.document := rfl
  have hy : site.document? "/a" [121, 10] = some second.document := rfl
  have hlines : splitLines ((content ++ []).drop 0) = [[120, 10], [121, 10]] := rfl
  have hkeys : (["/a"] : List Text).map site.key = (["/a"] : List Text) := by decide +kernel
  -- both rounds begin at the beginning of the file
  have hvisits : ∀ {c : Collector ScriptedSink} (paths : List (Text × Nat)),
      Within "/a" content 0 c → c.Visits "/a" (content ++ []) ⟨failing paths, site, ["/a"]⟩ := by
    intro c paths hc
    refine hc.visits (r := ⟨failing paths, site, ["/a"]⟩) hkeys (by decide)
      ⟨0, hfind paths, rfl⟩ ?_
    rw [hlines, Site.Reads, List.forall_mem_cons, List.forall_mem_singleton]
    exact ⟨⟨some first.document, rfl⟩, ⟨some second.document, rfl⟩⟩
  have hfresh : Within "/a" content 0 fresh :=
    ⟨⟨rfl, Nat.one_pos, List.forall_mem_nil _⟩, rfl, Nat.zero_le _⟩
  have hbroken := hvisits [("/a", 1)] hfresh
  have hshipment : fresh.shipment "/a" broken = ⟨true, [[first]]⟩ := by
    rw [Collector.shipment, hfresh.reading_eq hbroken.found]
    rfl
  obtain ⟨hafter, hcapacity, hposted⟩ := hfresh.makeRound hbroken
  rw [hshipment] at hafter
  have hwhole := hvisits [] hafter
  have hshipment' :
      (fresh.makeRound broken).1.shipment "/a" whole = ⟨false, [[first], [second]]⟩ := by
    rw [Collector.shipment, hafter.reading_eq hwhole.found, hcapacity]
    rfl
  obtain ⟨-, -, hposted'⟩ := hafter.makeRound hwhole
  refine ⟨⟨by decide, rfl, hx⟩, ⟨by decide, rfl, hy⟩, ?_, ?_⟩
  · rw [Collector.shipments, Collector.shipments, Collector.shipments, hshipment, hshipment']
    rfl
  · rw [hshipment] at hposted
    rw [hshipment', hposted] at hposted'
    exact hposted'

end LogSearch.Ingestion
