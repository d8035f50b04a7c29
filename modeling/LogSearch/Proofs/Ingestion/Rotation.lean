import LogSearch.Proofs.Ingestion.Delivery
import LogSearch.Proofs.Ingestion.Growing

/-!
# Rotations

A file that has become shorter than the offset reached in it is a new file, and it is to be read
from its beginning.  That it is a new file is not kept anywhere: every reading compares the size
with the offset again, and the offset stays what it was until a reading has come to the end of the
file.  So if the reading that has found the file shorter breaks off, and the file grows beyond the
old offset before the next one, then the next one goes on at the old offset, and what the new file
holds before it is never read (`rotation_forgotten`).

This is the only way in which it happens.  An `Attempt` is one reading of the file at a path in a
pass, and `Collector.attemptsAt` are the attempts of all rounds.  `rotation_until_outgrown` says of
any run, with whatever outcomes, failures and other files, that all attempts up to the first one
that comes to the end of the file find the old offset, and that this one reads the file from its
beginning if it is still shorter than that.
-/

namespace LogSearch.Ingestion

/-! ## Whatever the outcomes -/

/-- The collector `c'` is `c` with documents put into the outbox, and some of what waits posted. -/
structure Moved (documents : List Document) (c c' : Collector ScriptedSink) : Prop where
  files : c'.files = c.files
  offsets : c'.offsets = c.offsets
  rotations : c'.rotations = c.rotations
  linesRead : c'.linesRead = c.linesRead
  documents : c'.posted ++ c'.outbox.pending = c.posted ++ c.outbox.pending ++ documents

lemma Moved.refl (c : Collector ScriptedSink) : Moved [] c c :=
  ⟨rfl, rfl, rfl, rfl, (List.append_nil _).symm⟩

lemma Moved.trans {first second : List Document} {c c₁ c₂ : Collector ScriptedSink}
    (h : Moved first c c₁) (h' : Moved second c₁ c₂) : Moved (first ++ second) c c₂ where
  files := h'.files.trans h.files
  offsets := h'.offsets.trans h.offsets
  rotations := h'.rotations.trans h.rotations
  linesRead := h'.linesRead.trans h.linesRead
  documents := by rw [h'.documents, h.documents, List.append_assoc]

namespace Collector

variable {site : Site} {c : Collector ScriptedSink} {f : OpenFile}

/-- Sending posts what waits.  The reading fails if the outcome cannot be booked, and goes on
otherwise. -/
lemma exists_moved_send (c : Collector ScriptedSink) (f : OpenFile) (atEnd : Bool)
    (next : Collector (Prompt ScriptedSink) → Collector (Prompt ScriptedSink) × FileResult) :
    ∃ c₁, Moved [] c c₁ ∧ c₁.outbox.pending = [] ∧
      ((∃ fault, c.prompt.send f atEnd next = (c₁.prompt, .failed fault)) ∨
        c.prompt.send f atEnd next = next c₁.prompt) := by
  have hsink : (c.dispatch.2.2.settle c.dispatch.1.length c.dispatch.2.1.outcome).1.sink =
      (Sink.bulk c.sink c.outbox.index c.outbox.pending).2 := rfl
  have hempty : (c.dispatch.2.2.settle c.dispatch.1.length
      c.dispatch.2.1.outcome).1.outbox.pending = [] := Outbox.settle_pending
  refine ⟨(c.dispatch.2.2.settle c.dispatch.1.length c.dispatch.2.1.outcome).1,
    ⟨rfl, rfl, rfl, rfl, ?_⟩, hempty, ?_⟩
  · rw [hempty, posted, hsink, ScriptedSink.batches_bulk, posted]
    simp
  · rw [prompt_send]
    rcases c.dispatch.2.2.settle c.dispatch.1.length c.dispatch.2.1.outcome with ⟨c₁, fault | n⟩
    · exact .inl ⟨.send fault, rfl⟩
    · exact .inr rfl

/-- A line is taken in, unless it begins with a timestamp that is out of range. -/
lemma exists_moved_accept (site : Site) (c : Collector ScriptedSink) (source : Text)
    (line : Bytes) :
    (∃ fault, c.accept site source line = (c, .error fault)) ∨
      ∃ c₁, Moved (site.document? source line).toList c c₁ ∧
        c.accept site source line = (c₁, .ok (site.document? source line)) := by
  cases hread : Line.document? site.zone site.now source (lineText line) with
  | error fault =>
    refine .inl ⟨fault, ?_⟩
    rw [accept, hread]
  | ok d =>
    obtain ⟨c₁, hsent, hpending, haccept⟩ := exists_sent_accept (c := c) ⟨d, hread⟩
    refine .inr ⟨c₁, ⟨hsent.files, hsent.offsets, hsent.rotations, hsent.linesRead, ?_⟩, haccept⟩
    rw [posted, hsent.batches, List.append_nil, hpending, posted, List.append_assoc]

/-- Lines become documents.  The reading fails somewhere, or it takes in all lines, posts what waits
and is complete. -/
lemma exists_moved_readLines (site : Site) (c : Collector ScriptedSink) (f : OpenFile)
    (lines : List Bytes) :
    ∃ documents c₁, Moved documents c c₁ ∧
      ((∃ fault, c.prompt.readLines site f lines = (c₁.prompt, .failed fault)) ∨
        documents = site.documents f.path lines ∧ c₁.outbox.pending = [] ∧
          c.prompt.readLines site f lines =
            Prod.map prompt id (c₁.complete (lines.foldl OpenFile.takeLine f))) := by
  induction lines generalizing c f with
  | nil =>
    rw [readLines_nil]
    split
    next => exact ⟨[], c, .refl c, .inl ⟨_, rfl⟩⟩
    next =>
      rw [finishFile_eq, prompt_outbox]
      split
      next hnil => exact ⟨[], c, .refl c, .inr ⟨rfl, hnil, rfl⟩⟩
      next =>
        obtain ⟨c₁, hmoved, hempty, hfailed | hdone⟩ := exists_moved_send c f true (·.complete f)
        · exact ⟨[], c₁, hmoved, .inl hfailed⟩
        · exact ⟨[], c₁, hmoved, .inr ⟨rfl, hempty, hdone⟩⟩
  | cons line rest ih =>
    rw [readLines_cons]
    split
    next => exact ⟨[], c, .refl c, .inl ⟨_, rfl⟩⟩
    next =>
      have hpath : (f.takeLine line).path = f.path := rfl
      rw [prompt_accept]
      rcases exists_moved_accept site c f.path line with ⟨fault, haccept⟩ | ⟨c₁, hmoved, haccept⟩
      · rw [haccept]
        exact ⟨[], c, .refl c, .inl ⟨_, rfl⟩⟩
      · rw [haccept, Site.documents, List.filterMap_cons]
        cases hd : site.document? f.path line with
        | none =>
          rw [hd] at hmoved
          obtain ⟨documents, c₂, hmoved₂, hlines⟩ := ih c₁ (f.takeLine line)
          exact ⟨documents, c₂, hmoved.trans hmoved₂, hlines⟩
        | some d =>
          rw [hd] at hmoved
          dsimp only
          split
          next =>
            -- the outbox is full: what waits is sent before the rest is read
            obtain ⟨c₂, hmoved₂, -, ⟨fault, hfailed⟩ | hsend⟩ := exists_moved_send c₁
              (f.takeLine line) false fun c => c.readLines site (f.takeLine line) rest
            · exact ⟨_, c₂, hmoved.trans hmoved₂, .inl ⟨fault, hfailed⟩⟩
            · obtain ⟨documents, c₃, hmoved₃, hlines⟩ := ih c₂ (f.takeLine line)
              rw [← hsend] at hlines
              refine ⟨_, c₃, (hmoved.trans hmoved₂).trans hmoved₃, hlines.imp_right ?_⟩
              rintro ⟨rfl, hdone⟩
              exact ⟨rfl, hdone⟩
          next =>
            obtain ⟨documents, c₂, hmoved₂, hlines⟩ := ih c₁ (f.takeLine line)
            refine ⟨_, c₂, hmoved.trans hmoved₂, hlines.imp_right ?_⟩
            rintro ⟨rfl, hdone⟩
            exact ⟨rfl, hdone⟩

/-- The collector with a rotation counted, if a file of the size is shorter than the offset. -/
def rotated (c : Collector ScriptedSink) (path : Text) (size : Nat) : Collector ScriptedSink :=
  { c with rotations := c.rotations + if (size : Int) < c.offset path then 1 else 0 }

lemma rotated_of_le {path : Text} {size : Nat} (h : c.offset path ≤ size) :
    c.rotated path size = c := by
  rw [rotated, if_neg (by omega)]
  rfl

lemma awaited_tail_of_readFile {path : Text} {number : Nat}
    {r : Collector ScriptedSink × FileResult} (hnul : Char.ofNat 0 ∉ path)
    (hfind : c.files.find path = .file number)
    (h : c.prompt.readFile site path number = Prod.map prompt id r) :
    awaited site (c.tail site path) = r := by
  refine eq_of_prompt_eq ((prompt_awaited_tail site c path).trans ?_)
  rw [tail, if_neg hnul, prompt_files, hfind]
  exact h

/-- A file is read from the place at which the reading begins.  The reading fails somewhere, or it
comes to the end of the file, with all documents posted and the offset moved. -/
lemma exists_moved_awaited_tail (site : Site) {path : Text} {number start : Nat}
    (hnul : Char.ofNat 0 ∉ path) (hfind : c.files.find path = .file number)
    (hstart : Reading.start? (c.files.content number).length (c.offset path) = some start) :
    ∃ documents c₁,
      Moved documents (c.rotated path (c.files.content number).length) c₁ ∧
        ((∃ fault, awaited site (c.tail site path) = (c₁, .failed fault)) ∨
          let lines := splitLines ((c.files.content number).drop start)
          documents = site.documents path lines ∧ c₁.outbox.pending = [] ∧
            awaited site (c.tail site path) =
              ({ c₁.setOffset path (c.files.content number).length with
                  linesRead := c₁.linesRead + lines.length }, .finished lines.length)) := by
  obtain ⟨hle, journal, hread⟩ := exists_readFile_eq site c.prompt hstart
  rw [prompt_files] at hle
  let c₀ : Collector ScriptedSink :=
    { c.rotated path (c.files.content number).length with journal := journal }
  have hmoved₀ : Moved [] (c.rotated path (c.files.content number).length) c₀ :=
    ⟨rfl, rfl, rfl, rfl, (List.append_nil _).symm⟩
  obtain ⟨documents, c₁, hmoved, hlines⟩ := exists_moved_readLines site c₀
    (.start path number start (c.files.failsAfter? path))
    (splitLines ((c.files.content number).drop start))
  refine ⟨documents, c₁, hmoved₀.trans hmoved, ?_⟩
  rcases hlines with ⟨fault, hfailed⟩ | ⟨hdocuments, hempty, hdone⟩
  · exact .inl ⟨fault, awaited_tail_of_readFile hnul hfind (hread.trans hfailed)⟩
  · rw [complete_start hle] at hdone
    exact .inr ⟨hdocuments, hempty, awaited_tail_of_readFile hnul hfind (hread.trans hdone)⟩

end Collector

/-! ## Attempts -/

/-- A reading of the file at a path in a pass, with every outcome waited for; `before` is the
collector as it comes to the path. -/
structure Attempt where
  site : Site
  path : Text
  before : Collector ScriptedSink

namespace Attempt

variable {a : Attempt} {content : Bytes} {start number : Nat}

/-- The collector after the attempt, and what has become of it. -/
def outcome (a : Attempt) : Collector ScriptedSink × FileResult :=
  Collector.awaited a.site (a.before.tail a.site a.path)

/-- The collector after the attempt. -/
def after (a : Attempt) : Collector ScriptedSink := a.outcome.1

/-- The collector with which the pass goes on to its next path, if it does. -/
def next? (a : Attempt) : Option (Collector ScriptedSink) :=
  match a.outcome.2 with
  | .finished _ => some a.after
  | .failed (.read _) =>
    some (a.after.report .error ("Failed to ingest logs from " ++ a.path)).discard
  | _ => none

/-- A rotation is counted. -/
def CountsRotation (a : Attempt) : Prop := a.before.rotations < a.after.rotations

/-- The attempt comes to the end of the file, which holds the content. -/
structure ReadsToEnd (a : Attempt) (content : Bytes) : Prop where
  found : ∃ number, a.before.files.find a.path = .file number ∧
    a.before.files.content number = content
  finished : ∃ lines, a.outcome.2 = .finished lines

/-- The bytes from a place on to the end of the file have been read: their lines are counted, the
documents of the lines are posted behind all that waited, and the offset is the size of the file. -/
structure Took (a : Attempt) (content : Bytes) (start : Nat) : Prop where
  offset : a.after.offset a.path = content.length
  linesRead : a.after.linesRead = a.before.linesRead + (splitLines (content.drop start)).length
  posted : a.after.posted = a.before.posted ++ a.before.outbox.pending ++
    a.site.documents a.path (splitLines (content.drop start))
  pending : a.after.outbox.pending = []

lemma unread (h : Char.ofNat 0 ∈ a.path ∨ ∀ number, a.before.files.find a.path = .file number →
      Reading.start? (a.before.files.content number).length (a.before.offset a.path) = none) :
    a.after.offsets = a.before.offsets ∧ a.after.rotations = a.before.rotations ∧
      ∀ content, ¬ a.ReadsToEnd content := by
  have hconclude : ∀ {c r}, a.outcome = (c, r) → c.offsets = a.before.offsets →
      c.rotations = a.before.rotations →
      ((∀ number, a.before.files.find a.path ≠ .file number) ∨ ∀ lines, r ≠ .finished lines) →
      a.after.offsets = a.before.offsets ∧ a.after.rotations = a.before.rotations ∧
        ∀ content, ¬ a.ReadsToEnd content := by
    rintro c r houtcome hoffsets hrotations hend
    refine ⟨by rw [after, houtcome, hoffsets], by rw [after, houtcome, hrotations], ?_⟩
    rintro content ⟨⟨number, hfind, -⟩, lines, hlines⟩
    rw [houtcome] at hlines
    exact hend.elim (fun hplace => hplace number hfind) fun hresult => hresult lines hlines
  by_cases hnul : Char.ofNat 0 ∈ a.path
  · have houtcome : a.outcome = (a.before, .failed .nulInPath) := by
      rw [outcome, Collector.tail, if_pos hnul, Collector.awaited_failed]
    exact hconclude houtcome rfl rfl (.inr (by simp))
  · cases hfind : a.before.files.find a.path with
    | vacant place =>
      have houtcome : a.outcome = (a.before, .finished 0) := by
        rw [outcome, Collector.tail, if_neg hnul, hfind, Collector.awaited_finished]
      exact hconclude houtcome rfl rfl (.inl (by simp [hfind]))
    | missing =>
      have houtcome : a.outcome = (a.before, .finished 0) := by
        rw [outcome, Collector.tail, if_neg hnul, hfind, Collector.awaited_finished]
      exact hconclude houtcome rfl rfl (.inl (by simp [hfind]))
    | unreachable fault =>
      have houtcome : a.outcome = (a.before, .failed (.read fault)) := by
        rw [outcome, Collector.tail, if_neg hnul, hfind, Collector.awaited_failed]
      exact hconclude houtcome rfl rfl (.inl (by simp [hfind]))
    | directory place =>
      have houtcome : a.outcome = (a.before.report .warning
          ("Configured log path is not a file: " ++ a.path), .finished 0) := by
        rw [outcome, Collector.tail, if_neg hnul, hfind, Collector.awaited_finished]
      exact hconclude houtcome rfl rfl (.inl (by simp [hfind]))
    | file number =>
      have hnegative := Reading.negative_of_start?_eq_none (h.resolve_left hnul number hfind)
      have houtcome : a.outcome = (a.before, .failed (.read .refused)) := by
        rw [outcome, Collector.tail, if_neg hnul, hfind]
        simp only
        rw [Collector.readFile_of_negative _ _ _ hnegative, Collector.awaited_failed]
      exact hconclude houtcome rfl rfl (.inr (by simp))

/-- A rotation is counted where the file is shorter than the offset, and only there. -/
lemma CountsRotation.exists_shorter (h : a.CountsRotation) :
    ∃ number, a.before.files.find a.path = .file number ∧
      ((a.before.files.content number).length : Int) < a.before.offset a.path := by
  by_contra hnone
  push Not at hnone
  have hsame : a.after.rotations = a.before.rotations := by
    by_cases hread : Char.ofNat 0 ∈ a.path ∨ ∀ number, a.before.files.find a.path = .file number →
        Reading.start? (a.before.files.content number).length (a.before.offset a.path) = none
    · exact (unread hread).2.1
    · push Not at hread
      obtain ⟨hnul, number, hfind, hstart⟩ := hread
      obtain ⟨start, hstart⟩ := Option.ne_none_iff_exists'.1 hstart
      obtain ⟨documents, c₁, hmoved, ⟨fault, hfailed⟩ | ⟨-, -, hdone⟩⟩ :=
        Collector.exists_moved_awaited_tail a.site hnul hfind hstart
      all_goals rw [Collector.rotated_of_le (hnone number hfind)] at hmoved
      · rw [after, outcome, hfailed, hmoved.rotations]
      · rw [after, outcome, hdone, ← hmoved.rotations]
        rfl
  exact absurd h (by rw [CountsRotation, hsame]; exact Nat.lt_irrefl _)

/-- The step: an attempt leaves the offsets as they are, or it comes to the end of the file and
moves the offset of this file. -/
lemma offsets_eq_or_took (a : Attempt) :
    (a.after.offsets = a.before.offsets ∧ ∀ content, ¬ a.ReadsToEnd content) ∨
      ∃ content start,
        Reading.start? content.length (a.before.offset a.path) = some start ∧
          a.ReadsToEnd content ∧ a.Took content start ∧
          ∀ other, other ≠ a.path → a.after.offset other = a.before.offset other := by
  by_cases hread : Char.ofNat 0 ∈ a.path ∨ ∀ number, a.before.files.find a.path = .file number →
      Reading.start? (a.before.files.content number).length (a.before.offset a.path) = none
  · obtain ⟨hoffsets, -, hend⟩ := unread hread
    exact .inl ⟨hoffsets, hend⟩
  · push Not at hread
    obtain ⟨hnul, number, hfind, hstart⟩ := hread
    obtain ⟨start, hstart⟩ := Option.ne_none_iff_exists'.1 hstart
    obtain ⟨documents, c₁, hmoved, ⟨fault, hfailed⟩ | ⟨rfl, hempty, hdone⟩⟩ :=
      Collector.exists_moved_awaited_tail a.site hnul hfind hstart
    · refine .inl ⟨?_, fun content hend => ?_⟩
      · rw [after, outcome, hfailed, hmoved.offsets]
        rfl
      · obtain ⟨lines, hlines⟩ := hend.finished
        rw [outcome, hfailed] at hlines
        cases hlines
    · refine .inr ⟨_, start, hstart, ⟨⟨number, hfind, rfl⟩, ?_⟩, ⟨?_, ?_, ?_, ?_⟩,
        fun other hne => ?_⟩
      · exact ⟨_, congrArg Prod.snd hdone⟩
      · rw [after, outcome, hdone]
        exact (Collector.offset_setOffset _ _ _ _).trans (if_pos rfl)
      · rw [after, outcome, hdone, hmoved.linesRead]
        rfl
      · have hdocuments := hmoved.documents
        rw [hempty, List.append_nil] at hdocuments
        rw [after, outcome, hdone]
        exact hdocuments
      · rw [after, outcome, hdone]
        exact hempty
      · have hoffset := Collector.offset_setOffset c₁ a.path other
          (a.before.files.content number).length
        have hsame : c₁.offset other = a.before.offset other := by
          rw [Collector.offset, hmoved.offsets]
          rfl
        rw [if_neg hne, hsame] at hoffset
        rw [after, outcome, hdone]
        exact hoffset

end Attempt

/-! ## All attempts -/

namespace Collector

/-- The attempts of a pass over the files at the paths. -/
def attempts (site : Site) (c : Collector ScriptedSink) : List Text → List Attempt
  | [] => []
  | configured :: paths =>
    let a : Attempt := ⟨site, site.key configured, c⟩
    a :: match a.next? with
      | some c' => c'.attempts site paths
      | none => []

/-- The attempts of rounds, one after the other. -/
def allAttempts (c : Collector ScriptedSink) : List Round → List Attempt
  | [] => []
  | r :: later => (c.among r.files).attempts r.site r.paths ++ (c.makeRound r).1.allAttempts later

/-- The attempts to read the file at a path in rounds. -/
def attemptsAt (c : Collector ScriptedSink) (path : Text) (rounds : List Round) : List Attempt :=
  (c.allAttempts rounds).filter (·.path = path)

end Collector

/-- The offset of a path is carried from each attempt to the next. -/
def Carried (path : Text) (offset : Int) : List Attempt → Int → Prop
  | [], last => last = offset
  | a :: later, last =>
    a.before.offset path = offset ∧ Carried path (a.after.offset path) later last

namespace Carried

variable {path : Text} {offset middle last : Int} {first second : List Attempt}

lemma append (h : Carried path offset first middle) (h' : Carried path middle second last) :
    Carried path offset (first ++ second) last := by
  induction first generalizing offset with
  | nil =>
    obtain rfl : middle = offset := h
    exact h'
  | cons a rest ih => exact ⟨h.1, ih h.2⟩

lemma exists_of_append (h : Carried path offset (first ++ second) last) :
    ∃ middle, Carried path offset first middle ∧ Carried path middle second last := by
  induction first generalizing offset with
  | nil => exact ⟨offset, rfl, h⟩
  | cons a rest ih =>
    obtain ⟨middle, hfirst, hsecond⟩ := ih h.2
    exact ⟨middle, ⟨h.1, hfirst⟩, hsecond⟩

lemma filter (h : Carried path offset first last) :
    Carried path offset (first.filter (·.path = path)) last := by
  induction first generalizing offset with
  | nil => exact h
  | cons a rest ih =>
    obtain ⟨hbefore, hrest⟩ := h
    by_cases hpath : a.path = path
    · rw [List.filter_cons_of_pos (by simpa using hpath)]
      exact ⟨hbefore, ih hrest⟩
    · rw [List.filter_cons_of_neg (by simpa using hpath)]
      have hsame : a.after.offset path = offset := by
        rw [← hbefore]
        rcases a.offsets_eq_or_took with ⟨hoffsets, -⟩ | ⟨-, -, -, -, -, hother⟩
        · rw [Collector.offset, hoffsets]
          rfl
        · exact hother path (Ne.symm hpath)
      rw [hsame] at hrest
      exact ih hrest

/-- Attempts that do not come to the end of the file leave the offset as it is. -/
lemma eq_of_unfinished (h : Carried path offset first last)
    (hfirst : ∀ a ∈ first, ∀ content, ¬ a.ReadsToEnd content) :
    last = offset ∧ ∀ a ∈ first, a.before.offset path = offset ∧ a.after.offset path = offset := by
  induction first generalizing offset with
  | nil => exact ⟨h, List.forall_mem_nil _⟩
  | cons a rest ih =>
    obtain ⟨hbefore, hrest⟩ := h
    rw [List.forall_mem_cons] at hfirst
    have hsame : a.after.offset path = offset := by
      rcases a.offsets_eq_or_took with ⟨hoffsets, -⟩ | ⟨content, -, -, hend, -⟩
      · rw [Collector.offset, hoffsets]
        exact hbefore
      · exact absurd hend (hfirst.1 content)
    rw [hsame] at hrest
    obtain ⟨hlast, hall⟩ := ih hrest hfirst.2
    exact ⟨hlast, List.forall_mem_cons.2 ⟨⟨hbefore, hsame⟩, hall⟩⟩

end Carried

namespace Collector

lemma carried_attempts (path : Text) (site : Site) (c : Collector ScriptedSink)
    (paths : List Text) :
    Carried path (c.offset path) (c.attempts site paths)
      ((awaitedPass site (c.pass site paths)).1.offset path) := by
  induction paths generalizing c with
  | nil =>
    rw [awaitedPass_pass_nil]
    rfl
  | cons configured paths ih =>
    rw [awaitedPass_pass_cons, attempts]
    refine ⟨rfl, ?_⟩
    have houtcome : (Attempt.mk site (site.key configured) c).outcome =
        awaited site (c.tail site (Path.normalize site.cwd site.home configured)) := rfl
    rw [Attempt.next?, Attempt.after, houtcome]
    rcases awaited site (c.tail site (Path.normalize site.cwd site.home configured)) with
      ⟨c₁, lines | fault | s⟩
    · exact ih c₁
    · cases fault with
      | read fault => exact ih (c₁.report .error _).discard
      | nulInPath => rfl
      | range fault => rfl
      | send fault => rfl
    · rfl

/-- The run: the offset is carried through all rounds. -/
lemma carried_allAttempts (path : Text) (c : Collector ScriptedSink) (rounds : List Round) :
    Carried path (c.offset path) (c.allAttempts rounds) ((c.makeRounds rounds).offset path) := by
  induction rounds generalizing c with
  | nil => rfl
  | cons r later ih => exact (carried_attempts path r.site (c.among r.files) r.paths).append (ih _)

end Collector

namespace Collector

variable {site : Site} {c : Collector ScriptedSink} {files : Files} {configured : Text}

lemma attempts_singleton (site : Site) (c : Collector ScriptedSink) (configured : Text) :
    c.attempts site [configured] = [⟨site, site.key configured, c⟩] := by
  rw [attempts]
  cases Attempt.next? ⟨site, site.key configured, c⟩ <;> rfl

/-- A round over one file goes on after what a prompt sink comes to there. -/
lemma makeRound_of_readFile {path : Text} {number : Nat} {r : Collector ScriptedSink × FileResult}
    (hkey : site.key configured = path) (hnul : Char.ofNat 0 ∉ path)
    (hfind : files.find path = .file number)
    (h : (c.among files).prompt.readFile site path number = Prod.map prompt id r) :
    c.makeRound ⟨files, site, [configured]⟩ = proceed path [] (fun c => (c, .finished)) r := by
  have hnext : (fun c : Collector ScriptedSink => awaitedPass site (c.pass site [])) =
      fun c => (c, .finished) := funext fun c => awaitedPass_pass_nil site c
  rw [Site.key] at hkey
  rw [makeRound, awaitedPass_pass_cons, hnext, hkey]
  exact congrArg _ (awaited_tail_of_readFile hnul hfind h)

end Collector

/-! ## A rotation -/

lemma Attempt.took_of_readsToEnd {a : Attempt} {content : Bytes} (h : a.ReadsToEnd content) :
    ∃ start, Reading.start? content.length (a.before.offset a.path) = some start ∧
      a.Took content start := by
  rcases a.offsets_eq_or_took with ⟨-, hend⟩ | ⟨content', start, hstart, hend, htook, -⟩
  · exact absurd h (hend content)
  · obtain ⟨number, hfind, rfl⟩ := h.found
    obtain ⟨number', hfind', rfl⟩ := hend.found
    rw [hfind, Place.file.injEq] at hfind'
    subst hfind'
    exact ⟨start, hstart, htook⟩

/-- **A rotation is seen until the file has outgrown the old offset.**  Take the attempts to read
the file at a path in any rounds, and of these any that follow each other, up to one that comes to
the end of the file as the first of them.  If a rotation is counted by one of them, the file was
shorter then than the offset that is stored, and

* all attempts before the last one leave this offset as it is;
* the last one has read the whole file from its beginning, if the file is still shorter than the
  offset;
* otherwise it has read the file from the offset on, and nothing before it. -/
theorem rotation_until_outgrown {c : Collector ScriptedSink} {rounds : List Round} {path : Text}
    {earlier tries later : List Attempt} {seen whole : Attempt} {content : Bytes}
    (hattempts : c.attemptsAt path rounds = earlier ++ (tries ++ whole :: later))
    (hseen : seen ∈ tries ++ [whole]) (hrotation : seen.CountsRotation)
    (htries : ∀ a ∈ tries, ∀ content, ¬ a.ReadsToEnd content)
    (hwhole : whole.ReadsToEnd content) :
    let stored := seen.before.offset path
    (∃ number, seen.before.files.find path = .file number ∧
        ((seen.before.files.content number).length : Int) < stored) ∧
      (∀ a ∈ tries, a.after.offset path = stored) ∧
      ((content.length : Int) < stored → whole.Took content 0) ∧
      (stored ≤ content.length → whole.Took content stored.toNat) := by
  intro stored
  have hpath : ∀ a ∈ tries ++ whole :: later, a.path = path := by
    intro a ha
    have hmem : a ∈ c.attemptsAt path rounds := by
      rw [hattempts]
      exact List.mem_append_right _ ha
    simpa using List.of_mem_filter hmem
  have hcarried := (c.carried_allAttempts path rounds).filter
  have hall : (c.allAttempts rounds).filter (·.path = path) = c.attemptsAt path rounds := rfl
  rw [hall, hattempts] at hcarried
  obtain ⟨offset, -, hrest⟩ := hcarried.exists_of_append
  obtain ⟨middle, htried, hbefore, -⟩ := hrest.exists_of_append
  obtain ⟨rfl, hoffsets⟩ := htried.eq_of_unfinished htries
  -- the offset is the same before each of these attempts
  have hstored : stored = middle := by
    rcases List.mem_append.1 hseen with hmem | hmem
    · exact (hoffsets seen hmem).1
    · obtain rfl := List.mem_singleton.1 hmem
      exact hbefore
  have hseenPath : seen.path = path := by
    refine hpath seen ?_
    rw [List.append_cons]
    exact List.mem_append_left _ hseen
  obtain ⟨number, hfind, hshorter⟩ := hrotation.exists_shorter
  rw [hseenPath] at hfind hshorter
  obtain ⟨start, hstart, htook⟩ := Attempt.took_of_readsToEnd hwhole
  have hwholePath : whole.path = path :=
    hpath whole (List.mem_append_right _ List.mem_cons_self)
  rw [hwholePath, hbefore, ← hstored, Reading.start?] at hstart
  refine ⟨⟨number, hfind, hshorter⟩, fun a ha => (hoffsets a ha).2.trans hstored.symm,
    fun hstill => ?_, fun houtgrown => ?_⟩
  · rw [if_pos hstill] at hstart
    exact Option.some.inj hstart ▸ htook
  · have hpositive : 0 ≤ stored := by
      have hlength := Int.natCast_nonneg (seen.before.files.content number).length
      exact Int.le_of_lt (Int.lt_of_le_of_lt hlength hshorter)
    rw [if_neg (Int.not_lt.2 houtgrown), if_neg (Int.not_lt.2 hpositive)] at hstart
    exact Option.some.inj hstart ▸ htook

/-- The reading that counts the rotation breaks off, and the next one finds the file grown, but
still shorter than the old offset. -/
theorem rotation_until_outgrown_of_short_file :
    let site : Site := ⟨⟨0⟩, "/", "/", ⟨0, by decide⟩⟩
    let showing : Bytes → List (Text × Nat) → Files := fun content failing =>
      ⟨[([['a']], .file 0)], [(0, content)], failing⟩
    let broken : Round := ⟨showing [98, 10] [("/a", 0)], site, ["/a"]⟩
    let grown : Round := ⟨showing [98, 10, 99] [], site, ["/a"]⟩
    let c : Collector ScriptedSink :=
      ⟨showing [] [], ⟨"logs", 2, [], 1, 0, 1, 0⟩, ⟨[], [], []⟩, [(['/', 'a'], 4)], ⟨1, 0⟩, 1, 0,
        []⟩
    let tried : Attempt := ⟨site, "/a", c.among broken.files⟩
    let whole : Attempt := ⟨site, "/a", (c.makeRound broken).1.among grown.files⟩
    c.attemptsAt "/a" [broken, grown] = [tried, whole] ∧ tried.CountsRotation ∧
      whole.ReadsToEnd [98, 10, 99] ∧ whole.Took [98, 10, 99] 0 := by
  intro site showing broken grown c tried whole
  have hkey : site.key "/a" = "/a" := by decide +kernel
  have hfind : ∀ content failing, (showing content failing).find "/a" = .file 0 :=
    fun content failing => Files.find_eq_file ['a'] rfl (by decide) (by decide) (by decide)
  have hattempts : c.attemptsAt "/a" [broken, grown] = [tried, whole] := by
    rw [Collector.attemptsAt, Collector.allAttempts, Collector.allAttempts, Collector.allAttempts,
      Collector.attempts_singleton, Collector.attempts_singleton, hkey]
    rfl
  -- the collector where the first reading breaks off
  let broke : Collector ScriptedSink :=
    { (c.among broken.files).report .info (Collector.rotationMessage "/a" 2 4) with rotations := 1 }
  have htried : tried.outcome = (broke, .failed (.read .refused)) :=
    Collector.awaited_tail_of_readFile (by decide) (hfind _ _) rfl
  let done : Collector ScriptedSink := (broke.report .error "Failed to ingest logs from /a").discard
  have hround : c.makeRound broken = (done, .finished) :=
    Collector.makeRound_of_readFile (r := (broke, .failed (.read .refused))) hkey (by decide)
      (hfind _ _) rfl
  let batch : List Document :=
    [⟨⟨0, by decide⟩, none, "b", "b", "/a"⟩, ⟨⟨0, by decide⟩, none, "c", "c", "/a"⟩]
  let ended : Collector ScriptedSink :=
    { (done.among grown.files).report .info (Collector.rotationMessage "/a" 3 4) with
      outbox := ⟨"logs", 2, [], 3, 0, 2, 0⟩
      sink := ⟨[], [batch], [Bulk.body "logs" batch]⟩
      offsets := [(['/', 'a'], 3)], counts := ⟨3, 0⟩, linesRead := 3, rotations := 2 }
  have hwhole : whole.outcome = (ended, .finished 2) := by
    have hsame : whole = ⟨site, "/a", done.among grown.files⟩ := by simp only [whole, hround]
    rw [hsame]
    exact Collector.awaited_tail_of_readFile (by decide) (hfind _ _) rfl
  have hrotation : tried.CountsRotation := by
    rw [Attempt.CountsRotation, Attempt.after, htried]
    exact Nat.one_pos
  have hbroke : ∀ content, ¬ tried.ReadsToEnd content := by
    rintro content ⟨-, lines, hlines⟩
    rw [htried] at hlines
    cases hlines
  have hend : whole.ReadsToEnd [98, 10, 99] := ⟨⟨0, hfind _ _, rfl⟩, 2, by rw [hwhole]⟩
  have hboth : c.attemptsAt "/a" [broken, grown] = [] ++ ([tried] ++ whole :: []) := hattempts
  obtain ⟨-, -, hshort, -⟩ := rotation_until_outgrown hboth List.mem_cons_self hrotation
    (List.forall_mem_singleton.2 hbroke) hend
  exact ⟨hattempts, hrotation, hend, hshort (by decide)⟩

/-- The file is replaced by a shorter one, the reading that counts the rotation breaks off, and the
file outgrows the old offset: the lines before it are never read. -/
theorem rotation_forgotten :
    let site : Site := ⟨⟨0⟩, "/", "/", ⟨0, by decide⟩⟩
    let showing : Bytes → List (Text × Nat) → Files := fun content failing =>
      ⟨[([['a']], .file 0)], [(0, content)], failing⟩
    let old : Round := ⟨showing [97, 97, 97, 10] [], site, ["/a"]⟩
    let broken : Round := ⟨showing [98, 10] [("/a", 0)], site, ["/a"]⟩
    let grown : Round := ⟨showing [98, 10, 99, 10, 100, 10] [], site, ["/a"]⟩
    let fresh : Collector ScriptedSink :=
      .new (showing [] []) ⟨"logs", 2, [], 0, 0, 0, 0⟩ ⟨[], [], []⟩
    let document : Text → Document := fun line => ⟨⟨0, by decide⟩, none, line, line, "/a"⟩
    let before := fresh.makeRounds [old, broken]
    before.rotations = 1 ∧ before.offset "/a" = 4 ∧ before.posted = [document "aaa"] ∧
      (before.makeRound grown).2 = .finished ∧ (before.makeRound grown).1.offset "/a" = 6 ∧
      site.documents "/a" (splitLines [98, 10, 99, 10, 100, 10]) =
        [document "b", document "c", document "d"] ∧
      (before.makeRound grown).1.posted = [document "aaa", document "d"] := by
  intro site showing old broken grown fresh document before
  have hkey : site.key "/a" = "/a" := by decide +kernel
  have hfind : ∀ content failing, (showing content failing).find "/a" = .file 0 :=
    fun content failing => Files.find_eq_file ['a'] rfl (by decide) (by decide) (by decide)
  let read : Collector ScriptedSink := ⟨old.files, ⟨"logs", 2, [], 1, 0, 1, 0⟩,
    ⟨[], [[document "aaa"]], [Bulk.body "logs" [document "aaa"]]⟩,
    [(['/', 'a'], 4)], ⟨1, 0⟩, 1, 0, []⟩
  let broke : Collector ScriptedSink :=
    { (read.among broken.files).report .info (Collector.rotationMessage "/a" 2 4) with
      rotations := 1 }
  let done : Collector ScriptedSink := (broke.report .error "Failed to ingest logs from /a").discard
  let ended : Collector ScriptedSink := ⟨grown.files, ⟨"logs", 2, [], 2, 0, 2, 0⟩,
    ⟨[], [[document "aaa"], [document "d"]],
      [Bulk.body "logs" [document "aaa"], Bulk.body "logs" [document "d"]]⟩,
    [(['/', 'a'], 6)], ⟨2, 0⟩, 2, 1, done.journal⟩
  have hold : fresh.makeRound old = (read, .finished) :=
    Collector.makeRound_of_readFile (r := (read, .finished 1)) hkey (by decide) (hfind _ _) rfl
  have hbroken : read.makeRound broken = (done, .finished) :=
    Collector.makeRound_of_readFile (r := (broke, .failed (.read .refused))) hkey (by decide)
      (hfind _ _) rfl
  have hgrown : done.makeRound grown = (ended, .finished) :=
    Collector.makeRound_of_readFile (r := (ended, .finished 1)) hkey (by decide) (hfind _ _) rfl
  have hbefore : before = done := by
    simp only [before, Collector.makeRounds, List.foldl_cons, List.foldl_nil, hold, hbroken]
  rw [hbefore, hgrown]
  exact ⟨rfl, rfl, rfl, rfl, rfl, rfl, rfl⟩

end LogSearch.Ingestion
