import LogSearch.Proofs.Ingestion.OnePass
import Mathlib

/-!
# A file that grows

A file is appended to, and after each time a collector reads what has been added.  A `Visit` is one
such time: the bytes that were appended since the last visit, the files as they are then, and the
site.  Of the files nothing is asked but that the path shows a file with all the bytes appended so
far (`Grows`); anything else in them may change from visit to visit.

The state between two visits is described by `CaughtUp`: the offset is the number of bytes
appended so far, and nothing waits in the outbox.  A visit keeps this up
(`CaughtUp.visit`), and so does any number of them (`CaughtUp.follow`).

`follow_growing` has two parts.  First, each visit reads exactly the bytes appended before it: it
begins at the offset where the one before ended, ends at the size of the file, and posts the
documents of the lines of these bytes.  The visits therefore cover the file without a gap and
without reading anything twice, wherever the cuts are, and be it within a line or a character.
Second, if every cut is right after a line feed, the documents that all visits post together are
those that one visit to the whole file posts, with whatever capacities the two outboxes have.
-/

namespace LogSearch.Ingestion

/-! ## Visits -/

/-- A time at which a file is read: what has been appended to it since the last time, the files as
they are, and the site. -/
structure Visit where
  appended : Bytes
  files : Files
  site : Site

/-- The bytes appended up to the last of the visits. -/
def Visit.total (visits : List Visit) : Bytes := visits.flatMap Visit.appended

/-- At every visit the path shows a file that holds the bytes `before` and those appended since. -/
def Grows (path : Text) (before : Bytes) : List Visit → Prop
  | [] => True
  | v :: later =>
    v.files.Shows path (before ++ v.appended) ∧ Grows path (before ++ v.appended) later

/-- Every cut between two visits is right after a line feed, or at the beginning of the file. -/
def CutAfterLines (visits : List Visit) : Prop :=
  ∀ earlier later, visits = earlier ++ later → later ≠ [] →
    Visit.total earlier = [] ∨ (Visit.total earlier).getLast? = some 10

namespace Collector

variable {σ : Type} [Sink σ]

/-- Reads what has been added to the file at the path, with every outcome waited for. -/
def visit (path : Text) (c : Collector σ) (v : Visit) : Collector σ × FileResult :=
  awaited v.site ({ c with files := v.files }.tail v.site path)

/-- The collector after visits, one after the other. -/
def follow (path : Text) (c : Collector σ) (visits : List Visit) : Collector σ :=
  visits.foldl (fun c v => (c.visit path v).1) c

/-- The documents in all batches that the sink was sent, first one first. -/
def posted (c : Collector ScriptedSink) : List Document := c.sink.batches.flatten

end Collector

/-! ## Between two visits -/

/-- The collector has read the bytes `read` of the file at the path, which is all that was there,
and has sent all documents. -/
structure CaughtUp (path : Text) (read : Bytes) (c : Collector ScriptedSink) : Prop where
  offset : c.offset path = read.length
  pending : c.outbox.pending = []
  capacity : 0 < c.outbox.capacity
  counted : ∀ d ∈ c.sink.script, d.outcome.IsCounted

variable {path : Text} {read : Bytes} {c : Collector ScriptedSink} {v : Visit}

lemma caughtUp_new {index : Text} {capacity : Int} {o : Outbox}
    (hnew : Outbox.new? index capacity = some o) {script : List Delivery}
    (hscript : ∀ d ∈ script, d.outcome.IsCounted) (path : Text) (files : Files) :
    CaughtUp path [] (Collector.new files o ⟨script, [], []⟩) := by
  obtain ⟨hcapacity, rfl⟩ := Outbox.new?_eq_some hnew
  refine ⟨rfl, rfl, ?_, hscript⟩
  simp only [Collector.new]
  omega

/-- The step: a visit reads what was appended, sends the documents of its lines and has caught up
again. -/
lemma CaughtUp.visit (h : CaughtUp path read c)
    (hshows : v.files.Shows path (read ++ v.appended))
    (hreads : v.site.Reads path (splitLines v.appended)) :
    CaughtUp path (read ++ v.appended) (c.visit path v).1 ∧
      (c.visit path v).2 = .finished (splitLines v.appended).length ∧
      (c.visit path v).1.posted =
        c.posted ++ v.site.documents path (splitLines v.appended) := by
  have hdrop : (read ++ v.appended).drop read.length = v.appended := List.drop_left
  have hroom : c.outbox.pending.length < c.outbox.capacity := by
    rw [h.pending]
    exact h.capacity
  rw [← hdrop] at hreads
  obtain ⟨c₁, hsent, hempty, htail⟩ := Collector.exists_sent_awaited_tail
    (c := { c with files := v.files }) h.counted hroom hshows h.offset (by simp) hreads
  rw [hdrop] at hsent htail
  rw [Collector.visit, htail]
  refine ⟨⟨?_, hempty, ?_, fun d hd => h.counted d (hsent.script d hd)⟩, rfl, ?_⟩
  · exact (c₁.offset_setOffset path path _).trans (if_pos rfl)
  · exact hsent.capacity ▸ h.capacity
  · have hbatches := congrArg List.flatten hsent.batches
    rw [List.flatten_append, flatten_inBatches, h.pending, List.nil_append] at hbatches
    exact hbatches

/-- The documents of the lines of the pieces, visit by visit. -/
def Visit.documents (path : Text) (visits : List Visit) : List Document :=
  visits.flatMap fun v => v.site.documents path (splitLines v.appended)

/-- The run: after any visits the collector has caught up with all that was appended. -/
lemma CaughtUp.follow {visits : List Visit} (h : CaughtUp path read c)
    (hgrows : Grows path read visits)
    (hreads : ∀ v ∈ visits, v.site.Reads path (splitLines v.appended)) :
    CaughtUp path (read ++ Visit.total visits) (c.follow path visits) ∧
      (c.follow path visits).posted = c.posted ++ Visit.documents path visits := by
  induction visits generalizing read c with
  | nil => simpa [Visit.total, Visit.documents, Collector.follow] using h
  | cons v later ih =>
    obtain ⟨hshows, hlater⟩ := hgrows
    obtain ⟨hvisit, -, hposted⟩ := h.visit hshows (hreads v List.mem_cons_self)
    obtain ⟨hfollow, hdocuments⟩ :=
      ih hvisit hlater fun w hw => hreads w (List.mem_cons_of_mem _ hw)
    rw [List.append_assoc] at hfollow
    refine ⟨hfollow, ?_⟩
    rw [hposted, List.append_assoc] at hdocuments
    exact hdocuments

lemma Grows.append {before : Bytes} {earlier later : List Visit}
    (h : Grows path before (earlier ++ later)) :
    Grows path before earlier ∧ Grows path (before ++ Visit.total earlier) later := by
  induction earlier generalizing before with
  | nil => simpa [Grows, Visit.total] using h
  | cons v earlier ih =>
    obtain ⟨hshows, hrest⟩ := h
    obtain ⟨hearlier, hlater⟩ := ih hrest
    refine ⟨⟨hshows, hearlier⟩, ?_⟩
    rw [List.append_assoc] at hlater
    exact hlater

/-! ## Lines across cuts -/

lemma CutAfterLines.tail {later : List Visit} (h : CutAfterLines (v :: later)) :
    CutAfterLines later := by
  intro earlier last hsplit hlast
  have hcut := h (v :: earlier) last (by rw [hsplit, List.cons_append]) hlast
  have htotal : Visit.total (v :: earlier) = v.appended ++ Visit.total earlier := rfl
  rw [htotal, List.append_eq_nil_iff, List.getLast?_append] at hcut
  cases hend : (Visit.total earlier).getLast? with
  | none => exact .inl (List.getLast?_eq_none_iff.1 hend)
  | some b =>
    rw [hend, Option.some_or] at hcut
    refine .inr (hcut.resolve_left fun h => ?_)
    simp [h.2] at hend

/-- Where the cuts are after line feeds, the lines of the whole are those of the pieces. -/
lemma splitLines_total {visits : List Visit} (hcuts : CutAfterLines visits) :
    splitLines (Visit.total visits) = visits.flatMap fun v => splitLines v.appended := by
  induction visits with
  | nil => rfl
  | cons v later ih =>
    have htotal : Visit.total (v :: later) = v.appended ++ Visit.total later := rfl
    rw [htotal, List.flatMap_cons, ← ih hcuts.tail]
    by_cases hnil : later = []
    · simp [hnil, Visit.total, splitLines]
    · have hcut := hcuts [v] later rfl hnil
      rw [Visit.total, List.flatMap_singleton] at hcut
      exact splitLines_append hcut

/-- At one time of reading, the documents of the pieces are those of the whole. -/
lemma documents_eq_of_cutAfterLines {visits : List Visit} {site : Site}
    (hcuts : CutAfterLines visits)
    (hsite : ∀ v ∈ visits, v.site.zone = site.zone ∧ v.site.now = site.now) :
    Visit.documents path visits = site.documents path (splitLines (Visit.total visits)) := by
  have hpieces : ∀ v ∈ visits, v.site.documents path (splitLines v.appended) =
      site.documents path (splitLines v.appended) := by
    intro v hv
    obtain ⟨hzone, hnow⟩ := hsite v hv
    have hdocument : v.site.document? path = site.document? path := by
      funext line
      rw [Site.document?, Site.document?, hzone, hnow]
    rw [Site.documents, Site.documents, hdocument]
  rw [splitLines_total hcuts, Visit.documents, Site.documents, List.filterMap_flatMap,
    List.flatMap_def, List.map_congr_left hpieces]
  rfl

lemma reads_total {visits : List Visit} {site : Site} (hcuts : CutAfterLines visits)
    (hsite : ∀ v ∈ visits, v.site.zone = site.zone ∧ v.site.now = site.now)
    (hreads : ∀ v ∈ visits, v.site.Reads path (splitLines v.appended)) :
    site.Reads path (splitLines (Visit.total visits)) := by
  intro line hline
  rw [splitLines_total hcuts, List.mem_flatMap] at hline
  obtain ⟨v, hv, hline⟩ := hline
  obtain ⟨hzone, hnow⟩ := hsite v hv
  rw [← hzone, ← hnow]
  exact hreads v hv line hline

/-! ## All visits -/

/-- **Reading a file as it grows is reading it at once.**  For a new collector, whose sink may
refuse requests and answer late, and any visits to a file that only grows:

* each visit reads exactly what was appended before it.  It begins at the size that the file had
  at the visit before, ends at the size that the file has now, counts the lines of the bytes
  between and posts their documents;
* if every cut is after a line feed, and lines without a timestamp are dated alike, then all
  visits together post what one visit to the whole file posts. -/
theorem follow_growing {index : Text} {capacity : Int} {o : Outbox}
    (hnew : Outbox.new? index capacity = some o) {script : List Delivery}
    (hscript : ∀ d ∈ script, d.outcome.IsCounted) {path : Text} {visits : List Visit}
    (hgrows : Grows path [] visits)
    (hreads : ∀ v ∈ visits, v.site.Reads path (splitLines v.appended)) (files : Files) :
    let fresh : Collector ScriptedSink := .new files o ⟨script, [], []⟩
    (∀ earlier v later, visits = earlier ++ v :: later →
      let before := fresh.follow path earlier
      let after := before.visit path v
      after.2 = .finished (splitLines v.appended).length ∧
        before.offset path = (Visit.total earlier).length ∧
        after.1.offset path = (Visit.total earlier).length + v.appended.length ∧
        (∀ number, v.files.find path = .file number →
          after.1.offset path = (v.files.content number).length) ∧
        after.1.posted = before.posted ++ v.site.documents path (splitLines v.appended)) ∧
    (CutAfterLines visits →
      ∀ {index' : Text} {capacity' : Int} {o' : Outbox},
        Outbox.new? index' capacity' = some o' →
      ∀ {script' : List Delivery}, (∀ d ∈ script', d.outcome.IsCounted) →
      ∀ (files' : Files) (once : Visit), once.appended = Visit.total visits →
        once.files.Shows path (Visit.total visits) →
        (∀ v ∈ visits, v.site.zone = once.site.zone ∧ v.site.now = once.site.now) →
        let afresh : Collector ScriptedSink := .new files' o' ⟨script', [], []⟩
        (fresh.follow path visits).posted = (afresh.visit path once).1.posted) := by
  intro fresh
  have hfresh : CaughtUp path [] fresh := caughtUp_new hnew hscript path files
  constructor
  · intro earlier v later hvisits before after
    rw [hvisits] at hgrows hreads
    obtain ⟨hearlier, hshows, -⟩ := hgrows.append
    obtain ⟨hbefore, -⟩ := hfresh.follow hearlier fun w hw =>
      hreads w (List.mem_append_left _ hw)
    obtain ⟨hafter, hresult, hposted⟩ :=
      hbefore.visit hshows (hreads v (List.mem_append_right _ List.mem_cons_self))
    have hoffset := hafter.offset
    rw [List.nil_append] at hshows hoffset
    refine ⟨hresult, hbefore.offset, ?_, ?_, hposted⟩
    · rw [hoffset, List.length_append, Int.natCast_add]
    · intro number hnumber
      obtain ⟨number', hfind, hcontent⟩ := hshows.found
      rw [hfind, Place.file.injEq] at hnumber
      rw [← hnumber, hcontent]
      exact hoffset
  · intro hcuts index' capacity' o' hnew' script' hscript' files' once happended hshows hsite afresh
    have hafresh : CaughtUp path [] afresh := caughtUp_new hnew' hscript' path files'
    obtain ⟨-, hvisits⟩ := hfresh.follow hgrows hreads
    rw [← happended] at hshows
    obtain ⟨-, -, hposted⟩ :=
      hafresh.visit hshows (happended ▸ reads_total hcuts hsite hreads)
    rw [hvisits, hposted, documents_eq_of_cutAfterLines hcuts hsite, happended]
    rfl

/-- A line and then a line without its line feed: the first batch fails after a second, and still
both ways of reading post the same two documents. -/
theorem follow_growing_of_two_lines :
    let path : Text := "/a"
    let showing : Bytes → Files := fun content => ⟨[([['a']], .file 0)], [(0, content)], []⟩
    let site : Site := ⟨⟨0⟩, "/", "/", ⟨0, by decide⟩⟩
    let first : Visit := ⟨[120, 10], showing [120, 10], site⟩
    let second : Visit := ⟨[121], showing [120, 10, 121], site⟩
    let once : Visit := ⟨[120, 10, 121], showing [120, 10, 121], site⟩
    let fresh : Collector ScriptedSink :=
      .new (showing []) ⟨"logs", 1, [], 0, 0, 0, 0⟩ ⟨[⟨.unavailable [], 1⟩], [], []⟩
    let afresh : Collector ScriptedSink :=
      .new (showing []) ⟨"logs", 2, [], 0, 0, 0, 0⟩ ⟨[], [], []⟩
    (fresh.follow path [first]).offset path = 2 ∧
      ((fresh.follow path [first]).visit path second).1.offset path = 3 ∧
      (fresh.follow path [first, second]).posted = (afresh.visit path once).1.posted := by
  intro path showing site first second once fresh afresh
  have hshows : ∀ content, (showing content).Shows path content := by
    intro content
    have hpath : ¬ Files.longestPath < Utf8.size path := by decide
    have hname : ¬ Files.longestName < Utf8.size ['a'] := by decide
    have hsplit : Text.splitAt '/' path = [[], ['a']] := by decide
    refine ⟨by decide, ⟨0, ?_, rfl⟩, rfl⟩
    rw [Files.find, if_neg hpath, hsplit]
    simp [Files.walk, Files.node?, hname, showing, List.lookup]
  have hscript : ∀ d ∈ [Delivery.mk (.unavailable []) 1], d.outcome.IsCounted := by
    intro d hd
    rw [List.mem_singleton.1 hd]
    trivial
  have hgrows : Grows path [] [first, second] := ⟨hshows _, hshows _, trivial⟩
  have hreads : ∀ v ∈ [first, second], v.site.Reads path (splitLines v.appended) := by
    have hfirst : splitLines first.appended = [[120, 10]] := rfl
    have hsecond : splitLines second.appended = [[121]] := rfl
    intro v hv line hline
    rcases List.mem_cons.1 hv with rfl | hv
    · rw [hfirst, List.mem_singleton] at hline
      exact hline ▸ ⟨some ⟨⟨0, by decide⟩, none, "x", "x", "/a"⟩, rfl⟩
    · rw [List.mem_singleton.1 hv] at hline ⊢
      rw [hsecond, List.mem_singleton] at hline
      exact hline ▸ ⟨some ⟨⟨0, by decide⟩, none, "y", "y", "/a"⟩, rfl⟩
  have hcuts : CutAfterLines [first, second] := by
    intro earlier later hsplit hlater
    rcases earlier with _ | ⟨v, _ | ⟨w, more⟩⟩
    · exact .inl rfl
    · obtain ⟨rfl, -⟩ := List.cons.inj hsplit
      exact .inr rfl
    · have hnone : [] = more ++ later := (List.cons.inj (List.cons.inj hsplit).2).2
      exact absurd (List.append_eq_nil_iff.1 hnone.symm).2 hlater
  have hnew : Outbox.new? "logs" 1 = some ⟨"logs", 1, [], 0, 0, 0, 0⟩ := rfl
  have hnew' : Outbox.new? "logs" 2 = some ⟨"logs", 2, [], 0, 0, 0, 0⟩ := rfl
  obtain ⟨heach, hall⟩ := follow_growing hnew hscript hgrows hreads (showing [])
  obtain ⟨-, hbefore, hafter, -⟩ := heach [first] second [] rfl
  have hsites : ∀ v ∈ [first, second],
      v.site.zone = once.site.zone ∧ v.site.now = once.site.now := by
    intro v hv
    rcases List.mem_cons.1 hv with rfl | hv
    · exact ⟨rfl, rfl⟩
    · rw [List.mem_singleton.1 hv]
      exact ⟨rfl, rfl⟩
  have hnone : ∀ d ∈ ([] : List Delivery), d.outcome.IsCounted := fun _ hd => by simp at hd
  exact ⟨hbefore, hafter,
    hall hcuts hnew' hnone (showing []) once rfl (hshows _) hsites⟩

end LogSearch.Ingestion
