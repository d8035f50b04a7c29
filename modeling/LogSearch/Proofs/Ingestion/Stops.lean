import LogSearch.Proofs.Document.Dates
import LogSearch.Proofs.Ingestion.Walks

/-!
# What can stop a pass

A pass goes on after a file that cannot be read, but not after a line that is at fault.  Which lines
these are is known (`Line.IsBeyond`): their first token is a timestamp of the right form that names
no instant.  Neither a pass, as far as it comes without waiting, nor what follows a wait changes a
file, and neither stops for a line unless there is such a line in what it reads (`Steady`).  The
other faults that stop a pass lie with a path or with a reply.

`lines_taken_in` puts together what becomes of a line and what becomes of a pass.
-/

namespace LogSearch.Ingestion

/-- A line of the bytes, read from some place on, begins with a timestamp that names no instant. -/
def Site.HasBeyond (site : Site) (bytes : Bytes) : Prop :=
  ∃ start, ∃ line ∈ splitLines (bytes.drop start), Line.IsBeyond site.zone (lineText line)

namespace Collector

variable {σ : Type} {site : Site} {c c' : Collector σ} {beyond : Prop}

/-- A part of a pass has come from the collector `c` to `c'`, with the files as they were, and is
given up for a line only if there is one to give it up for. -/
structure Steady (c : Collector σ) (beyond : Prop) (c' : Collector σ) (fault? : Option PassFault) :
    Prop where
  files : c'.files = c.files
  range : ∀ fault, fault? = some (.range fault) → beyond

/-- A line that is not taken in begins with a timestamp that names no instant. -/
lemma isBeyond_of_accept {source : Text} {line : Bytes} {fault : RangeFault}
    (h : (c.accept site source line).2 = .error fault) :
    Line.IsBeyond site.zone (lineText line) := by
  rw [accept] at h
  split at h
  next fault' hdocument => exact Line.exists_document?_eq_error_iff.1 ⟨fault', hdocument⟩
  next => contradiction
  next => contradiction

variable [Sink σ]

/-- A walk is given up for a line only if one that may be read is at fault. -/
lemma Walk.steady {readable : Bytes → Prop} {fault? : Option PassFault} {s? : Option Suspension}
    (h : Walk site readable c c' fault? s?)
    (hbeyond : ∀ line, readable line → Line.IsBeyond site.zone (lineText line) → beyond) :
    Steady c beyond c' fault? := by
  refine ⟨h.files, ?_⟩
  induction h with
  | nothing =>
    intro fault hfault
    cases hfault
  | next _ _ ih => exact ih
  | last h =>
    rintro fault rfl
    obtain ⟨reply, hreply⟩ | ⟨range, _, line, -, hline, haccept⟩ | ⟨-, hnone⟩ := h.fault_cases
    · cases hreply
    · exact hbeyond line hline (isBeyond_of_accept (congrArg Prod.snd haccept))
    · exact absurd rfl (hnone fault)

lemma steady_pass (site : Site) (c : Collector σ) (paths : List Text) :
    Steady c (∃ number, site.HasBeyond (c.files.content number)) (c.pass site paths).1
      (c.pass site paths).2.fault? := by
  refine (walk_pass site c paths fun line hline => hline).steady ?_
  rintro line ⟨number, start, hline⟩ hbeyond
  exact ⟨number, start, line, hline, hbeyond⟩

lemma steady_resumePass (site : Site) (c : Collector σ) (s : Suspension) (paths : List Text) :
    Steady c (site.HasBeyond (s.file.remaining (c.files.content s.file.number)) ∨
        ∃ number, site.HasBeyond (c.files.content number))
      (c.resumePass site s paths).1 (c.resumePass site s paths).2.fault? := by
  let unread (line : Bytes) : Prop :=
    line ∈ splitLines (s.file.remaining (c.files.content s.file.number))
  have hwalk : Walk site (fun line => unread line ∨ InFiles c.files line)
      (c.settle s.batch.length s.outcome).1 (c.resumePass site s paths).1
      (c.resumePass site s paths).2.fault? (c.resumePass site s paths).2.suspension? :=
    walk_resumePass site c s paths (fun _ => .inl) fun _ => .inr
  refine ⟨hwalk.files, (hwalk.steady ?_).range⟩
  rintro line (hline | ⟨number, start, hline⟩) hbeyond
  · exact .inl ⟨0, line, hline, hbeyond⟩
  · exact .inr ⟨number, start, line, hline, hbeyond⟩

/-- **Every line is taken in, but for its timestamp.**  A line is at fault just when its first token
is a timestamp that names no instant.  A blank line is skipped, and any other that is not at fault
has a document and is counted as parsed.  And no pass, whether it begins or goes on after a wait, is
given up for a line, unless one of the lines at fault is in what it reads. -/
theorem lines_taken_in (site : Site) (source line : Text) (counts : Line.Counts) (c : Collector σ)
    (paths : List Text) (s : Suspension) :
    let read := Line.document? site.zone site.now source line
    ((∃ fault, read = .error fault) ↔ Line.IsBeyond site.zone line) ∧
      (¬ Line.IsBeyond site.zone line → ∃ d?, read = .ok d? ∧
        Line.Becomes site.zone site.now source line counts d? (counts.count d?)) ∧
      (∀ fault, (c.pass site paths).2 = .failed (.range fault) →
        ∃ number, site.HasBeyond (c.files.content number)) ∧
      ∀ fault, (c.resumePass site s paths).2 = .failed (.range fault) →
        site.HasBeyond (s.file.remaining (c.files.content s.file.number)) ∨
          ∃ number, site.HasBeyond (c.files.content number) := by
  refine ⟨Line.exists_document?_eq_error_iff, Line.exists_becomes counts, ?_, ?_⟩
  · intro fault h
    exact (steady_pass site c paths).range fault (by rw [h]; rfl)
  · intro fault h
    exact (steady_resumePass site c s paths).range fault (by rw [h]; rfl)

/-- A line with a timestamp and a level in brackets, where the hour is followed by minutes only. -/
theorem lines_taken_in_of_brackets :
    let site : Site := ⟨⟨3600⟩, "/", "/root", ⟨0, by decide⟩⟩
    let line : Text := "[2024-05-01T12:00Z] [warn] disk full"
    let d : Document := ⟨⟨63850161600000000, by decide⟩, some "WARN", "disk full", line, "/a"⟩
    ¬ Line.IsBeyond site.zone line ∧
      Line.document? site.zone site.now "/a" line = .ok (some d) ∧
      Line.Becomes site.zone site.now "/a" line ⟨4, 2⟩ (some d) ⟨5, 2⟩ := by
  intro site line d
  have hd : Line.document? site.zone site.now "/a" line = .ok (some d) := rfl
  have hwithin : ¬ Line.IsBeyond site.zone line := by
    intro hbeyond
    obtain ⟨fault, hfault⟩ := Line.exists_document?_eq_error_iff.2 hbeyond
    rw [hd] at hfault
    contradiction
  let c : Collector ScriptedSink := .new ⟨[], [], []⟩ ⟨"logs", 1, [], 0, 0, 0, 0⟩ ⟨[], [], []⟩
  let s : Suspension := ⟨.start "/a" 0 0 none, [], .reply .null, 0, true⟩
  obtain ⟨d?, hread, hbecomes⟩ := (lines_taken_in site "/a" line ⟨4, 2⟩ c [] s).2.1 hwithin
  obtain rfl := Except.ok.inj (hd.symm.trans hread)
  exact ⟨hwithin, hd, hbecomes⟩

/-- The first day of all names no instant, and a line that begins with it has no document. -/
theorem line_of_first_day :
    let site : Site := ⟨⟨0⟩, "/", "/root", ⟨63116773506789012, by decide⟩⟩
    ¬ ∃ d?, Line.document? site.zone site.now "/var/log/app.log" "0001-01-01 x" = .ok d? := by
  intro site
  have hfault : Line.document? site.zone site.now "/var/log/app.log" "0001-01-01 x" =
      .error (.year 0) := rfl
  rw [hfault]
  rintro ⟨d?, h⟩
  contradiction

end Collector

end LogSearch.Ingestion
