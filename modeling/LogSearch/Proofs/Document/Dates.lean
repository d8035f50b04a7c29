import LogSearch.Proofs.Document.Line
import LogSearch.Proofs.Time.Range

/-!
# How lines are dated

What comes before the first space of a line may be a timestamp, in brackets or not.  If it is one,
it dates the document of the line and the document says what comes after it; otherwise the document
is dated by the time of reading and says all that is in the line (`IsDocument`).  Every line that is
not blank has such a document, except that a timestamp can be of the right form and name no instant.
Then the line has none (`exists_document?_eq_error_iff`).
-/

namespace LogSearch.Line

variable {z : Zone} {now : Instant} {source line : Text} {d : Document}

/-- What comes before the first space of a line, without brackets, and what comes after it. -/
def firstToken? (line : Text) : Option (Text × Text) :=
  (Text.cutAt? ' ' (Text.strip line)).map fun p => (unbracket p.1, p.2)

/-- The first token of the line names the instant, and the rest comes after it. -/
def HasInstant (z : Zone) (line : Text) (i : Instant) (rest : Text) : Prop :=
  ∃ first, firstToken? line = some (first, rest) ∧ Instant.read? z first = .ok (some i)

/-- The first token of the line is a timestamp that names no instant. -/
def IsBeyond (z : Zone) (line : Text) : Prop :=
  ∃ first rest s, firstToken? line = some (first, rest) ∧
    Stamp.read? (Text.strip first) = some s ∧ s.IsBeyond z

/-- The document is what a line of a file says when it is read: a first token that names an instant
dates it, and otherwise belongs to the text. -/
structure IsDocument (z : Zone) (now : Instant) (source line : Text) (d : Document) : Prop where
  raw : d.raw = line
  source : d.source = source
  parts :
    (∃ i rest, HasInstant z line i rest ∧ d.timestamp = i ∧
      (d.level, d.message) = splitLevel (Text.strip rest)) ∨
    (∀ i rest, ¬ HasInstant z line i rest) ∧ d.timestamp = now ∧
      (d.level, d.message) = splitLevel (Text.strip line)

/-- What a line becomes, and the counts with it: nothing if the line is blank, and otherwise a
document. -/
inductive Becomes (z : Zone) (now : Instant) (source line : Text) (counts : Counts) :
    Option Document → Counts → Prop
  | skipped (hblank : Text.isBlankText line) :
    Becomes z now source line counts none ⟨counts.parsed, counts.skipped + 1⟩
  | parsed {d : Document} (hblank : Text.isBlankText line = false)
      (hd : IsDocument z now source line d) :
    Becomes z now source line counts (some d) ⟨counts.parsed + 1, counts.skipped⟩

/-- The first token is read as a timestamp, and an empty one is none. -/
lemma splitTimestamp_strip (z : Zone) (line : Text) :
    splitTimestamp z (Text.strip line) =
      match firstToken? line with
      | none => .ok (none, Text.strip line)
      | some (first, rest) =>
        match Instant.read? z first with
        | .error fault => .error fault
        | .ok none => .ok (none, Text.strip line)
        | .ok (some i) => .ok (some i, Text.strip rest) := by
  rw [splitTimestamp, firstToken?]
  cases Text.cutAt? ' ' (Text.strip line) with
  | none => rfl
  | some p =>
    obtain ⟨first, rest⟩ := p
    by_cases hempty : first = []
    · subst hempty
      rfl
    · exact if_neg hempty

lemma exists_splitTimestamp_eq_error_iff :
    (∃ fault, splitTimestamp z (Text.strip line) = .error fault) ↔ IsBeyond z line := by
  rw [splitTimestamp_strip, IsBeyond]
  cases firstToken? line with
  | none => simp
  | some p =>
    obtain ⟨first, rest⟩ := p
    have hread : (∃ fault, Instant.read? z first = .error fault) ↔ _ :=
      Instant.exists_read?_eq_error_iff
    simp only [Option.some.injEq, Prod.mk.injEq, and_assoc, exists_and_left, exists_eq_left']
    rw [← hread]
    rcases Instant.read? z first with fault | ⟨⟩ | i <;> simp

lemma document?_of_not_blank (hblank : Text.isBlankText line = false) :
    document? z now source line = (splitTimestamp z (Text.strip line)).map fun p =>
      some ⟨p.1.getD now, (splitLevel p.2).1, (splitLevel p.2).2, line, source⟩ := by
  have hstrip : Text.strip line ≠ [] := by
    rw [Ne, Text.strip_eq_nil_iff, hblank]
    exact Bool.false_ne_true
  rw [document?]
  simp only [if_neg hstrip]
  cases splitTimestamp z (Text.strip line) <;> rfl

lemma document?_of_blank (hblank : Text.isBlankText line) :
    document? z now source line = .ok none := by
  rw [document?]
  simp only [Text.strip_eq_nil_iff.2 hblank, if_true]

lemma document?_eq_none_iff : document? z now source line = .ok none ↔ Text.isBlankText line := by
  cases hblank : Text.isBlankText line with
  | true => exact iff_of_true (document?_of_blank hblank) rfl
  | false =>
    rw [document?_of_not_blank hblank]
    cases splitTimestamp z (Text.strip line) <;> simp [Except.map]

/-- The lines at fault are those whose first token is a timestamp that names no instant. -/
lemma exists_document?_eq_error_iff :
    (∃ fault, document? z now source line = .error fault) ↔ IsBeyond z line := by
  rw [← exists_splitTimestamp_eq_error_iff]
  cases hblank : Text.isBlankText line with
  | true =>
    rw [document?_of_blank hblank, Text.strip_eq_nil_iff.2 hblank]
    exact iff_of_false nofun nofun
  | false =>
    rw [document?_of_not_blank hblank]
    cases splitTimestamp z (Text.strip line) <;> simp [Except.map]

lemma isDocument_of_document? (h : document? z now source line = .ok (some d)) :
    IsDocument z now source line d := by
  obtain ⟨timestamp, rest, hsplit, rfl⟩ := document?_eq_some h
  refine ⟨rfl, rfl, ?_⟩
  rw [splitTimestamp_strip] at hsplit
  split at hsplit
  next htoken =>
    obtain ⟨rfl, rfl⟩ := Prod.mk.inj (Except.ok.inj hsplit)
    refine .inr ⟨fun i rest => ?_, rfl, rfl⟩
    rintro ⟨first, hfirst, -⟩
    exact nomatch htoken.symm.trans hfirst
  next first behind htoken =>
    split at hsplit
    next => contradiction
    next hread =>
      obtain ⟨rfl, rfl⟩ := Prod.mk.inj (Except.ok.inj hsplit)
      refine .inr ⟨fun i rest => ?_, rfl, rfl⟩
      rintro ⟨first', hfirst, hinstant⟩
      obtain ⟨rfl, rfl⟩ := Prod.mk.inj (Option.some.inj (htoken.symm.trans hfirst))
      exact nomatch hread.symm.trans hinstant
    next i hread =>
      obtain ⟨rfl, rfl⟩ := Prod.mk.inj (Except.ok.inj hsplit)
      exact .inl ⟨i, behind, ⟨first, htoken, hread⟩, rfl, rfl⟩

/-- A line that is not at fault is skipped or has a document. -/
lemma exists_becomes (counts : Counts) (h : ¬ IsBeyond z line) :
    ∃ d?, document? z now source line = .ok d? ∧
      Becomes z now source line counts d? (counts.count d?) := by
  cases hread : document? z now source line with
  | error fault => exact absurd (exists_document?_eq_error_iff.1 ⟨fault, hread⟩) h
  | ok d? =>
    refine ⟨d?, rfl, ?_⟩
    cases d? with
    | none => exact .skipped (document?_eq_none_iff.1 hread)
    | some d =>
      refine .parsed (Bool.eq_false_iff.2 fun hblank => ?_) (isDocument_of_document? hread)
      exact nomatch hread.symm.trans (document?_of_blank hblank)

end LogSearch.Line
