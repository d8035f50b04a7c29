import LogSearch.Document.Line
import LogSearch.Proofs.Except
import LogSearch.Proofs.Text.CaseMaps

/-!
# Documents of lines

What a line becomes, said once: if it has a document, its timestamp and its level were split off
the front, and the line and its file are kept as they are (`document?_eq_some`).  The level of a
document is in upper case, wherever it was found.
-/

namespace LogSearch.Line

variable {z : Zone} {now : Instant} {source line t : Text} {d : Document} {level : Text}

lemma document?_eq_some (h : document? z now source line = .ok (some d)) :
    ∃ timestamp rest, splitTimestamp z (Text.strip line) = .ok (timestamp, rest) ∧
      d = ⟨timestamp.getD now, (splitLevel rest).1, (splitLevel rest).2, line, source⟩ := by
  rw [document?] at h
  simp only at h
  split at h
  next => simp at h
  next =>
    obtain ⟨⟨timestamp, rest⟩, hsplit, hrest⟩ := Except.bind_eq_ok_iff.1 h
    refine ⟨timestamp, rest, hsplit, ?_⟩
    exact (Option.some.inj (Except.pure_eq_ok_iff.1 hrest)).symm

/-- A level that is split off is in upper case. -/
lemma upper_of_splitLevel (h : (splitLevel t).1 = some level) : Text.upper level = level := by
  unfold splitLevel at h
  split at h
  next =>
    split at h
    · obtain rfl := Option.some.inj h
      exact Text.upper_upper _
    · simp at h
  next =>
    split at h
    · split at h
      · obtain rfl := Option.some.inj h
        exact Text.upper_upper _
      · simp at h
    · simp at h

lemma upper_level (h : document? z now source line = .ok (some d)) (hlevel : d.level = some level) :
    Text.upper level = level := by
  obtain ⟨timestamp, rest, -, rfl⟩ := document?_eq_some h
  exact upper_of_splitLevel hlevel

lemma source_eq (h : document? z now source line = .ok (some d)) : d.source = source := by
  obtain ⟨timestamp, rest, -, rfl⟩ := document?_eq_some h
  rfl

end LogSearch.Line
