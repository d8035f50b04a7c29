import LogSearch.Proofs.Document.Parts
import LogSearch.Proofs.Time.Written

/-!
# Lines as they are usually written

Log lines have no fixed form, but most of them are written in one of four layouts (`Layout`): a
timestamp, in brackets or not, then a level, in brackets or as a word, and then the message; or a
timestamp and the message.  `written_line_read` says that a line of each layout is read as what it
was written from, whatever the message is: that the message may look like a timestamp, a level or a
bracket has no influence, since the reading stops in front of it.

In all layouts the line begins with a stamp and a space (`document?_of_hasInstant`), and what is
behind is split into the level and the message by the equation of its form (`splitLevel_bracketed`,
`splitLevel_word`, `splitLevel_of_not_hasLevel`).
-/

namespace LogSearch

open Text

namespace Line

variable {z : Zone} {now i : Instant} {source rest message : Text}

lemma document?_of_hasInstant {line : Text} (h : HasInstant z line i rest) :
    document? z now source line =
      .ok (some ⟨i, (splitLevel (strip rest)).1, (splitLevel (strip rest)).2, line, source⟩) := by
  obtain ⟨first, hfirst, hread⟩ := h
  have hblank : isBlankText line = false := by
    refine Bool.eq_false_iff.2 fun hblank => ?_
    rw [firstToken?, strip_eq_nil_iff.2 hblank] at hfirst
    contradiction
  have hsplit : splitTimestamp z (strip line) = .ok (some i, strip rest) := by
    rw [splitTimestamp_strip, hfirst]
    simp only [hread]
  rw [document?_of_not_blank hblank, hsplit]
  rfl

/-! ## Brackets -/

lemma isUnbracketed_self {t : Text} (hopening : '[' ∉ t) (hclosing : ']' ∉ t) :
    IsUnbracketed t t :=
  ⟨[], [], by simp, .inr ⟨rfl, fun h => hopening (List.mem_of_mem_head? h)⟩,
    .inr ⟨rfl, fun h => hclosing (List.mem_of_mem_getLast? h)⟩⟩

lemma isUnbracketed_bracketed (t : Text) : IsUnbracketed ('[' :: t ++ [']']) t :=
  ⟨['['], [']'], rfl, .inl rfl, .inl rfl⟩

/-! ## Layouts -/

/-- How the front of a line is written: with a level, which is a word of letters or a text in
brackets, or without one.  A timestamp in brackets goes with a level in brackets. -/
inductive Layout where
  | word (level : Text)
  | bracketed (level : Text)
  | bothBracketed (level : Text)
  | plain

namespace Layout

/-- The timestamp as it is written. -/
def stamp (i : Instant) : Layout → Text
  | bothBracketed _ => "[" ++ i.text ++ "]"
  | _ => i.text

/-- What is written behind the timestamp and a space. -/
def behind (message : Text) : Layout → Text
  | word level => level ++ " " ++ message
  | bracketed level => "[" ++ level ++ "] " ++ message
  | bothBracketed level => "[" ++ level ++ "] " ++ message
  | plain => message

/-- The line that is written. -/
def line (l : Layout) (i : Instant) (message : Text) : Text :=
  l.stamp i ++ " " ++ l.behind message

/-- The level that is meant. -/
def level? : Layout → Option Text
  | word level => some (upper level)
  | bracketed level => some (upper (strip level))
  | bothBracketed level => some (upper (strip level))
  | plain => none

/-- The layout is one for the message: a level is a word of letters or has no closing bracket in it,
and a message without a level has none in front that could be taken for it. -/
def IsFor (message : Text) : Layout → Prop
  | word level => isLetterWord level
  | bracketed level => ']' ∉ level
  | bothBracketed level => ']' ∉ level
  | plain => message.head? ≠ some '[' ∧
      ∀ word rest, isLetterWord word → rest ≠ [] → message ≠ word ++ ' ' :: rest

variable {layout : Layout}

lemma isStamp_stamp (hyear : 1000 ≤ (DateTime.ofMicros i.micros).year) :
    IsStamp z (layout.stamp i) i := by
  have hnot {c : Char} (hdigit : ¬ c.isDigit) (hmark : c ∉ ("-T:.Z" : Text)) : c ∉ i.text :=
    i.not_mem_text hdigit hmark
  have hread : Instant.read? z i.text = .ok (some i) := Instant.read?_text z hyear
  have hplain : IsStamp z i.text i :=
    ⟨hnot (by decide) (by decide), i.text,
      isUnbracketed_self (hnot (by decide) (by decide)) (hnot (by decide) (by decide)), hread⟩
  cases layout with
  | word => exact hplain
  | bracketed => exact hplain
  | plain => exact hplain
  | bothBracketed =>
    have hspace : ' ' ∉ i.text := hnot (by decide) (by decide)
    exact ⟨by simp [stamp, hspace], i.text, isUnbracketed_bracketed i.text, hread⟩

lemma isBlank_of_mem_head?_stamp : ∀ c ∈ (layout.stamp i).head?, isBlank c = false := by
  have hmarks : ∀ c ∈ ("-T:.Z" : Text), isBlank c = false := by
    have hall : (("-T:.Z" : Text).all fun c => !isBlank c) = true := by decide
    simpa using hall
  have hplain : ∀ c ∈ i.text.head?, isBlank c = false := fun c hc =>
    (i.isDigit_or_mark c (List.mem_of_mem_head? hc)).elim isBlank_eq_false_of_isDigit (hmarks c)
  cases layout with
  | word => exact hplain
  | bracketed => exact hplain
  | plain => exact hplain
  | bothBracketed =>
    intro c hc
    obtain rfl : '[' = c := Option.some.inj hc
    decide

lemma behind_ne_nil (hne : message ≠ []) : layout.behind message ≠ [] := by
  cases layout <;> simp [behind, hne]

/-- What is behind the timestamp is trimmed if the message is. -/
lemma strip_behind (h : layout.IsFor message) (hne : message ≠ [])
    (htrim : strip message = message) :
    strip (layout.behind message) = layout.behind message := by
  have hbracketed (level : Text) :
      strip ("[" ++ level ++ "] " ++ message) = "[" ++ level ++ "] " ++ message := by
    refine strip_append_eq_self (fun c hc => ?_) htrim hne
    obtain rfl : '[' = c := Option.some.inj hc
    decide
  cases layout with
  | bracketed level => exact hbracketed level
  | bothBracketed level => exact hbracketed level
  | plain => exact htrim
  | word level =>
    refine strip_append_eq_self (fun c hc => isBlank_of_isLetter ?_) htrim hne
    obtain ⟨d, more, rfl⟩ := List.exists_cons_of_ne_nil (isLetterWord_iff.1 h).1
    obtain rfl : d = c := Option.some.inj hc
    exact (isLetterWord_iff.1 h).2 d List.mem_cons_self

/-- A level in front of a message is found, and where no level is none is found. -/
lemma splitLevel_behind (h : layout.IsFor message) (htrim : strip message = message) :
    splitLevel (layout.behind message) = (layout.level?, message) := by
  have hbracketed {level : Text} (hlevel : ']' ∉ level) :
      splitLevel ("[" ++ level ++ "] " ++ message) = (some (upper (strip level)), message) := by
    have hparts : ("[" ++ level ++ "] " ++ message : Text) =
        '[' :: level ++ ']' :: ' ' :: message := by simp
    rw [hparts, splitLevel_bracketed hlevel, ← List.singleton_append (l := message),
      strip_append_of_isBlankText (by decide), htrim]
  cases layout with
  | word level =>
    have hparts : behind message (word level) = level ++ ' ' :: message := by simp [behind]
    rw [hparts, splitLevel_word h, htrim]
    rfl
  | bracketed level => exact hbracketed h
  | bothBracketed level => exact hbracketed h
  | plain =>
    refine splitLevel_of_not_hasLevel ?_
    rintro (⟨inside, rest, rfl⟩ | ⟨word, rest, hword, rfl⟩)
    · exact h.1 rfl
    · refine h.2 word rest hword ?_ rfl
      -- the message would end with the space
      rintro rfl
      have hspace : isBlank ' ' = false :=
        isBlank_of_mem_getLast?_strip (t := word ++ [' ']) (by rw [htrim]; simp)
      contradiction

end Layout

/-- **A line that is written in one of the layouts is read as what it was written from.**  Its
document has the instant of the timestamp, the level and the message, and the whole line besides. -/
theorem written_line_read (z : Zone) (now : Instant) (source : Text)
    (hyear : 1000 ≤ (DateTime.ofMicros i.micros).year) (hne : message ≠ [])
    (htrim : strip message = message) {layout : Layout} (h : layout.IsFor message) :
    let line := layout.line i message
    document? z now source line = .ok (some ⟨i, layout.level?, message, line, source⟩) := by
  intro line
  have hbehind := Layout.strip_behind h hne htrim
  have hparts : line = layout.stamp i ++ ' ' :: layout.behind message := by
    simp [line, Layout.line]
  have hstamp : IsStamp z (layout.stamp i) i := Layout.isStamp_stamp hyear
  have hline : strip line = line := by
    refine strip_append_eq_self (fun c hc => ?_) hbehind (Layout.behind_ne_nil hne)
    rw [List.head?_append_of_ne_nil _ hstamp.ne_nil] at hc
    exact Layout.isBlank_of_mem_head?_stamp c hc
  have hinstant : HasInstant z line i (layout.behind message) :=
    hasInstant_iff.2 ⟨_, hline.trans hparts, hstamp⟩
  rw [document?_of_hasInstant hinstant, hbehind, Layout.splitLevel_behind h htrim]

/-- Two lines of different layouts, whose messages look like a level and like a timestamp. -/
theorem written_line_read_of_lookalikes :
    let i : Instant := ⟨63850161600500000, by decide⟩
    let now : Instant := ⟨0, by decide⟩
    document? ⟨3600⟩ now "/a" "[2024-05-01T12:00:00.500Z] [ warn] [x] 2024-01-01" =
        .ok (some ⟨i, some "WARN", "[x] 2024-01-01",
          "[2024-05-01T12:00:00.500Z] [ warn] [x] 2024-01-01", "/a"⟩) ∧
      document? ⟨3600⟩ now "/a" "2024-05-01T12:00:00.500Z 2024-01-01 full" =
        .ok (some ⟨i, none, "2024-01-01 full", "2024-05-01T12:00:00.500Z 2024-01-01 full",
          "/a"⟩) := by
  intro i now
  have hyear : 1000 ≤ (DateTime.ofMicros i.micros).year := by decide +kernel
  have htext : i.text = "2024-05-01T12:00:00.500Z" := by decide +kernel
  have hbrackets : (Layout.bothBracketed " warn").IsFor "[x] 2024-01-01" := by
    simp [Layout.IsFor]
  have hplain : Layout.plain.IsFor "2024-01-01 full" := by
    refine ⟨by decide, fun word rest hword _ hmessage => ?_⟩
    obtain ⟨c, more, rfl⟩ := List.exists_cons_of_ne_nil (isLetterWord_iff.1 hword).1
    have hletter : isLetter c := (isLetterWord_iff.1 hword).2 c List.mem_cons_self
    obtain rfl : '2' = c := (List.cons.inj hmessage).1
    contradiction
  have hfirst := written_line_read ⟨3600⟩ now "/a" hyear (by decide) (by decide +kernel) hbrackets
  have hsecond := written_line_read ⟨3600⟩ now "/a" hyear (by decide) (by decide +kernel) hplain
  simp only [Layout.line, Layout.stamp, htext] at hfirst hsecond
  exact ⟨hfirst, hsecond⟩

end Line

end LogSearch
