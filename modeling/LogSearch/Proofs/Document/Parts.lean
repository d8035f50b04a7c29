import LogSearch.Proofs.Document.Dates

/-!
# The parts of a line

A line that has a document is, less the white space around it, made up of five parts: the timestamp
in front, white space, the level, white space and the message (`Parts`).  Every part may be empty.
`line_kept` says that these parts are the whole line, that the document says of each of them what it
is (`Dates`, `Grades`), and that no timestamp and no level is passed over where one stands in its
place.  So the reading of a line loses no text and invents none.

The timestamp and the level are split off one after the other, and so is the proof
(`exists_dates`, `exists_grades`).  What carries it is that the text that is left is always trimmed:
the white space that is lost with a part is then all behind this part.
-/

namespace LogSearch.Line

open Text

variable {z : Zone} {now i : Instant} {source line t inner rest : Text} {d : Document}

/-! ## Timestamps -/

/-- The inner text is the text less one opening bracket in front and one closing bracket behind,
each where there is one. -/
def IsUnbracketed (t inner : Text) : Prop :=
  ∃ opening closing, t = opening ++ inner ++ closing ∧
    (opening = ['['] ∨ opening = [] ∧ t.head? ≠ some '[') ∧
    (closing = [']'] ∨ closing = [] ∧ inner.getLast? ≠ some ']')

lemma isUnbracketed_unbracket (t : Text) : IsUnbracketed t (unbracket t) := by
  obtain ⟨opening, front, ht, hopening, hfront⟩ : ∃ opening front, t = opening ++ front ∧
      (opening = ['['] ∨ opening = [] ∧ t.head? ≠ some '[') ∧
      (after? ['['] t).getD t = front := by
    cases hafter : after? ['['] t with
    | none => exact ⟨[], t, rfl, .inr ⟨rfl, after?_singleton_eq_none_iff.1 hafter⟩, rfl⟩
    | some front => exact ⟨['['], front, after?_singleton_eq_some_iff.1 hafter, .inl rfl, rfl⟩
  have hunbracket : unbracket t = if front.getLast? = some ']' then front.dropLast else front := by
    rw [unbracket, hfront]
  by_cases hlast : front.getLast? = some ']'
  · have hclosed : front.dropLast ++ [']'] = front := List.dropLast_append_getLast? _ hlast
    rw [hunbracket, if_pos hlast]
    exact ⟨opening, [']'], by rw [List.append_assoc, hclosed, ht], hopening, .inl rfl⟩
  · rw [hunbracket, if_neg hlast]
    exact ⟨opening, [], by rw [List.append_nil, ht], hopening, .inr ⟨rfl, hlast⟩⟩

lemma isUnbracketed_iff : IsUnbracketed t inner ↔ unbracket t = inner := by
  constructor
  · rintro ⟨opening, closing, rfl, hopening, hclosing⟩
    have hfront : (after? ['['] (opening ++ inner ++ closing)).getD (opening ++ inner ++ closing) =
        inner ++ closing := by
      rcases hopening with rfl | ⟨rfl, hhead⟩
      · rw [List.append_assoc, after?_append]
        rfl
      · rw [after?_singleton_eq_none_iff.2 hhead]
        rfl
    rw [unbracket, hfront]
    rcases hclosing with rfl | ⟨rfl, hlast⟩
    · rw [if_pos List.getLast?_concat, List.dropLast_concat]
    · rw [List.append_nil, if_neg hlast]
  · rintro rfl
    exact isUnbracketed_unbracket t

/-- The text has no space in it and names the instant, in brackets or not. -/
def IsStamp (z : Zone) (t : Text) (i : Instant) : Prop :=
  ' ' ∉ t ∧ ∃ inner, IsUnbracketed t inner ∧ Instant.read? z inner = .ok (some i)

lemma IsStamp.ne_nil (h : IsStamp z t i) : t ≠ [] := by
  rintro rfl
  obtain ⟨-, inner, hinner, hread⟩ := h
  obtain rfl := isUnbracketed_iff.1 hinner
  cases hread

lemma hasInstant_iff :
    HasInstant z line i rest ↔ ∃ stamp, strip line = stamp ++ ' ' :: rest ∧ IsStamp z stamp i := by
  constructor
  · rintro ⟨first, hfirst, hread⟩
    obtain ⟨⟨stamp, behind⟩, hcut, hparts⟩ := Option.map_eq_some_iff.1 hfirst
    obtain ⟨rfl, rfl⟩ := Prod.mk.inj hparts
    obtain ⟨hspace, hline⟩ := cutAt?_eq_some_iff.1 hcut
    exact ⟨stamp, hline, hspace, _, isUnbracketed_unbracket stamp, hread⟩
  · rintro ⟨stamp, hline, hspace, inner, hinner, hread⟩
    obtain rfl := isUnbracketed_iff.1 hinner
    refine ⟨_, ?_, hread⟩
    rw [firstToken?, hline, cutAt?_append hspace]
    rfl

/-- What dates the document of a line: a timestamp, and then a space is behind it, or the time of
reading. -/
inductive Dates (z : Zone) (now : Instant) : (stamp behind : Text) → Instant → Prop
  | now {behind : Text} : Dates z now [] behind now
  | stamp {stamp rest : Text} {i : Instant} (h : IsStamp z stamp i) :
    Dates z now stamp (' ' :: rest) i

/-- What a trimmed text ends with has white space in front only. -/
lemma exists_gap (front : Text) (htrim : strip t = t) (ht : t = front ++ rest) :
    ∃ gap, rest = gap ++ strip rest ∧ isBlankText gap := by
  refine exists_eq_append_strip_of_last fun c hc => ?_
  refine isBlank_of_mem_getLast?_strip (t := t) ?_
  rw [htrim, ht, List.getLast?_append, Option.mem_def.1 hc]
  rfl

lemma isBlankText_space {gap : Text} (h : isBlankText gap) : isBlankText (' ' :: gap) := by
  have hspace : isBlank ' ' := by decide
  rw [isBlankText, List.all_cons, hspace, Bool.true_and]
  exact h

/-- The document of a line is dated by what is in front, and its level and its message are those of
the text behind. -/
lemma exists_dates (h : IsDocument z now source line d) :
    ∃ stamp gap rest, strip line = stamp ++ gap ++ rest ∧ isBlankText gap ∧ strip rest = rest ∧
      Dates z now stamp (gap ++ rest) d.timestamp ∧ (d.level, d.message) = splitLevel rest ∧
      ∀ word behind i, strip line = word ++ ' ' :: behind → IsStamp z word i → stamp ≠ [] := by
  rcases h.parts with ⟨i, rest, hinstant, rfl, hlevel⟩ | ⟨hnone, htime, hlevel⟩
  · obtain ⟨stamp, hline, hstamp⟩ := hasInstant_iff.1 hinstant
    obtain ⟨gap, hrest, hgap⟩ := exists_gap (stamp ++ [' ']) (strip_strip line)
      (by rw [hline, List.append_assoc, List.singleton_append])
    refine ⟨stamp, ' ' :: gap, strip rest, ?_, isBlankText_space hgap, strip_strip rest,
      .stamp hstamp, hlevel, fun _ _ _ _ _ => hstamp.ne_nil⟩
    rw [List.append_assoc, List.cons_append, ← hrest, hline]
  · refine ⟨[], [], strip line, rfl, rfl, strip_strip line, ?_, hlevel, ?_⟩
    · rw [htime]
      exact .now
    · intro word behind i hline hword
      exact absurd (hasInstant_iff.2 ⟨word, hline, hword⟩) (hnone i behind)

/-! ## Levels -/

/-- What the level of a document is: a text in brackets, or a word of letters, and then a space is
behind it, or there is none. -/
inductive Grades : (grade behind : Text) → Option Text → Prop
  | nothing {behind : Text} : Grades [] behind none
  | bracketed {inside behind : Text} (hinside : ']' ∉ inside) :
    Grades ('[' :: inside ++ [']']) behind (some (upper (strip inside)))
  | word {word rest : Text} (hword : isLetterWord word) :
    Grades word (' ' :: rest) (some (upper word))

/-- The text begins with a text in brackets, or with a word of letters and a space. -/
def HasLevel (t : Text) : Prop :=
  (∃ inside rest, t = '[' :: inside ++ ']' :: rest) ∨
    ∃ word rest, isLetterWord word ∧ t = word ++ ' ' :: rest

lemma isLetterWord_iff {word : Text} : isLetterWord word ↔ word ≠ [] ∧ ∀ c ∈ word, isLetter c := by
  simp [isLetterWord]

lemma notMem_of_isLetterWord {word : Text} (hword : isLetterWord word) {c : Char}
    (hc : isLetter c = false) : c ∉ word := by
  intro hmem
  rw [(isLetterWord_iff.1 hword).2 c hmem] at hc
  contradiction

lemma splitLevel_bracketed {inside : Text} (hinside : ']' ∉ inside) (rest : Text) :
    splitLevel ('[' :: inside ++ ']' :: rest) = (some (upper (strip inside)), strip rest) := by
  have hopening : after? ['['] ('[' :: inside ++ ']' :: rest) = some (inside ++ ']' :: rest) :=
    after?_singleton_eq_some_iff.2 rfl
  rw [splitLevel, hopening]
  simp only [cutAt?_append hinside]

lemma splitLevel_word {word : Text} (hword : isLetterWord word) (rest : Text) :
    splitLevel (word ++ ' ' :: rest) = (some (upper word), strip rest) := by
  have hopening : after? ['['] (word ++ ' ' :: rest) = none := by
    obtain ⟨c, more, rfl⟩ := List.exists_cons_of_ne_nil (isLetterWord_iff.1 hword).1
    have hbracket : '[' ∉ c :: more := notMem_of_isLetterWord hword (by decide)
    refine after?_singleton_eq_none_iff.2 fun hc => hbracket ?_
    rw [← Option.some.inj hc]
    exact List.mem_cons_self
  have hspace : ' ' ∉ word := notMem_of_isLetterWord hword (by decide)
  rw [splitLevel, hopening]
  simp only [cutAt?_append hspace, hword, if_true]

lemma splitLevel_of_not_hasLevel (h : ¬ HasLevel t) : splitLevel t = (none, t) := by
  rw [splitLevel]
  split
  next inside hinside =>
    obtain rfl := after?_singleton_eq_some_iff.1 hinside
    split
    next level rest hcut =>
      obtain ⟨-, rfl⟩ := cutAt?_eq_some_iff.1 hcut
      exact absurd (.inl ⟨level, rest, rfl⟩) h
    next => rfl
  next =>
    split
    next word rest hcut =>
      obtain ⟨-, rfl⟩ := cutAt?_eq_some_iff.1 hcut
      exact if_neg fun hword => h (.inr ⟨word, rest, hword, rfl⟩)
    next => rfl

/-- The level of a trimmed text, the white space behind it and the message are the whole text, and
the level is empty only where there is none. -/
lemma exists_grades (htrim : strip t = t) :
    ∃ grade space, t = grade ++ space ++ (splitLevel t).2 ∧ isBlankText space ∧
      strip (splitLevel t).2 = (splitLevel t).2 ∧
      Grades grade (space ++ (splitLevel t).2) (splitLevel t).1 ∧ (HasLevel t → grade ≠ []) := by
  by_cases hlevel : HasLevel t
  · rcases hlevel with ⟨inside, rest, ht⟩ | ⟨word, rest, hword, ht⟩
    · obtain ⟨inside, rest, hinside, ht⟩ : ∃ inside rest : Text,
          ']' ∉ inside ∧ t = '[' :: inside ++ ']' :: rest := by
        have hmem : ']' ∈ inside ++ ']' :: rest := by simp
        obtain ⟨inside', rest', hsplit, hinside⟩ := List.eq_append_cons_of_mem hmem
        exact ⟨inside', rest', hinside, by rw [ht, List.cons_append, hsplit, List.cons_append]⟩
      obtain ⟨space, hrest, hspace⟩ := exists_gap ('[' :: inside ++ [']']) htrim
        (by rw [ht, List.append_assoc, List.singleton_append])
      have hsplit : splitLevel t = (some (upper (strip inside)), strip rest) := by
        rw [ht, splitLevel_bracketed hinside]
      refine ⟨'[' :: inside ++ [']'], space, ?_, hspace, ?_, ?_, fun _ => by simp⟩
      · rw [hsplit, List.append_assoc, ← hrest, ht, List.append_assoc, List.singleton_append]
      · rw [hsplit, strip_strip]
      · rw [hsplit]
        exact .bracketed hinside
    · obtain ⟨space, hrest, hspace⟩ := exists_gap (word ++ [' ']) htrim
        (by rw [ht, List.append_assoc, List.singleton_append])
      have hsplit : splitLevel t = (some (upper word), strip rest) := by
        rw [ht, splitLevel_word hword]
      refine ⟨word, ' ' :: space, ?_, isBlankText_space hspace, ?_, ?_,
        fun _ => (isLetterWord_iff.1 hword).1⟩
      · rw [hsplit, List.append_assoc, List.cons_append, ← hrest, ht]
      · rw [hsplit, strip_strip]
      · rw [hsplit]
        exact .word hword
  · rw [splitLevel_of_not_hasLevel hlevel]
    exact ⟨[], [], rfl, rfl, htrim, .nothing, fun h => absurd h hlevel⟩

/-! ## The whole line -/

/-- The parts that a line can be made up of, from its beginning to its end. -/
structure Parts where
  stamp : Text
  gap : Text
  grade : Text
  space : Text
  message : Text

namespace Parts

/-- What is behind the timestamp and the white space after it. -/
def afterStamp (p : Parts) : Text := p.grade ++ p.space ++ p.message

/-- The parts put together. -/
def text (p : Parts) : Text := p.stamp ++ p.gap ++ p.afterStamp

/-- The parts make up the line without the white space around it, and the document says of each of
them what it is.  The timestamp and the level are empty only where there is none. -/
structure MakeUp (p : Parts) (z : Zone) (now : Instant) (line : Text) (d : Document) : Prop where
  whole : strip line = p.text
  gap : isBlankText p.gap
  space : isBlankText p.space
  afterStamp : strip p.afterStamp = p.afterStamp
  trimmed : strip p.message = p.message
  message : d.message = p.message
  dates : Dates z now p.stamp (p.gap ++ p.afterStamp) d.timestamp
  grades : Grades p.grade (p.space ++ p.message) d.level
  stamp : ∀ word behind i, strip line = word ++ ' ' :: behind → IsStamp z word i → p.stamp ≠ []
  grade : HasLevel p.afterStamp → p.grade ≠ []

end Parts

/-- **No text of a line is lost, and none is invented.**  The document of a line keeps the line as
it is.  Without the white space around it, the line is made up of a timestamp, white space, a level,
white space and the message, each of which the document takes for what it is; there may be no
timestamp and no level, but none is passed over. -/
theorem line_kept (h : document? z now source line = .ok (some d)) :
    d.raw = line ∧ ∃ p : Parts, p.MakeUp z now line d := by
  have hdocument := isDocument_of_document? h
  obtain ⟨stamp, gap, rest, hline, hgap, htrim, hdates, hsplit, hstamp⟩ := exists_dates hdocument
  obtain ⟨grade, space, hrest, hspace, hmessage, hgrades, hgrade⟩ := exists_grades htrim
  rw [← hsplit] at hrest hmessage hgrades
  let p : Parts := ⟨stamp, gap, grade, space, d.message⟩
  have hafter : p.afterStamp = rest := hrest.symm
  exact ⟨hdocument.raw, p, {
    whole := by rw [hline, Parts.text, hafter]
    gap := hgap
    space := hspace
    afterStamp := by rw [hafter, htrim]
    trimmed := hmessage
    message := rfl
    dates := by rwa [hafter]
    grades := hgrades
    stamp := hstamp
    grade := by rwa [hafter] }⟩

/-- A line with one bracket of a timestamp, a level in brackets and white space of several kinds. -/
theorem line_kept_of_brackets :
    let line : Text := "\t[2024-05-01T12:00Z \u00a0[ Straße ]  disk] full "
    let d : Document :=
      ⟨⟨63850161600000000, by decide⟩, some "STRASSE", "disk] full", line, "/a"⟩
    document? ⟨0⟩ ⟨0, by decide⟩ "/a" line = .ok (some d) ∧
      d.raw = line ∧ ∃ p : Parts, p.MakeUp ⟨0⟩ ⟨0, by decide⟩ line d := by
  intro line d
  have hd : document? ⟨0⟩ ⟨0, by decide⟩ "/a" line = .ok (some d) := rfl
  exact ⟨hd, line_kept hd⟩

end LogSearch.Line
