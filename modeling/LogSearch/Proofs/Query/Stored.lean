import LogSearch.Proofs.Document.Line
import LogSearch.Proofs.Query.Lexing
import LogSearch.Proofs.Query.Parsing
import LogSearch.Proofs.Query.Readback

/-!
# Asking for what is stored

A document is stored with its members as texts, and a query can ask for each of them: the name of
the member, the sign of equality and the escaped text in quotes.  `compile_question` says that this
query compiles, in any zone, and that its clause asks for exactly the text that is stored.  Two of
the members are changed on their way into the clause and need a reason why they come out as they
were.  A level is put in upper case, but a stored level is in upper case already
(`Text.upper_upper`).  A timestamp is read and written again, which gives the same text if its year
has four digits (`Instant.read?_text`); a year before 1000 is written in fewer digits, and then no
query can name it.
-/

namespace LogSearch

open Text

/-! ## Written timestamps -/

lemma Instant.isBlankText_text (i : Instant) : isBlankText i.text = false := by
  have hmem : 'Z' ∈ i.text := by simp [text]
  have hletter : isBlank 'Z' = false := by decide
  simp only [isBlankText, List.all_eq_false]
  exact ⟨'Z', hmem, by simp [hletter]⟩

namespace Query

/-! ## Questions -/

/-- The query that asks for a text in a field. -/
def question (field value : Text) : Text := field ++ " = " ++ "\"" ++ escapePhrase value ++ "\""

/-- The names of the members that a document can have. -/
def memberNames : List Text := ["timestamp", "level", "message", "raw", "source"]

/-- The name of a member is read as one word, which is not reserved and is in lower case. -/
lemma exists_read_memberName {field : Text} (hfield : field ∈ memberNames) (rest : Text) :
    ∃ c more, field = c :: more ∧ isBlank c = false ∧ lower field = field ∧
      Lexeme.read c (more ++ ' ' :: rest) = .token .word field (' ' :: rest) := by
  have hnames : ∀ name ∈ memberNames, ∃ c more, name = c :: more ∧ isBlank c = false ∧
      lower name = name ∧ c ∉ ("()\"=!<>" : Text) ∧ isWordChar c ∧
      more.all isWordChar ∧ Kind.ofWord name = .word := by
    simp only [memberNames, List.forall_mem_cons]
    refine ⟨?_, ?_, ?_, ?_, ?_, List.forall_mem_nil _⟩ <;> exact ⟨_, _, rfl, by decide +kernel⟩
  obtain ⟨c, more, rfl, hblank, hlower, hsign, hc, hmore, hkind⟩ := hnames field hfield
  have hend : ∀ d ∈ (' ' :: rest).head?, isWordChar d = false := by
    intro d hd
    obtain rfl : ' ' = d := by simpa using hd
    decide
  refine ⟨c, more, rfl, hblank, hlower, ?_⟩
  rw [Lexeme.read_word hsign hc (List.all_eq_true.1 hmore) hend, hkind]

/-- A question has three tokens: the name, the sign and the text, which is free of escapes again. -/
lemma exists_tokens_question {field : Text} (hfield : field ∈ memberNames) (value : Text) :
    ∃ sign quoted ending : Nat, tokens (question field value) =
      ⟨[⟨.word, field, 0⟩, ⟨.comparison .eq, ['='], sign⟩, ⟨.quoted, value, quoted⟩],
        .ok ⟨.ending, [], ending⟩⟩ := by
  let written : Text := escapePhrase value ++ ['"']
  obtain ⟨c, more, rfl, hblank, -, hword⟩ :=
    exists_read_memberName hfield ('=' :: ' ' :: '"' :: written)
  have hquestion : question (c :: more) value =
      c :: (more ++ ' ' :: '=' :: ' ' :: '"' :: written) := by simp [question, written]
  have hspace : isBlank ' ' := by decide
  have hsign : Lexeme.read '=' (' ' :: '"' :: written) =
      .token (.comparison .eq) ['='] (' ' :: '"' :: written) := rfl
  have hquoted : Lexeme.read '"' written = .token .quoted value [] :=
    Lexeme.read_quoted (unquote_escapePhrase value [])
  have hfirst := Cursor.next_of_read hblank hword 0
  generalize 0 + _ = first at hfirst
  have hsecond : (Cursor.mk first (' ' :: '=' :: ' ' :: '"' :: written)).next = _ :=
    (Cursor.next_blank hspace first _).trans (Cursor.next_of_read (by decide) hsign _)
  generalize first + 1 + _ = second at hsecond
  have hthird : (Cursor.mk second (' ' :: '"' :: written)).next = _ :=
    (Cursor.next_blank hspace second _).trans (Cursor.next_of_read (by decide) hquoted _)
  generalize second + 1 + _ = third at hthird
  refine ⟨first + 1, second + 1, third, ?_⟩
  rw [tokens, Cursor.start, hquestion, Cursor.tokens_of_next hfirst (by simp),
    Cursor.tokens_of_next hsecond (by simp), Cursor.tokens_of_next hthird (by simp),
    Cursor.tokens_nil]

lemma parse_question {field : Text} (hfield : field ∈ memberNames) (value : Text) :
    parse (question field value) = .ok (.leaf ⟨field, .eq, value⟩) := by
  obtain ⟨sign, quoted, ending, htokens⟩ := exists_tokens_question hfield value
  obtain ⟨-, -, -, -, hlower, -⟩ := exists_read_memberName hfield []
  let condition : Derivation .factor :=
    .condition ⟨.word, field, 0⟩ ⟨.comparison .eq, ['='], sign⟩ ⟨.quoted, value, quoted⟩ .eq rfl rfl
      (.inr rfl)
  refine parse_eq_ok_iff.2 ⟨⟨.ending, [], ending⟩,
    .expression (.term condition .noFactors) .noTerms, by rw [htokens], ?_, ?_⟩
  · rw [htokens]
    rfl
  · change Expr.leaf (Condition.mk (lower field) .eq value) = _
    rw [hlower]

lemma compile_question_of_clause {z : Zone} {field value : Text} {clause : Clause}
    (hfield : field ∈ memberNames) (hclause : Condition.clause z ⟨field, .eq, value⟩ = .ok clause) :
    compile z (question field value) = .ok clause.text := by
  have hblank : isBlankText (question field value) = false := by
    obtain ⟨c, more, rfl, hc, -⟩ := exists_read_memberName hfield []
    simp [question, isBlankText, hc]
  have hclauses : Expr.clauses z (.leaf ⟨field, .eq, value⟩) = .ok (.leaf clause) := by
    rw [Expr.clauses, Expr.traverse, hclause]
    rfl
  rw [compile, hblank, if_neg Bool.false_ne_true, parse_question hfield]
  change (Expr.clauses z (.leaf ⟨field, .eq, value⟩)).mapError _ >>= _ = _
  rw [hclauses]
  rfl

/-! ## Members -/

/-- The clause that asks for exactly the text in a member of a document. -/
def memberClause (field value : Text) : Text :=
  if field = "timestamp" then "timestamp:[" ++ value ++ " TO " ++ value ++ "]"
  else if field = "level" ∨ field = "source" then
    field ++ ".keyword:\"" ++ escapePhrase value ++ "\""
  else field ++ ":\"" ++ escapePhrase value ++ "\""

/-- The question for a text has the clause of the phrase, with the text as its target stores it. -/
lemma clause_of_phrase (z : Zone) {field : Text} {target : Target} (value : Text)
    (hfield : Field.ofName? field = some (.phrase target)) :
    Condition.clause z ⟨field, .eq, value⟩ = .ok (.phrase target (target.stored value) false) := by
  simp only [Condition.clause, hfield]
  rfl

lemma clause_of_timestamp {z : Zone} (field : Text) {value : Text} {i : Instant}
    (hfield : Field.ofName? field = some .timestamp) (hblank : isBlankText value = false)
    (hread : Instant.read? z value = .ok (some i)) :
    Condition.clause z ⟨field, .eq, value⟩ = .ok (.range .exactly i) := by
  simp only [Condition.clause, hfield, Bound.ofOperator?, hblank, hread]
  rfl

/-- The clause of a member is written as the clause of its condition. -/
lemma text_phrase {field : Text} {target : Target} (value : Text)
    (hfield : field ∈ memberNames) (htarget : Field.ofName? field = some (.phrase target)) :
    (Clause.phrase target value false).text = memberClause field value := by
  have hnames : ∀ name ∈ memberNames, ∀ target, Field.ofName? name = some (.phrase target) →
      name ≠ "timestamp" ∧ target.name =
        if name = "level" ∨ name = "source" then name ++ ".keyword" else name := by
    simp only [memberNames, List.forall_mem_cons]
    refine ⟨?_, ?_, ?_, ?_, ?_, List.forall_mem_nil _⟩ <;> intro target h <;> cases target <;>
      first | exact absurd h (by decide +kernel) | decide +kernel
  obtain ⟨hother, hname⟩ := hnames field hfield target htarget
  have htext : (Clause.phrase target value false).text =
      target.name ++ (":\"" ++ escapePhrase value ++ "\"") := by
    change target.name ++ ":\"" ++ escapePhrase value ++ "\"" = _
    simp
  rw [htext, hname, memberClause, if_neg hother]
  split <;> simp

/-- **What is stored can be asked for.**  Every member of the document of a line is a text, and the
question for it compiles to the clause that asks for exactly this text, if the year of the
timestamp has four digits. -/
theorem compile_question {z z' : Zone} {now : Instant} {source line : Text} {d : Document}
    (hd : Line.document? z now source line = .ok (some d))
    (hyear : 1000 ≤ (DateTime.ofMicros d.timestamp.micros).year) :
    ∀ member ∈ d.members, ∃ value, member.2 = .text value ∧
      compile z' (question member.1 value) = .ok (memberClause member.1 value) := by
  have hphrase : ∀ {field : Text} {target : Target} {value : Text}, field ∈ memberNames →
      Field.ofName? field = some (.phrase target) → target.stored value = value →
      compile z' (question field value) = .ok (memberClause field value) := by
    intro field target value hfield htarget hstored
    have hclause := clause_of_phrase z' value htarget
    rw [hstored] at hclause
    rw [compile_question_of_clause hfield hclause, text_phrase value hfield htarget]
  have hlevel : ∀ level, d.level = some level → Text.upper level = level :=
    fun level => Line.upper_level hd
  intro member hmember
  simp only [Document.members, List.mem_append, List.mem_cons, List.not_mem_nil, or_false,
    Option.mem_toList, Option.map_eq_some_iff] at hmember
  rcases hmember with (rfl | ⟨level, hsome, rfl⟩) | rfl | rfl | rfl
  · have hclause := clause_of_timestamp "timestamp" rfl d.timestamp.isBlankText_text
      (Instant.read?_text z' hyear)
    exact ⟨_, rfl, compile_question_of_clause List.mem_cons_self hclause⟩
  · exact ⟨_, rfl, hphrase (by simp [memberNames]) rfl (hlevel level hsome)⟩
  · exact ⟨_, rfl, hphrase (by simp [memberNames]) rfl rfl⟩
  · exact ⟨_, rfl, hphrase (by simp [memberNames]) rfl rfl⟩
  · exact ⟨_, rfl, hphrase (by simp [memberNames]) rfl rfl⟩

/-- A line with all its parts: the level becomes longer in upper case, and the message holds quotes
and a backslash. -/
theorem compile_question_of_sharp_s :
    let line : Text := "2024-05-01T12:00:00.5Z [straße] say \"hi\\\""
    let d : Document :=
      ⟨⟨63850161600500000, by decide⟩, some "STRASSE", "say \"hi\\\"", line, "/a"⟩
    Line.document? ⟨0⟩ ⟨0, by decide⟩ "/a" line = .ok (some d) ∧
      1000 ≤ (DateTime.ofMicros d.timestamp.micros).year ∧
      compile ⟨3600⟩ (question "level" "STRASSE") = .ok "level.keyword:\"STRASSE\"" ∧
      compile ⟨3600⟩ (question "timestamp" "2024-05-01T12:00:00.500Z") =
        .ok "timestamp:[2024-05-01T12:00:00.500Z TO 2024-05-01T12:00:00.500Z]" := by
  intro line d
  have hd : Line.document? ⟨0⟩ ⟨0, by decide⟩ "/a" line = .ok (some d) := rfl
  have hyear : 1000 ≤ (DateTime.ofMicros d.timestamp.micros).year := by decide +kernel
  have hmembers : ∀ member ∈ d.members, ∃ value, member.2 = .text value ∧
      compile ⟨3600⟩ (question member.1 value) = .ok (memberClause member.1 value) :=
    compile_question hd hyear
  have htext : d.timestamp.text = "2024-05-01T12:00:00.500Z" := by decide +kernel
  obtain ⟨timestamp, htimestamp, hfirst⟩ :=
    hmembers ("timestamp", .text d.timestamp.text) (by simp [Document.members])
  obtain ⟨level, hlevel, hsecond⟩ :=
    hmembers ("level", .text "STRASSE") (by simp [Document.members, d])
  obtain rfl := Json.text.inj htimestamp
  obtain rfl := Json.text.inj hlevel
  rw [htext] at hfirst
  exact ⟨hd, hyear, hsecond, hfirst⟩

end Query

end LogSearch
