import LogSearch.Proofs.Query.NormalForm
import LogSearch.Proofs.Time.Written
import LogSearch.Query.Cursor

/-!
# Compiled queries read back

What is written for an expression determines its normal form.  `readQuery?` is a reader of the
language in which clauses are written: quoted phrases with their escapes, ranges, negations,
joined expressions in parentheses, and one joined expression without them, which is the whole
text.  It goes through the text from the front and never looks at what comes after the part that
it reads.  So the lemmas here have a rest behind the written part, and they say that the
reader stops exactly there; that a value can hold quotes, parentheses, connectives and
everything else that has a meaning in the language is no case of its own.

* `unquote_escapePhrase`: a phrase ends at the quote that was written to end it,
* `readRange?_text`: a range is read as its bound and its moment,
* `readUnit?_nested`: an expression is read as itself,
* `written_iff_normal`: two expressions are written in the same way if and only if they have the
  same normal form, and the reader recovers it.
-/

namespace LogSearch

namespace Query

/-! ## The reader -/

/-- The target with a name. -/
def Target.ofName? (name : Text) : Option Target :=
  [Target.level, .message, .raw, .source].find? (·.name = name)

/-- What an opening bracket says: whether the range includes its bound, and the bracket that
closes it. -/
def openBracket? : Text → Option (Bool × Char × Text)
  | '[' :: rest => some (true, ']', rest)
  | '\x7b' :: rest => some (false, '\x7d', rest)
  | _ => none

/-- The bound that the two ends of a range express, and its moment; a star is an open end. -/
def Bound.ofEnds? (inclusive : Bool) (lower upper : Text) : Option (Bound × Text) :=
  if lower = ['*'] then some (if inclusive then .upTo else .before, upper)
  else if upper = ['*'] then some (if inclusive then .from else .after, lower)
  else if inclusive ∧ lower = upper then some (.exactly, lower)
  else none

/-- The range at the beginning of a text, and what follows it. -/
def readRange? (t : Text) : Option (Atom × Text) := do
  let (inclusive, closing, t) ← openBracket? t
  let (lower, t) ← Text.cutAt? ' ' t
  let (upper, t) ← Text.cutAt? closing (← Text.after? "TO " t)
  let (bound, moment) ← Bound.ofEnds? inclusive lower upper
  return (.range bound (← Instant.ofText? moment), t)

/-- The atom whose name has been read, and what follows it. -/
def readClause? (name t : Text) : Option (Atom × Text) :=
  if name = "timestamp" then readRange? t
  else do
    let target ← Target.ofName? name
    let (value, t) ← unquote (← Text.after? "\"" t)
    return (.phrase target value, t)

/-- The atom at the beginning of a text, and what follows it. -/
def readAtom? (t : Text) : Option (Atom × Text) := do
  let (name, t) ← Text.cutAt? ':' t
  readClause? name t

/-- The connective at the beginning of a text, between blanks, and what follows it. -/
def readConnective? (t : Text) : Option (Connective × Text) :=
  match Text.after? " AND " t, Text.after? " OR " t with
  | some t, _ => some (.and, t)
  | none, some t => some (.or, t)
  | none, none => none

/-- The expression at the beginning of a text that is an atom, a negation or in parentheses, and
what follows it.  It is looked for down to a depth of nesting. -/
def readUnit? : Nat → Text → Option (Expr Atom × Text)
  | 0, _ => none
  | depth + 1, t =>
    match Text.after? "NOT (" t, Text.after? "(" t with
    | some t, _ => do
      let (child, t) ← readUnit? depth t
      return (.negation child, ← Text.after? ")" t)
    | none, some t => do
      let (left, t) ← readUnit? depth t
      let (op, t) ← readConnective? t
      let (right, t) ← readUnit? depth t
      return (.binary op left right, ← Text.after? ")" t)
    | none, none => do
      let (a, t) ← readAtom? t
      return (.leaf a, t)

/-- The expression that a whole text writes, with its parts looked for down to a depth. -/
def readWhole? (depth : Nat) (t : Text) : Option (Expr Atom) := do
  let (left, t) ← readUnit? depth t
  if t = [] then return left
  else
    let (op, t) ← readConnective? t
    let (right, t) ← readUnit? depth t
    if t = [] then return .binary op left right else none

/-- The expression that a whole text writes.  It nests no deeper than the text is long. -/
def readQuery? (t : Text) : Option (Expr Atom) := readWhole? (t.length + 1) t

/-! ## Phrases and ranges -/

/-- A written value is unquoted up to the quote that ends it, whatever follows. -/
lemma unquote_escapePhrase (value rest : Text) :
    unquote (escapePhrase value ++ '"' :: rest) = some (value, rest) := by
  induction value with
  | nil => rfl
  | cons c value ih =>
    have hsplit : escapePhrase (c :: value) ++ '"' :: rest =
        escapeChar c ++ (escapePhrase value ++ '"' :: rest) := by
      simp [escapePhrase]
    rw [hsplit, escapeChar]
    split
    next =>
      rw [List.cons_append, List.cons_append, List.nil_append, unquote, ih]
      rfl
    next hplain =>
      obtain ⟨hbackslash, hquote⟩ := not_or.1 hplain
      rw [List.cons_append, List.nil_append, unquote, ih]
      · rfl
      · exact hquote
      · exact fun _ _ h => absurd h hbackslash

/-- A range is taken apart at its brackets, the blank after its lower end and the word between its
ends. -/
lemma readRange?_ends {opening closing : Char} {inclusive : Bool} {lower upper : Text}
    (hopen : ∀ t, openBracket? (opening :: t) = some (inclusive, closing, t)) (hlower : ' ' ∉ lower)
    (hupper : closing ∉ upper) (rest : Text) :
    readRange? (opening :: (lower ++ ' ' :: ("TO " ++ (upper ++ closing :: rest)))) =
      (Bound.ofEnds? inclusive lower upper).bind fun r =>
        (Instant.ofText? r.2).map fun moment => (.range r.1 moment, rest) := by
  rw [readRange?]
  simp only [hopen, Text.cutAt?_append hlower, Text.after?_append, Text.cutAt?_append hupper,
    Option.bind_eq_bind, Option.bind_some]
  cases Bound.ofEnds? inclusive lower upper with
  | none => rfl
  | some r => cases hmoment : Instant.ofText? r.2 <;> simp [hmoment]

/-- A range is written with two ends, each the moment or a star, and the brackets and the ends
express the bound. -/
lemma Bound.exists_ends (bound : Bound) (moment : Text) :
    ∃ opening closing inclusive lower upper,
      (∀ t, openBracket? (opening :: t) = some (inclusive, closing, t)) ∧
      (closing = ']' ∨ closing = '\x7d') ∧
      bound.text moment = opening :: (lower ++ ' ' :: ("TO " ++ (upper ++ [closing]))) ∧
      (lower = ['*'] ∨ lower = moment) ∧ (upper = ['*'] ∨ upper = moment) ∧
      (moment ≠ ['*'] → Bound.ofEnds? inclusive lower upper = some (bound, moment)) := by
  cases bound with
  | exactly =>
    refine ⟨'[', ']', true, moment, moment, fun _ => rfl, .inl rfl, ?_, .inr rfl, .inr rfl, ?_⟩
    · change ("[" : Text) ++ moment ++ " TO " ++ moment ++ "]" = _
      simp
    · exact fun h => by simp [ofEnds?, h]
  | after =>
    refine ⟨'\x7b', '\x7d', false, moment, ['*'], fun _ => rfl, .inr rfl, ?_, .inr rfl,
      .inl rfl, ?_⟩
    · change ("\x7b" : Text) ++ moment ++ " TO *\x7d" = _
      simp
    · exact fun h => by simp [ofEnds?, h]
  | «from» =>
    refine ⟨'[', ']', true, moment, ['*'], fun _ => rfl, .inl rfl, ?_, .inr rfl, .inl rfl, ?_⟩
    · change ("[" : Text) ++ moment ++ " TO *]" = _
      simp
    · exact fun h => by simp [ofEnds?, h]
  | before =>
    refine ⟨'\x7b', '\x7d', false, ['*'], moment, fun _ => rfl, .inr rfl, ?_, .inl rfl,
      .inr rfl, ?_⟩
    · change ("\x7b* TO " : Text) ++ moment ++ "\x7d" = _
      simp
    · exact fun _ => rfl
  | upTo =>
    refine ⟨'[', ']', true, ['*'], moment, fun _ => rfl, .inl rfl, ?_, .inl rfl, .inr rfl, ?_⟩
    · change ("[* TO " : Text) ++ moment ++ "]" = _
      simp
    · exact fun _ => rfl

/-- A written range is read as its bound and its moment. -/
lemma readRange?_text (bound : Bound) (moment : Instant) (rest : Text) :
    readRange? (bound.text moment.text ++ rest) = some (.range bound moment, rest) := by
  obtain ⟨opening, closing, inclusive, lower, upper, hopen, hbracket, htext, hlower, hupper,
    hends⟩ := bound.exists_ends moment.text
  have hstar : moment.text ≠ ['*'] := by
    intro h
    have hnot : '*' ∉ moment.text := moment.not_mem_text (by decide) (by decide)
    exact hnot (by simp [h])
  have hblank : ' ' ∉ lower := by
    rcases hlower with hlower | hlower <;> rw [hlower]
    · decide
    · exact moment.not_mem_text (by decide) (by decide)
  have hclosing : closing ∉ upper := by
    rcases hbracket with rfl | rfl <;> rcases hupper with hupper | hupper <;> rw [hupper]
    · decide
    · exact moment.not_mem_text (by decide) (by decide)
    · decide
    · exact moment.not_mem_text (by decide) (by decide)
  have hwritten : bound.text moment.text ++ rest =
      opening :: (lower ++ ' ' :: ("TO " ++ (upper ++ closing :: rest))) := by
    rw [htext]
    simp
  rw [hwritten, readRange?_ends hopen hblank hclosing, hends hstar, Option.bind_some,
    moment.ofText?_text, Option.map_some]

/-! ## Expressions -/

lemma readAtom?_name {name : Text} (hname : ':' ∉ name) (t : Text) :
    readAtom? (name ++ ':' :: t) = readClause? name t := by
  rw [readAtom?, Text.cutAt?_append hname]
  rfl

lemma readAtom?_text (a : Atom) (rest : Text) :
    readAtom? (a.clause.text ++ rest) = some (a, rest) := by
  cases a with
  | phrase target value =>
    have hname : ':' ∉ target.name := by cases target <;> decide
    have hphrase : target.name ≠ "timestamp".toList := by cases target <;> decide
    have htarget : Target.ofName? target.name = some target := by cases target <;> rfl
    have hwritten : (Atom.phrase target value).clause.text ++ rest =
        target.name ++ ':' :: ("\"" ++ (escapePhrase value ++ '"' :: rest)) := by
      change target.name ++ ":\"" ++ escapePhrase value ++ "\"" ++ rest = _
      simp
    rw [hwritten, readAtom?_name hname, readClause?, if_neg hphrase]
    simp only [htarget, Text.after?_append, unquote_escapePhrase, Option.bind_eq_bind,
      Option.bind_some, Option.pure_def]
  | range bound moment =>
    have hname : ':' ∉ ("timestamp" : Text) := by decide
    have hwritten : (Atom.range bound moment).clause.text ++ rest =
        "timestamp" ++ ':' :: (bound.text moment.text ++ rest) := by
      change "timestamp:" ++ bound.text moment.text ++ rest = _
      simp
    rw [hwritten, readAtom?_name hname, readClause?, if_pos rfl, readRange?_text]

lemma readConnective?_name (op : Connective) (rest : Text) :
    readConnective? (" " ++ (op.name ++ (" " ++ rest))) = some (op, rest) := by
  cases op with
  | and =>
    have hand : Text.after? " AND " (" " ++ (Connective.and.name ++ (" " ++ rest))) = some rest :=
      Text.after?_append " AND " rest
    rw [readConnective?, hand]
  | or =>
    have hor : Text.after? " OR " (" " ++ (Connective.or.name ++ (" " ++ rest))) = some rest :=
      Text.after?_append " OR " rest
    rw [readConnective?, hor]
    rfl

/-- An atom does not begin like a negation or like an expression in parentheses. -/
lemma after?_atom (a : Atom) (rest : Text) :
    Text.after? "NOT (" (a.clause.text ++ rest) = none ∧
      Text.after? "(" (a.clause.text ++ rest) = none := by
  cases a with
  | phrase target value => cases target <;> exact ⟨rfl, rfl⟩
  | range bound moment => exact ⟨rfl, rfl⟩

/-- An expression is read as itself, down to any depth above the length of its text. -/
lemma readUnit?_nested {e : Expr Atom} :
    ∀ {depth : Nat}, e.plain.nested.length < depth → ∀ rest : Text,
      readUnit? depth (e.plain.nested ++ rest) = some (e, rest) := by
  induction e with
  | leaf a =>
    intro depth hdepth rest
    cases depth with
    | zero => exact absurd hdepth (Nat.not_lt_zero _)
    | succ depth =>
      obtain ⟨hnegation, hparen⟩ := after?_atom a rest
      have hwritten : (Expr.leaf a).plain.nested = a.clause.text := rfl
      rw [hwritten, readUnit?, hnegation, hparen]
      simp only [readAtom?_text, Option.bind_eq_bind, Option.bind_some, Option.pure_def]
  | negation child ih =>
    intro depth hdepth rest
    cases depth with
    | zero => exact absurd hdepth (Nat.not_lt_zero _)
    | succ depth =>
      have hwritten : (Expr.negation child).plain.nested =
          "NOT (" ++ child.plain.nested ++ ")" := Expr.nested_negation _
      have hchild : child.plain.nested.length < depth := by
        rw [hwritten, List.length_append, List.length_append] at hdepth
        have hlength : ("NOT (" : Text).length = 5 := rfl
        omega
      rw [hwritten, List.append_assoc, List.append_assoc, readUnit?, Text.after?_append]
      simp only [ih hchild, Text.after?_append, Option.bind_eq_bind, Option.bind_some,
        Option.pure_def]
  | binary op left right ihleft ihright =>
    intro depth hdepth rest
    cases depth with
    | zero => exact absurd hdepth (Nat.not_lt_zero _)
    | succ depth =>
      have hwritten : (Expr.binary op left right).plain.nested = "(" ++ left.plain.nested ++ " " ++
          op.name ++ " " ++ right.plain.nested ++ ")" := Expr.nested_binary _ _ _
      have hchildren : left.plain.nested.length < depth ∧ right.plain.nested.length < depth := by
        rw [hwritten] at hdepth
        simp only [List.length_append] at hdepth
        have hparen : ("(" : Text).length = 1 := rfl
        omega
      have hnegation : ∀ t, Text.after? "NOT (" ("(" ++ t) = none := fun _ => rfl
      rw [hwritten]
      simp only [List.append_assoc]
      rw [readUnit?, hnegation, Text.after?_append]
      simp only [ihleft hchildren.1, ihright hchildren.2, readConnective?_name, Text.after?_append,
        Option.bind_eq_bind, Option.bind_some, Option.pure_def]

/-- A unit that is the whole text is the expression. -/
lemma readWhole?_nested {e : Expr Atom} {depth : Nat} (hdepth : e.plain.nested.length < depth) :
    readWhole? depth e.plain.nested = some e := by
  have hread := readUnit?_nested hdepth []
  rw [List.append_nil] at hread
  rw [readWhole?, hread]
  rfl

/-- **A written expression is read as itself.** -/
lemma readQuery?_text (e : Expr Atom) : readQuery? e.plain.text = some e := by
  have hdepth : e.plain.text.length < e.plain.text.length + 1 := Nat.lt_succ_self _
  rw [readQuery?]
  generalize e.plain.text.length + 1 = depth at hdepth ⊢
  cases e with
  | leaf a => exact readWhole?_nested hdepth
  | negation child => exact readWhole?_nested hdepth
  | binary op left right =>
    have hwritten : (Expr.binary op left right).plain.text =
        left.plain.nested ++ (" ".toList ++ (op.name ++ (" ".toList ++ right.plain.nested))) := by
      rw [Expr.plain, Expr.text_binary]
      simp only [List.append_assoc]
    have hchildren : left.plain.nested.length < depth ∧ right.plain.nested.length < depth := by
      rw [hwritten] at hdepth
      simp only [List.length_append] at hdepth
      omega
    have hright := readUnit?_nested hchildren.2 []
    rw [List.append_nil] at hright
    rw [hwritten, readWhole?, readUnit?_nested hchildren.1]
    simp only [readConnective?_name, hright, Option.bind_eq_bind, Option.bind_some,
      Option.pure_def, if_true]
    rw [if_neg (by simp)]

/-! ## Faithfulness -/

/-- **Written queries are faithful.**  For all expressions with clauses, whatever their values:

* they are written in the same way if and only if they have the same normal form, and
* the reader recovers the normal form from what is written.

Nothing that a value contains can therefore change the structure of the query that is sent. -/
theorem written_iff_normal {z : Zone} {e₁ e₂ : Expr Condition} {clauses₁ clauses₂ : Expr Clause}
    (h₁ : e₁.clauses z = .ok clauses₁) (h₂ : e₂.clauses z = .ok clauses₂) :
    (clauses₁.text = clauses₂.text ↔ e₁.normal? z = e₂.normal? z) ∧
      ∃ normal, e₁.normal? z = some normal ∧ readQuery? clauses₁.text = some normal := by
  have hread : ∀ clauses : Expr Clause, readQuery? clauses.text = some clauses.normal := by
    intro clauses
    rw [← clauses.text_plain_normal, readQuery?_text]
  rw [Expr.normal?_of_clauses h₁, Expr.normal?_of_clauses h₂]
  refine ⟨⟨?_, ?_⟩, clauses₁.normal, rfl, hread clauses₁⟩
  · intro htext
    rw [← hread, ← hread, htext]
  · intro hnormal
    rw [← clauses₁.text_plain_normal, ← clauses₂.text_plain_normal, Option.some.inj hnormal]

/-- Two expressions whose values hold quotes, backslashes, parentheses and connectives. -/
theorem written_iff_normal_of_quotes :
    let z : Zone := ⟨0⟩
    let e₁ : Expr Condition := .binary .and (.leaf ⟨"level", .eq, "a\") OR (\\"⟩)
      (.leaf ⟨"text", .neq, "\\\" AND b"⟩)
    let e₂ : Expr Condition := .binary .and (.leaf ⟨"level", .contains, "A\") Or (\\"⟩)
      (.negation (.leaf ⟨"raw", .eq, "\\\" AND b"⟩))
    ∃ clauses₁ clauses₂, e₁.clauses z = .ok clauses₁ ∧ e₂.clauses z = .ok clauses₂ ∧
      (clauses₁.text = clauses₂.text ↔ e₁.normal? z = e₂.normal? z) ∧
        ∃ normal, e₁.normal? z = some normal ∧ readQuery? clauses₁.text = some normal :=
  ⟨_, _, rfl, rfl, written_iff_normal rfl rfl⟩

end Query

end LogSearch
