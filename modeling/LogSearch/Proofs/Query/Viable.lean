import LogSearch.Proofs.Query.Parsing
import LogSearch.Proofs.Query.Places

/-!
# Where a query goes wrong

A fault of the syntax shows at the first place where the query cannot be continued any more.  The
tokens before this place are the beginning of a sentence of the grammar; at the place stands
something that cannot be read, or a token that no sentence has there, or the query ends and is no
sentence.

This rests on what the states of the automaton mean.  The automaton takes in a list of tokens
exactly when the list is viable, that is, the beginning of a sentence (`isViable_iff`): from every
state there is a way to a final one, which completes the condition that has been begun and closes
the parentheses that are open (`State.exists_run_isFinal`).  So a step is refused just where the
token makes a viable list one that is not viable.  The ending token is refused just where the list
is no sentence (`isSentence_iff`).
-/

namespace LogSearch.Query

/-- The tokens are a sentence of the grammar. -/
def IsSentence (ts : List Token) : Prop := ∃ d : Derivation .expression, d.tokens = ts

/-- The tokens are the beginning of a sentence. -/
def IsViable (ts : List Token) : Prop := ∃ more, IsSentence (ts ++ more)

/-! ## Completing what has been read -/

namespace State

/-- Nothing is missing to a sentence. -/
def IsFinal (s : State) : Prop := s.enclosing = [] ∧ ∃ term, s.expecting = .connective term

variable {s s' : State} {t : Token} {ts us : List Token} {fault : SyntaxFault}

lemma exists_finish_iff : (∃ e, s.finish t = .ok e) ↔ s.IsFinal := by
  obtain ⟨enclosing, level, expecting⟩ := s
  cases expecting with
  | connective term => cases enclosing <;> simp [finish, IsFinal]
  | _ => simp [finish, IsFinal]

/-- A condition that has been begun can be completed, and one can be begun where a factor is
expected. -/
lemma exists_run_connective (s : State) :
    ∃ more level term, s.run more = .ok ⟨s.enclosing, level, .connective term⟩ := by
  obtain ⟨enclosing, level, expecting⟩ := s
  cases expecting with
  | factor =>
    exact ⟨[⟨.word, [], 0⟩, ⟨.comparison .eq, [], 0⟩, ⟨.word, [], 0⟩], _, _, rfl⟩
  | operator field => exact ⟨[⟨.comparison .eq, [], 0⟩, ⟨.word, [], 0⟩], _, _, rfl⟩
  | value field op => exact ⟨[⟨.word, [], 0⟩], _, _, rfl⟩
  | connective term => exact ⟨[], level, term, rfl⟩

/-- Behind a factor, the open parentheses can be closed one after the other. -/
lemma exists_run_closing (enclosing : List Level) (level : Level) (term : Expr Condition) :
    ∃ more s, State.run ⟨enclosing, level, .connective term⟩ more = .ok s ∧ s.IsFinal := by
  induction enclosing generalizing level term with
  | nil => exact ⟨[], _, rfl, rfl, term, rfl⟩
  | cons outer enclosing ih =>
    obtain ⟨more, s, hrun, hfinal⟩ := ih outer (outer.withFactor (level.close term))
    exact ⟨⟨.rightParen, [], 0⟩ :: more, s, (run_cons (.closing rfl)).trans hrun, hfinal⟩

/-- From every state there is a way to a final one. -/
lemma exists_run_isFinal (s : State) : ∃ more s', s.run more = .ok s' ∧ s'.IsFinal := by
  obtain ⟨condition, level, term, hcondition⟩ := s.exists_run_connective
  obtain ⟨closing, s', hclosing, hfinal⟩ := exists_run_closing s.enclosing level term
  exact ⟨condition ++ closing, s', (run_append hcondition).trans hclosing, hfinal⟩

lemma exists_run_of_append (h : s.run (ts ++ us) = .ok s') :
    ∃ middle, s.run ts = .ok middle ∧ middle.run us = .ok s' := by
  induction ts generalizing s with
  | nil => exact ⟨s, rfl, h⟩
  | cons t rest ih =>
    obtain ⟨next, htakes, hrest⟩ := exists_takes_of_run h
    obtain ⟨middle, hmiddle, hlast⟩ := ih hrest
    exact ⟨middle, (run_cons htakes).trans hmiddle, hlast⟩

/-! ## Where the automaton stops -/

/-- A step that is refused has its fault at the token. -/
lemma position_of_step (h : s.step t = .error fault) : fault.position = some t.position := by
  obtain ⟨enclosing, level, expecting⟩ := s
  cases expecting <;> simp only [step] at h <;> split at h <;> cases h <;> rfl

lemma position_of_finish (h : s.finish t = .error fault) : fault.position = some t.position := by
  rw [finish] at h
  split at h <;> cases h <;> rfl

/-- A run that is refused is refused at a token, after those before it have been taken in. -/
lemma exists_step_of_run (h : s.run ts = .error fault) :
    ∃ before t after s', ts = before ++ t :: after ∧ s.run before = .ok s' ∧
      s'.step t = .error fault := by
  induction ts generalizing s with
  | nil => cases h
  | cons t rest ih =>
    cases hstep : s.step t with
    | error first =>
      rw [run, hstep] at h
      exact ⟨[], t, rest, s, rfl, rfl, hstep.trans h⟩
    | ok next =>
      have htakes := takes_of_step_eq hstep
      rw [run_cons htakes] at h
      obtain ⟨before, u, after, s', rfl, hbefore, hu⟩ := ih h
      exact ⟨t :: before, u, after, s', rfl, (run_cons htakes).trans hbefore, hu⟩

end State

/-! ## Sentences and their beginnings -/

variable {ts : List Token} {t : Token}

/-- The sentences are what the automaton takes in to a final state. -/
lemma isSentence_iff : IsSentence ts ↔ ∃ s, State.initial.run ts = .ok s ∧ s.IsFinal := by
  constructor
  · rintro ⟨d, rfl⟩
    obtain ⟨level, term, -, hrun⟩ := d.isRead []
    exact ⟨_, hrun, rfl, term, rfl⟩
  · rintro ⟨s, hrun, hfinal⟩
    obtain ⟨e, he⟩ := State.exists_finish_iff (t := ⟨.ending, [], 0⟩).2 hfinal
    obtain ⟨d, htokens, -⟩ := (State.initial_read.run hrun).finish he
    exact ⟨d, htokens⟩

/-- The viable lists are what the automaton takes in. -/
lemma isViable_iff : IsViable ts ↔ ∃ s, State.initial.run ts = .ok s := by
  constructor
  · rintro ⟨more, hsentence⟩
    obtain ⟨s, hrun, -⟩ := isSentence_iff.1 hsentence
    obtain ⟨middle, hmiddle, -⟩ := State.exists_run_of_append hrun
    exact ⟨middle, hmiddle⟩
  · rintro ⟨s, hrun⟩
    obtain ⟨more, s', hmore, hfinal⟩ := s.exists_run_isFinal
    exact ⟨more, isSentence_iff.2 ⟨s', (State.run_append hrun).trans hmore, hfinal⟩⟩

/-- No sentence goes on with a token that is refused. -/
lemma not_isViable_of_step {s : State} {fault : SyntaxFault} (hrun : State.initial.run ts = .ok s)
    (hstep : s.step t = .error fault) : ¬ IsViable (ts ++ [t]) := by
  rw [isViable_iff]
  rintro ⟨s', h⟩
  rw [State.run_append hrun] at h
  obtain ⟨next, htakes, -⟩ := State.exists_takes_of_run h
  rw [htakes.step_eq] at hstep
  cases hstep

/-- What is refused at its end is no sentence. -/
lemma not_isSentence_of_finish {s : State} {fault : SyntaxFault}
    (hrun : State.initial.run ts = .ok s) (hfinish : s.finish t = .error fault) :
    ¬ IsSentence ts := by
  rw [isSentence_iff]
  rintro ⟨s', hrun', hfinal⟩
  obtain rfl := Except.ok.inj (hrun.symm.trans hrun')
  obtain ⟨e, he⟩ := State.exists_finish_iff (t := t).2 hfinal
  rw [he] at hfinish
  cases hfinish

/-! ## The place of a fault -/

/-- What goes wrong at a place of a query, where nothing was wrong before. -/
inductive GoesWrongAt (query : Text) (place : Nat) : Prop where
  /-- What stands there cannot be read. -/
  | lexeme {cause : SyntaxCause} (hending : (tokens query).ending = .error ⟨cause, some place⟩)
      (hplace : Unreadable (query.drop place))
  /-- A token stands there with which no sentence goes on. -/
  | token {t : Token} {rest : Text} (ht : t ∈ (tokens query).tokens) (hplace : t.position = place)
      (hread : Reads (query.drop place) t.spelled rest)
      (hno : ¬ IsViable (tokensBefore query place ++ [t]))
  /-- The query ends there and is no sentence. -/
  | ending (hending : (tokens query).ending = .ok ⟨.ending, [], query.length⟩)
      (hplace : place = query.length) (hno : ¬ IsSentence (tokensBefore query place))

/-- **Faults of the syntax are found at the earliest place.**  A query that has no parse has a fault
with a place in it.  The tokens before the place can be completed to a sentence; and at the place
stands something that is no token, or a token with which no sentence goes on, or the query ends
there and is no sentence. -/
theorem parse_fault_earliest {query : Text} {fault : SyntaxFault} (h : parse query = .error fault) :
    ∃ place, fault.position = some place ∧ place ≤ query.length ∧
      IsViable (tokensBefore query place) ∧ GoesWrongAt query place := by
  obtain ⟨hreads, -, last, hends, -, hlast⟩ := tokens_standsIn query
  have hle := hends.le_length
  have hbefore : tokensBefore query last = (tokens query).tokens :=
    List.filter_eq_self.2 fun t ht => decide_eq_true (hlast t ht)
  cases hrun : State.initial.run (tokens query).tokens with
  | error first =>
    -- the grammar is violated by a token, and it does not matter how the text goes on
    rw [parse, hrun] at h
    obtain rfl : first = fault := Except.error.inj h
    obtain ⟨before, t, after, s, hsplit, hs, hstep⟩ := State.exists_step_of_run hrun
    have ht : t ∈ (tokens query).tokens := by simp [hsplit]
    obtain ⟨-, rest, hread⟩ := hreads t ht
    have htokens := tokensBefore_token hsplit
    refine ⟨t.position, State.position_of_step hstep, ?_, ?_, .token ht rfl hread ?_⟩
    · have hlt := hlast t ht
      omega
    · rw [htokens]
      exact isViable_iff.2 ⟨s, hs⟩
    · rw [htokens]
      exact not_isViable_of_step hs hstep
  | ok s =>
    have hviable : IsViable (tokensBefore query last) := by
      rw [hbefore]
      exact isViable_iff.2 ⟨s, hrun⟩
    rw [parse, hrun] at h
    generalize hending : (tokens query).ending = ending at h hends
    cases hends with
    | fault hplace =>
      obtain rfl := Except.error.inj h
      exact ⟨last, rfl, hle, hviable, .lexeme hending hplace⟩
    | ending =>
      refine ⟨query.length, State.position_of_finish h, le_rfl, hviable, .ending hending rfl ?_⟩
      rw [hbefore]
      exact not_isSentence_of_finish hrun h

/-- Behind a parenthesis stands a sign of equality, with which no sentence goes on.  The lone sign
behind it, which begins no token, is not reached. -/
theorem parse_fault_earliest_of_sign :
    let query : Text := "( =!"
    let fault := SyntaxFault.at (.missingField ⟨.comparison .eq, ['='], 2⟩)
      ⟨.comparison .eq, ['='], 2⟩
    parse query = .error fault ∧ tokensBefore query 2 = [⟨.leftParen, ['('], 0⟩] ∧
      IsViable (tokensBefore query 2) ∧ GoesWrongAt query 2 := by
  intro query fault
  have hopening : (Cursor.start query).next = (.ok ⟨.leftParen, ['('], 0⟩, ⟨1, " =!"⟩) := rfl
  have hequals : (Cursor.mk 1 " =!").next = (.ok ⟨.comparison .eq, ['='], 2⟩, ⟨3, "!"⟩) := rfl
  have hlone : (Cursor.mk 3 "!").next =
      (.error ⟨.unexpectedOperator '!', some 3⟩, ⟨4, []⟩) := rfl
  have htokens : tokens query = ⟨[⟨.leftParen, ['('], 0⟩, ⟨.comparison .eq, ['='], 2⟩],
      .error ⟨.unexpectedOperator '!', some 3⟩⟩ := by
    rw [tokens, Cursor.tokens_of_next hopening (by decide),
      Cursor.tokens_of_next hequals (by decide), Cursor.tokens_of_fault hlone]
  have hbefore : tokensBefore query 2 = [⟨.leftParen, ['('], 0⟩] := by
    rw [tokensBefore, htokens]
    rfl
  have hparse : parse query = .error fault := by
    rw [parse, htokens]
    rfl
  obtain ⟨place, hplace, -, hviable, hwrong⟩ := parse_fault_earliest hparse
  obtain rfl : 2 = place := Option.some.inj hplace
  exact ⟨hparse, hbefore, hviable, hwrong⟩

end LogSearch.Query
