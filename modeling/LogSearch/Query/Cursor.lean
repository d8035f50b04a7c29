import LogSearch.Query.Token
import LogSearch.Text.Basic
import LogSearch.Text.Numerals

/-!
# Reading tokens off a query

A `Cursor` is a place in a query: how many characters lie before it and what follows.
`Cursor.next` skips white space, reads one token and moves past it; at the end of the query
it answers the ending token as often as it is asked.  A word is the longest run of word
characters, a comparison the longest sign that fits, and a quoted text ends at its first
quote that no backslash precedes.

A fault leaves the cursor where reading can go on: before an unexpected character, after a
lone sign, and at the end of the query when a quote is missing.

`tokens` reads a whole query.  It ends because every token other than the ending one is at
least one character long (`Cursor.next_shortens`).
-/

namespace LogSearch.Query

/-- A place in a query: the number of characters before it, and the characters after it. -/
structure Cursor where
  position : Nat
  rest : Text
deriving DecidableEq, Repr

/-- The place before the first character of a query. -/
def Cursor.start (query : Text) : Cursor := ⟨0, query⟩

/-- The place at which only `rest`, an ending of what follows the cursor, is left. -/
def Cursor.moveTo (c : Cursor) (rest : Text) : Cursor :=
  ⟨c.position + (c.rest.length - rest.length), rest⟩

/-- The place after the white space that follows the cursor. -/
def Cursor.skipBlanks (c : Cursor) : Cursor := c.moveTo (c.rest.dropWhile Text.isBlank)

/-- A character of which words are made. -/
def isWordChar (c : Char) : Bool :=
  Text.isAlphanumeric c || c == '_' || c == '-' || c == ':' || c == '.' || c == '/'

/-- The quoted text whose opening quote has been read, and what follows its closing quote. A
backslash stands for the character after it. -/
def unquote : Text → Option (Text × Text)
  | [] => none
  | '"' :: rest => some ([], rest)
  | '\\' :: c :: rest => (unquote rest).map fun r => (c :: r.1, r.2)
  | c :: rest => (unquote rest).map fun r => (c :: r.1, r.2)

/-- What stands at the beginning of a text: a token, or a fault and where to go on. -/
inductive Lexeme where
  | token (kind : Kind) (text rest : Text)
  | fault (cause : SyntaxCause) (rest : Text)

/-- The lexeme that begins with the character `c`. -/
def Lexeme.read (c : Char) (after : Text) : Lexeme :=
  match c, after with
  | '(', _ => .token .leftParen ['('] after
  | ')', _ => .token .rightParen [')'] after
  | '"', _ =>
    match unquote after with
    | some (text, rest) => .token .quoted text rest
    | none => .fault .unterminatedText []
  | '=', '=' :: rest => .token (.comparison .eq) ['=', '='] rest
  | '!', '=' :: rest => .token (.comparison .neq) ['!', '='] rest
  | '>', '=' :: rest => .token (.comparison .gte) ['>', '='] rest
  | '<', '=' :: rest => .token (.comparison .lte) ['<', '='] rest
  | '=', _ => .token (.comparison .eq) ['='] after
  | '>', _ => .token (.comparison .gt) ['>'] after
  | '<', _ => .token (.comparison .lt) ['<'] after
  | '!', _ => .fault (.unexpectedOperator '!') after
  | _, _ =>
    if isWordChar c then
      let word := c :: after.takeWhile isWordChar
      .token (Kind.ofWord word) word (after.dropWhile isWordChar)
    else .fault (.unexpectedCharacter c) (c :: after)

/-- The next token, or the fault found in its place, and the cursor after it. -/
def Cursor.next (c : Cursor) : Except SyntaxFault Token × Cursor :=
  let here := c.skipBlanks
  match here.rest with
  | [] => (.ok ⟨.ending, [], here.position⟩, here)
  | ch :: after =>
    match Lexeme.read ch after with
    | .token kind text rest => (.ok ⟨kind, text, here.position⟩, here.moveTo rest)
    | .fault cause rest => (.error ⟨cause, some here.position⟩, here.moveTo rest)

theorem unquote_shortens {t : Text} {r : Text × Text} (h : unquote t = some r) :
    r.2.length < t.length := by
  fun_induction unquote t generalizing r with
  | case1 => simp at h
  | case2 rest =>
    obtain rfl := Option.some.inj h
    simp
  | case3 c rest ih =>
    obtain ⟨u, hu, rfl⟩ := Option.map_eq_some_iff.1 h
    have := ih hu
    simp only [List.length_cons]
    omega
  | case4 c rest _ _ ih =>
    obtain ⟨u, hu, rfl⟩ := Option.map_eq_some_iff.1 h
    have := ih hu
    simp only [List.length_cons]
    omega

theorem Lexeme.read_shortens {c : Char} {after : Text} {kind : Kind} {text rest : Text}
    (h : Lexeme.read c after = .token kind text rest) : rest.length ≤ after.length := by
  have hw := (List.dropWhile_suffix (l := after) isWordChar).length_le
  unfold Lexeme.read at h
  split at h
  case h_3 =>
    split at h
    next hq =>
      simp only [Lexeme.token.injEq] at h
      have := unquote_shortens hq
      rw [← h.2.2]
      exact Nat.le_of_lt this
    next => simp at h
  case h_12 =>
    split at h
    next =>
      simp only [Lexeme.token.injEq] at h
      rw [← h.2.2]
      exact hw
    next => simp at h
  all_goals simp at h
  all_goals simp [← h.2.2]

theorem Cursor.length_skipBlanks_le (c : Cursor) :
    c.skipBlanks.rest.length ≤ c.rest.length :=
  (List.dropWhile_suffix (l := c.rest) Text.isBlank).length_le

/-- A token other than the ending one takes at least one character. -/
theorem Cursor.next_shortens {c after : Cursor} {t : Token}
    (h : c.next = (.ok t, after)) (ht : t.kind ≠ .ending) :
    after.rest.length < c.rest.length := by
  have hs := c.length_skipBlanks_le
  unfold Cursor.next at h
  simp only at h
  split at h
  next =>
    simp only [Prod.mk.injEq, Except.ok.injEq] at h
    exact absurd (h.1 ▸ rfl) ht
  next ch rest hr =>
    rw [hr, List.length_cons] at hs
    split at h
    next hl =>
      have := Lexeme.read_shortens hl
      simp only [Prod.mk.injEq] at h
      rw [← h.2]
      simp only [Cursor.moveTo]
      omega
    next => simp at h

/-- What follows a cursor: the tokens, and what comes after them, which is the ending token or
the first fault. -/
structure TokenStream where
  tokens : List Token
  ending : Except SyntaxFault Token

/-- The tokens from a cursor on. -/
def Cursor.tokens (c : Cursor) : TokenStream :=
  match _h : c.next with
  | (.error fault, _) => ⟨[], .error fault⟩
  | (.ok t, after) =>
    if _ht : t.kind = .ending then ⟨[], .ok t⟩
    else
      let more := after.tokens
      ⟨t :: more.tokens, more.ending⟩
termination_by c.rest.length
decreasing_by exact Cursor.next_shortens ‹_› ‹_›

/-- The tokens of a query. -/
def tokens (query : Text) : TokenStream := (Cursor.start query).tokens

end LogSearch.Query
