import LogSearch.Json.Reader
import LogSearch.Json.Writer
import LogSearch.Proofs.Except
import LogSearch.Proofs.Text.Utf8
import Mathlib.Tactic.Lemma

/-!
# Written values read back

What `Json.write` puts down for a value is read by `Json.readValue` as this value, in both dialects
and in front of anything (`ReadsBack`).  Here it is proved for texts (`readsBack_text`) and, from
the values of its members, for an object in which no key occurs twice (`readsBack_object`); so it
holds of every value that is made of texts and objects.

Inside a text the machine of the reader is followed over what is written for one character: an
escape of two bytes, a number of four digits, or the bytes of the character itself, none of which is
a quote, a backslash or a control character (`stringBytes_escapeChar`).

No control character is written (`Text.OneLine`), whatever the value holds.  So a line feed between
written values is never part of one.
-/

namespace LogSearch

namespace Json

/-! ## Texts -/

lemma stringBytes_next {s state : StringState} {b : UInt8} {output : Bytes}
    (h : s.step b = .next output state) (rest : Bytes) :
    stringBytes s (b :: rest) =
      (stringBytes state rest).map fun r => (output ++ r.1, r.2) := by
  rw [stringBytes, h]

lemma stringBytes_escape {b : UInt8} {output : Bytes}
    (h : escapeStep b.toNat = .next output .plain) (rest : Bytes) :
    stringBytes .plain (92 :: b :: rest) =
      (stringBytes .plain rest).map fun r => (output ++ r.1, r.2) := by
  have hbackslash : StringState.plain.step 92 = .next [] .escape := rfl
  have hescaped : StringState.escape.step b = .next output .plain := h
  rw [stringBytes_next hbackslash, stringBytes_next hescaped, Except.map_map]
  rfl

/-- A byte that is none of the marks stands for itself. -/
lemma step_plain {b : UInt8} (hlow : 32 ≤ b.toNat) (hquote : b.toNat ≠ 34)
    (hbackslash : b.toNat ≠ 92) : StringState.plain.step b = .next [b] .plain := by
  simp only [StringState.step]
  rw [if_neg hquote, if_neg hbackslash, if_neg (by omega)]

lemma stringBytes_plain {bytes : Bytes}
    (h : ∀ b ∈ bytes, 32 ≤ b.toNat ∧ b.toNat ≠ 34 ∧ b.toNat ≠ 92) (rest : Bytes) :
    stringBytes .plain (bytes ++ rest) =
      (stringBytes .plain rest).map fun r => (bytes ++ r.1, r.2) := by
  induction bytes with
  | nil =>
    rw [List.nil_append]
    cases stringBytes .plain rest <;> rfl
  | cons b bytes ih =>
    obtain ⟨hlow, hquote, hbackslash⟩ := h b List.mem_cons_self
    rw [List.cons_append, stringBytes_next (step_plain hlow hquote hbackslash),
      ih fun b' hb' => h b' (List.mem_cons_of_mem _ hb'), Except.map_map]
    rfl

/-- A hexadecimal digit is one byte, with the value that it was written from. -/
lemma digit_byte : ∀ v < 16, ∃ b : UInt8,
    Utf8.encodeNat (Text.hexDigit v).toNat = [b] ∧ hexValue? b = some v := by
  have hdigits : ∀ v < 16, Utf8.encodeNat (Text.hexDigit v).toNat =
      [(Text.hexDigit v).toNat.toUInt8] ∧
      hexValue? (Text.hexDigit v).toNat.toUInt8 = some v := by decide
  exact fun v hv => ⟨_, hdigits v hv⟩

lemma step_digits {count value d : Nat} {high : Option Nat} {b : UInt8} (hcount : count ≠ 3)
    (hd : hexValue? b = some d) :
    (StringState.digits count value high).step b =
      .next [] (.digits (count + 1) (value * 16 + d) high) := by
  simp only [StringState.step, hd]
  rw [if_neg hcount]

/-- The last digit completes the unit. -/
lemma step_lastDigit {value d : Nat} {high : Option Nat} {b : UInt8} (hd : hexValue? b = some d) :
    (StringState.digits 3 value high).step b = unitStep (value * 16 + d) high := by
  simp only [StringState.step, hd, if_true]

lemma stringBytes_digit {count value v : Nat} {high : Option Nat} (hcount : count ≠ 3) (hv : v < 16)
    (rest : Bytes) :
    stringBytes (.digits count value high) (Utf8.encodeNat (Text.hexDigit v).toNat ++ rest) =
      stringBytes (.digits (count + 1) (value * 16 + v) high) rest := by
  obtain ⟨b, hb, hvalue⟩ := digit_byte v hv
  rw [hb, List.singleton_append, stringBytes_next (step_digits hcount hvalue)]
  cases stringBytes (.digits (count + 1) (value * 16 + v) high) rest <;> rfl

/-- A character that is written by its number, which is below those of the surrogates. -/
lemma stringBytes_unit {n : Nat} (hn : n < 0xD800) (rest : Bytes) :
    stringBytes .plain (Utf8.encode (['\\', 'u'] ++ Text.hex 4 n) ++ rest) =
      (stringBytes .plain rest).map fun r => (Utf8.encodeNat n ++ r.1, r.2) := by
  have hhex : Text.hex 4 n = [Text.hexDigit (n / 16 / 16 / 16 % 16),
      Text.hexDigit (n / 16 / 16 % 16), Text.hexDigit (n / 16 % 16), Text.hexDigit (n % 16)] := rfl
  have hstart : Utf8.encode ['\\', 'u'] = [92, 117] := rfl
  have hbackslash : StringState.plain.step 92 = .next [] .escape := rfl
  have hletter : StringState.escape.step 117 = .next [] (.digits 0 0 none) := rfl
  obtain ⟨b, hb, hvalue⟩ := digit_byte (n % 16) (Nat.mod_lt _ (by decide))
  have hunit : (((0 * 16 + n / 16 / 16 / 16 % 16) * 16 + n / 16 / 16 % 16) * 16 + n / 16 % 16) * 16
      + n % 16 = n := by omega
  have hlast : (StringState.digits 3
      (((0 * 16 + n / 16 / 16 / 16 % 16) * 16 + n / 16 / 16 % 16) * 16 + n / 16 % 16) none).step b =
        .next (Utf8.encodeNat n) .plain := by
    rw [step_lastDigit hvalue, hunit, unitStep]
    have hhigh : ¬ (0xD800 ≤ n) := by omega
    have hlow : ¬ (0xDC00 ≤ n) := by omega
    simp [hhigh, hlow]
  rw [Utf8.encode_append, hstart, hhex]
  simp only [Utf8.encode_cons, Utf8.encode_nil, List.append_nil, List.append_assoc,
    List.cons_append, List.nil_append]
  rw [stringBytes_next hbackslash, stringBytes_next hletter,
    stringBytes_digit (by decide) (Nat.mod_lt _ (by decide)),
    stringBytes_digit (by decide) (Nat.mod_lt _ (by decide)),
    stringBytes_digit (by decide) (Nat.mod_lt _ (by decide)), hb, List.singleton_append,
    stringBytes_next hlast, Except.map_map, Except.map_map]
  rfl

/-- The characters that are escaped by a letter of their own. -/
def shortEscapes : List Char :=
  ['"', '\\', Char.ofNat 8, Char.ofNat 12, '\n', '\r', '\t']

/-- A character is escaped by a letter of its own or by its number, or it stands for itself. -/
lemma escapeChar_cases (c : Char) :
    (∃ letter : Char, 0x20 ≤ letter.toNat ∧ escapeChar c = ['\\', letter] ∧
        Utf8.encodeNat letter.toNat = [letter.toNat.toUInt8] ∧
        escapeStep letter.toNat.toUInt8.toNat = .next (Utf8.encodeNat c.toNat) .plain) ∨
      (c.toNat < 0x20 ∧ escapeChar c = ['\\', 'u'] ++ Text.hex 4 c.toNat) ∨
      (0x20 ≤ c.toNat ∧ c ≠ '"' ∧ c ≠ '\\' ∧ escapeChar c = [c]) := by
  have hletters : ∀ c ∈ shortEscapes, ∃ letter : Char, 0x20 ≤ letter.toNat ∧
      escapeChar c = ['\\', letter] ∧ Utf8.encodeNat letter.toNat = [letter.toNat.toUInt8] ∧
      escapeStep letter.toNat.toUInt8.toNat = .next (Utf8.encodeNat c.toNat) .plain := by
    simp only [shortEscapes, List.forall_mem_cons]
    refine ⟨⟨'"', ?_⟩, ⟨'\\', ?_⟩, ⟨'b', ?_⟩, ⟨'f', ?_⟩, ⟨'n', ?_⟩, ⟨'r', ?_⟩, ⟨'t', ?_⟩,
      List.forall_mem_nil _⟩
    all_goals exact ⟨by decide, rfl, rfl, rfl⟩
  by_cases hshort : c ∈ shortEscapes
  · exact .inl (hletters c hshort)
  · have hescape : escapeChar c =
        if c.toNat < 0x20 then ['\\', 'u'] ++ Text.hex 4 c.toNat else [c] := by
      simp only [shortEscapes, List.mem_cons, List.not_mem_nil, or_false, not_or] at hshort
      obtain ⟨hquote, hbackslash, hbackspace, hform, hfeed, hreturn, htab⟩ := hshort
      rw [escapeChar, if_neg hquote, if_neg hbackslash, if_neg hbackspace, if_neg hform,
        if_neg hfeed, if_neg hreturn, if_neg htab]
    have hquote : c ≠ '"' := fun h => hshort (h ▸ List.mem_cons_self)
    have hbackslash : c ≠ '\\' := fun h => hshort (h ▸ List.mem_cons_of_mem _ List.mem_cons_self)
    by_cases hlow : c.toNat < 0x20
    · exact .inr (.inl ⟨hlow, by rw [hescape, if_pos hlow]⟩)
    · exact .inr (.inr ⟨Nat.le_of_not_lt hlow, hquote, hbackslash, by rw [hescape, if_neg hlow]⟩)

/-- A character is read back, whether it is escaped or stands for itself. -/
lemma stringBytes_escapeChar (c : Char) (rest : Bytes) :
    stringBytes .plain (Utf8.encode (escapeChar c) ++ rest) =
      (stringBytes .plain rest).map fun r => (Utf8.encodeNat c.toNat ++ r.1, r.2) := by
  rcases escapeChar_cases c with ⟨letter, -, hescape, hbyte, hstep⟩ | ⟨hlow, hescape⟩ |
    ⟨hlow, hquote, hbackslash, hescape⟩
  · have hbytes : Utf8.encode ['\\', letter] = [92, letter.toNat.toUInt8] := by
      rw [Utf8.encode_cons, Utf8.encode_cons, hbyte]
      rfl
    rw [hescape, hbytes]
    exact stringBytes_escape hstep rest
  · rw [hescape]
    exact stringBytes_unit (by omega) rest
  · rw [hescape, Utf8.encode_cons, Utf8.encode_nil, List.append_nil]
    refine stringBytes_plain (fun b hb => ?_) rest
    by_cases hascii : c.toNat < 0x80
    · rw [Utf8.encodeNat_of_lt hascii, List.mem_singleton] at hb
      have hvalue : b.toNat = c.toNat := by rw [hb, Utf8.toNat_toUInt8 (by omega)]
      have hne {d : Char} (hd : c ≠ d) : c.toNat ≠ d.toNat := fun h => hd (Char.toNat_inj.1 h)
      rw [hvalue]
      exact ⟨hlow, hne hquote, hne hbackslash⟩
    · have hhigh := Utf8.le_of_mem_encodeNat (by omega) (Utf8.toNat_lt c) hb
      omega

lemma readString_writeText (t : Text) (rest : Bytes) :
    readString (Utf8.encode (t.flatMap escapeChar ++ ['"']) ++ rest) = .ok (t, rest) := by
  have hbytes : stringBytes .plain (Utf8.encode (t.flatMap escapeChar ++ ['"']) ++ rest) =
      .ok (Utf8.encode t, rest) := by
    induction t with
    | nil => rfl
    | cons c t ih =>
      rw [List.flatMap_cons, List.append_assoc, Utf8.encode_append, List.append_assoc,
        stringBytes_escapeChar, ih]
      rfl
  rw [readString, hbytes]
  simp only [bind, Except.bind, Utf8.decode_encode]
  rfl

/-! ## Values -/

/-- What is written for a value is read as this value and leaves what follows it, in any dialect. -/
def ReadsBack (j : Json) : Prop :=
  ∀ (d : Dialect) {fuel : Nat} (rest : Bytes), (Utf8.encode (write j)).length < fuel →
    readValue d fuel (Utf8.encode (write j) ++ rest) = .ok (j, rest)

lemma dropWhile_isSpace {b : UInt8} (h : isSpace b = false) (rest : Bytes) :
    (b :: rest).dropWhile isSpace = b :: rest := by
  rw [List.dropWhile_cons, h]
  rfl

lemma encode_writeText (t : Text) (rest : Bytes) :
    Utf8.encode (writeText t) ++ rest =
      34 :: (Utf8.encode (t.flatMap escapeChar ++ ['"']) ++ rest) := rfl

lemma readsBack_text (t : Text) : ReadsBack (.text t) := by
  intro d fuel rest hfuel
  obtain ⟨fuel, rfl⟩ := Nat.exists_eq_add_one_of_ne_zero (Nat.ne_zero_of_lt hfuel)
  have hquote : (34 : UInt8).toNat = 34 := rfl
  rw [write, encode_writeText, readValue, dropWhile_isSpace rfl]
  simp only [hquote, if_true, readString_writeText]
  rfl

lemma readMembers_member {d : Dialect} {fuel : Nat} {key : Text} {j : Json} (hj : ReadsBack j)
    (hfuel : (Utf8.encode (write j)).length < fuel) (before : List (Text × Json)) {b : UInt8}
    (hb : isSpace b = false) (rest : Bytes) :
    readMembers d (fuel + 1) before
        (Utf8.encode (writeText key ++ [':'] ++ write j) ++ b :: rest) =
      if b.toNat = 44 then readMembers d fuel (put key j before) rest
      else if b.toNat = 125 then .ok (put key j before, rest)
      else .error .malformed := by
  have hcolon : Utf8.encode [':'] = [58] := rfl
  have hquote : (34 : UInt8).toNat = 34 := rfl
  have hmark : (58 : UInt8).toNat = 58 := rfl
  rw [Utf8.encode_append, Utf8.encode_append, List.append_assoc, List.append_assoc,
    encode_writeText, hcolon, List.singleton_append, readMembers, dropWhile_isSpace rfl]
  simp only [hquote, if_true, readString_writeText, bind, Except.bind]
  rw [dropWhile_isSpace rfl]
  simp only [hmark, if_true, hj d (b :: rest) hfuel]
  rw [dropWhile_isSpace hb]
  rfl

lemma put_of_notMem {key : Text} {value : Json} {before : List (Text × Json)}
    (h : key ∉ before.map Prod.fst) : put key value before = before ++ [(key, value)] := by
  induction before with
  | nil => rfl
  | cons member before ih =>
    rw [List.map_cons, List.mem_cons, not_or] at h
    obtain ⟨hhead, htail⟩ := h
    rw [put, if_neg (Ne.symm hhead), ih htail, List.cons_append]

lemma writeMembers_cons_cons (key : Text) (j : Json) (next : Text × Json)
    (ms : List (Text × Json)) :
    writeMembers ((key, j) :: next :: ms) =
      writeText key ++ [':'] ++ write j ++ [','] ++ writeMembers (next :: ms) := by
  rw [writeMembers]
  exact List.cons_ne_nil _ _

/-- The members of an object are read up to its closing brace. -/
lemma readMembers_writeMembers {d : Dialect} {ms : List (Text × Json)} (hne : ms ≠ [])
    (hvalues : ∀ m ∈ ms, ReadsBack m.2) {before : List (Text × Json)}
    (hkeys : ((before ++ ms).map Prod.fst).Nodup) {fuel : Nat}
    (hfuel : (Utf8.encode (writeMembers ms)).length < fuel) (rest : Bytes) :
    readMembers d fuel before (Utf8.encode (writeMembers ms) ++ 125 :: rest) =
      .ok (before ++ ms, rest) := by
  induction ms generalizing before fuel with
  | nil => exact absurd rfl hne
  | cons member ms ih =>
    obtain ⟨key, j⟩ := member
    obtain ⟨fuel, rfl⟩ := Nat.exists_eq_add_one_of_ne_zero (Nat.ne_zero_of_lt hfuel)
    have hj : ReadsBack j := hvalues _ List.mem_cons_self
    have hnew : key ∉ before.map Prod.fst := by
      rw [List.map_append, List.nodup_append] at hkeys
      exact fun hmem => hkeys.2.2 key hmem key List.mem_cons_self rfl
    have hcolon : 0 < (Utf8.encode (writeText key ++ [':'])).length := by
      rw [Utf8.encode_append, List.length_append]
      exact Nat.lt_add_left _ (by decide)
    cases ms with
    | nil =>
      rw [writeMembers, Utf8.encode_append, List.length_append] at hfuel
      rw [writeMembers, readMembers_member hj (by omega) before rfl, put_of_notMem hnew]
      rfl
    | cons next ms =>
      have hcomma : Utf8.encode [','] = [44] := rfl
      rw [writeMembers_cons_cons, Utf8.encode_append, Utf8.encode_append,
        Utf8.encode_append _ (write j), hcomma] at hfuel
      simp only [List.length_append, List.length_singleton] at hfuel
      have hmore : readMembers d fuel (before ++ [(key, j)])
          (Utf8.encode (writeMembers (next :: ms)) ++ 125 :: rest) =
            .ok (before ++ [(key, j)] ++ next :: ms, rest) :=
        ih (List.cons_ne_nil _ _) (fun m hm => hvalues m (List.mem_cons_of_mem _ hm))
          (by rwa [List.append_assoc]) (by omega)
      rw [writeMembers_cons_cons, Utf8.encode_append, Utf8.encode_append, hcomma, List.append_assoc,
        List.append_assoc, List.singleton_append, readMembers_member hj (by omega) before rfl,
        put_of_notMem hnew]
      exact hmore.trans (by rw [List.append_assoc, List.singleton_append])

/-- An object is read back if its values are and no key occurs twice. -/
lemma readsBack_object {ms : List (Text × Json)} (hkeys : (ms.map Prod.fst).Nodup)
    (hvalues : ∀ m ∈ ms, ReadsBack m.2) : ReadsBack (.object ms) := by
  intro d fuel rest hfuel
  obtain ⟨fuel, rfl⟩ := Nat.exists_eq_add_one_of_ne_zero (Nat.ne_zero_of_lt hfuel)
  have hopening : (123 : UInt8).toNat = 123 := rfl
  have hbytes : Utf8.encode (write (.object ms)) ++ rest =
      123 :: (Utf8.encode (writeMembers ms) ++ 125 :: rest) := by
    rw [write, Utf8.encode_append, List.append_assoc]
    rfl
  have hlength : (Utf8.encode (writeMembers ms)).length + 2 ≤
      (Utf8.encode (write (.object ms))).length := by
    have := congrArg List.length hbytes
    simp only [List.length_append, List.length_cons] at this
    omega
  rw [hbytes, readValue, dropWhile_isSpace rfl]
  simp only [hopening]
  cases ms with
  | nil => rfl
  | cons member ms =>
    have hfirst : ∃ more, Utf8.encode (writeMembers (member :: ms)) = 34 :: more := by
      obtain ⟨key, j⟩ := member
      cases ms with
      | nil => exact ⟨_, rfl⟩
      | cons next ms => exact ⟨_, rfl⟩
    have hread : readMembers d fuel []
        (Utf8.encode (writeMembers (member :: ms)) ++ 125 :: rest) = .ok (member :: ms, rest) :=
      readMembers_writeMembers (List.cons_ne_nil member ms) hvalues hkeys (by omega) rest
    obtain ⟨more, hmore⟩ := hfirst
    have hquote : (34 : UInt8).toNat = 34 := rfl
    rw [hmore, List.cons_append] at hread ⊢
    rw [dropWhile_isSpace rfl]
    simp only [hquote, hread, bind, Except.bind]
    rfl

/-- **A written value is read back as a document of its own.** -/
lemma ReadsBack.read {j : Json} (hj : ReadsBack j) (d : Dialect) :
    Json.read d (Utf8.encode (write j)) = .ok j := by
  have hfuel : (Utf8.encode (write j)).length < 2 * (Utf8.encode (write j)).length + 1 := by omega
  have hvalue := hj d [] hfuel
  rw [List.append_nil] at hvalue
  rw [Json.read, hvalue]
  rfl

/-! ## Lines -/

end Json

/-- The text holds no control character, so that it takes one line. -/
def Text.OneLine (t : Text) : Prop := ∀ c ∈ t, 0x20 ≤ c.toNat

namespace Text

lemma oneLine_append {t u : Text} : OneLine (t ++ u) ↔ OneLine t ∧ OneLine u :=
  List.forall_mem_append

lemma oneLine_singleton {c : Char} (h : 0x20 ≤ c.toNat) : OneLine [c] :=
  List.forall_mem_singleton.2 h

lemma oneLine_hex (width n : Nat) : OneLine (hex width n) := by
  have hdigit : ∀ v < 16, 0x20 ≤ (hexDigit v).toNat := by decide
  induction width generalizing n with
  | zero => exact List.forall_mem_nil _
  | succ width ih =>
    rw [hex, oneLine_append]
    exact ⟨ih _, oneLine_singleton (hdigit _ (Nat.mod_lt _ (by decide)))⟩

/-- The byte of a line feed is not among the bytes of one line. -/
lemma OneLine.notMem_encode {t : Text} (h : OneLine t) : 10 ∉ Utf8.encode t := by
  intro hmem
  have hfeed : Char.ofNat 10 ∈ t := Utf8.ofNat_mem_of_mem_encode (n := 10) (by decide) hmem
  exact absurd (h _ hfeed) (by decide)

end Text

namespace Json

open Text

lemma oneLine_escapeChar (c : Char) : OneLine (escapeChar c) := by
  have hbackslash : 0x20 ≤ '\\'.toNat := by decide
  rcases escapeChar_cases c with ⟨letter, hletter, hescape, -⟩ | ⟨-, hescape⟩ |
    ⟨hlow, -, -, hescape⟩
  · rw [hescape]
    exact List.forall_mem_cons.2 ⟨hbackslash, oneLine_singleton hletter⟩
  · rw [hescape, oneLine_append]
    exact ⟨List.forall_mem_cons.2 ⟨hbackslash, oneLine_singleton (by decide)⟩, oneLine_hex _ _⟩
  · rw [hescape]
    exact oneLine_singleton hlow

lemma oneLine_writeText (t : Text) : OneLine (writeText t) := by
  have hquote : OneLine ['"'] := oneLine_singleton (by decide)
  have hinside : OneLine (t.flatMap escapeChar) := by
    intro c hc
    obtain ⟨d, -, hc⟩ := List.mem_flatMap.1 hc
    exact oneLine_escapeChar d c hc
  exact oneLine_append.2 ⟨oneLine_append.2 ⟨hquote, hinside⟩, hquote⟩

lemma oneLine_writeMembers {ms : List (Text × Json)} (hvalues : ∀ m ∈ ms, OneLine (write m.2)) :
    OneLine (writeMembers ms) := by
  have hcolon : OneLine [':'] := oneLine_singleton (by decide)
  have hcomma : OneLine [','] := oneLine_singleton (by decide)
  induction ms with
  | nil => exact List.forall_mem_nil _
  | cons member ms ih =>
    obtain ⟨key, j⟩ := member
    have hmember : OneLine (writeText key ++ [':'] ++ write j) :=
      oneLine_append.2 ⟨oneLine_append.2 ⟨oneLine_writeText key, hcolon⟩,
        hvalues _ List.mem_cons_self⟩
    cases ms with
    | nil => exact hmember
    | cons next ms =>
      rw [writeMembers_cons_cons]
      exact oneLine_append.2 ⟨oneLine_append.2 ⟨hmember, hcomma⟩,
        ih fun m hm => hvalues m (List.mem_cons_of_mem _ hm)⟩

/-- An object takes one line if its values do. -/
lemma oneLine_write_object {ms : List (Text × Json)} (hvalues : ∀ m ∈ ms, OneLine (write m.2)) :
    OneLine (write (.object ms)) := by
  have hopening : OneLine ['\x7b'] := oneLine_singleton (by decide)
  have hclosing : OneLine ['\x7d'] := oneLine_singleton (by decide)
  rw [write]
  exact oneLine_append.2 ⟨oneLine_append.2 ⟨hopening, oneLine_writeMembers hvalues⟩, hclosing⟩

end Json

end LogSearch
