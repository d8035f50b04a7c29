import LogSearch.Proofs.Json.Reading

/-!
# Documents whose texts are not UTF-8

A document is read from its beginning, and the reading ends at the first fault.  If everything is
JSON up to the end of some text and this text is the first one that is not UTF-8, then that is the
fault (`BreaksOff`), whatever comes after the text.  `read_eq_encoding_iff` says that no other
documents have a fault of this kind.

Bytes that are UTF-8 do not break off (`BreaksOff.not_isText`).  All marks of a document are bytes
of ASCII, so what stands between two of them is UTF-8 if the document is; and what an escape stands
for always is.
-/

namespace LogSearch.Json

open Utf8

/-! ## Where a document breaks off -/

/-- The parts of a document in which it can break off. -/
inductive Part where
  | value | element | items | member | members

/-- At the front of the input stands the beginning of a part of a document, which ends with a text
that is not UTF-8. -/
inductive BreaksOff : Part → Bytes → Prop
  | text {input bytes rest : Bytes} (h : Spells input bytes rest) (hbytes : ¬ IsText bytes) :
    BreaksOff .value (34 :: input)
  | list {input : Bytes} (h : BreaksOff .items input) : BreaksOff .value (91 :: input)
  | object {input : Bytes} (h : BreaksOff .members input) : BreaksOff .value (123 :: input)
  | element {input start : Bytes} (hbefore : Space input start) (h : BreaksOff .value start) :
    BreaksOff .element input
  | firstItem {input : Bytes} (h : BreaksOff .element input) : BreaksOff .items input
  | laterItem {j : Json} {input more : Bytes} (hitem : Derives (.element j) input (44 :: more))
      (h : BreaksOff .items more) : BreaksOff .items input
  | key {input literal bytes rest : Bytes} (hbefore : Space input (34 :: literal))
      (h : Spells literal bytes rest) (hbytes : ¬ IsText bytes) : BreaksOff .member input
  | memberValue {key : Text} {input literal after value : Bytes}
      (hbefore : Space input (34 :: literal)) (hkey : Spells literal (encode key) after)
      (hafter : Space after (58 :: value)) (h : BreaksOff .element value) : BreaksOff .member input
  | firstMember {input : Bytes} (h : BreaksOff .member input) : BreaksOff .members input
  | laterMember {key : Text} {j : Json} {input more : Bytes}
      (hmember : Derives (.member key j) input (44 :: more)) (h : BreaksOff .members more) :
    BreaksOff .members input

/-! ## UTF-8 does not break off -/

section IsText

variable {p : Part} {digits input bytes rest : Bytes} {n : Nat}

lemma isText_of_follows (h : Follows input rest) (hinput : IsText input) : IsText rest := by
  obtain ⟨front, b, rfl, hb⟩ := h
  exact (hinput.of_append_cons hb).2

lemma isText_of_space (h : Space input rest) (hinput : IsText input) : IsText rest := by
  rcases h.eq_or_follows with rfl | h
  · exact hinput
  · exact isText_of_follows h hinput

lemma lt_of_hexValue? {b : UInt8} (h : hexValue? b = some n) : b.toNat < 0x80 ∧ n < 16 := by
  simp only [hexValue?] at h
  grind

lemma CodeUnit.lt (h : CodeUnit digits n rest) : n < 0x10000 := by
  obtain ⟨ha, hb, hc, hd⟩ := h
  have := (lt_of_hexValue? ha).2
  have := (lt_of_hexValue? hb).2
  have := (lt_of_hexValue? hc).2
  have := (lt_of_hexValue? hd).2
  omega

lemma CodeUnit.follows (h : CodeUnit digits n rest) : Follows digits rest := by
  obtain ⟨ha, hb, hc, hd⟩ := h
  exact (follows_cons (lt_of_hexValue? hd).1).append_left [_, _, _]

lemma lt_of_lookup_escapes : ∀ letter : UInt8, ∀ b ∈ escapes.lookup letter,
    letter.toNat < 0x80 ∧ b.toNat < 0x80 :=
  forall_byte (by decide +kernel)

lemma isText_unit (hunit : CodeUnit digits n rest) (hhigh : ¬ IsHigh n) (hlow : ¬ IsLow n) :
    IsText (encodeNat n) := by
  have hmax := hunit.lt
  rw [IsHigh] at hhigh
  rw [IsLow] at hlow
  refine isText_encodeNat ?_
  rw [Nat.isValidChar]
  omega

lemma isText_pair {high low : Nat} (hhigh : IsHigh high) (hlow : IsLow low) :
    IsText (encodeNat (pairValue high low)) := by
  rw [IsHigh] at hhigh
  rw [IsLow] at hlow
  have hmin : 0xDFFF < pairValue high low := by
    unfold pairValue
    omega
  have hmax : pairValue high low < 0x110000 := by
    unfold pairValue
    omega
  exact isText_encodeNat (.inr ⟨hmin, hmax⟩)

/-- Between two quotes, what UTF-8 stands for is UTF-8.  Where a character is cut in two, its first
bytes are kept with what comes before. -/
lemma Spells.isText_append (h : Spells input bytes rest) {before : Bytes}
    (hinput : IsText (before ++ input)) : IsText (before ++ bytes) := by
  induction h generalizing before with
  | quote =>
    rw [List.append_nil]
    exact (hinput.of_append_cons (by decide)).1
  | @plain b input bytes rest _ _ _ _ ih =>
    have hmore : IsText (before ++ [b] ++ bytes) := ih (by rwa [List.append_cons] at hinput)
    rwa [List.append_cons]
  | @escaped letter b input bytes rest hletter _ ih =>
    obtain ⟨hbefore, hescape⟩ := hinput.of_append_cons (by decide)
    obtain ⟨hascii, hb⟩ := lt_of_lookup_escapes letter b hletter
    have hmore : IsText bytes := @ih [] (isText_of_follows (follows_cons hascii) hescape)
    exact hbefore.append ((isText_singleton hb).append hmore)
  | @unit n digits input bytes rest hunit hhigh hlow _ ih =>
    obtain ⟨hbefore, hescape⟩ := hinput.of_append_cons (by decide)
    have hmore : IsText bytes := @ih [] (isText_of_follows (hunit.follows.cons 117) hescape)
    exact hbefore.append ((isText_unit hunit hhigh hlow).append hmore)
  | @pair high low digits more input bytes rest hunit hhigh hunit' hlow _ ih =>
    obtain ⟨hbefore, hescape⟩ := hinput.of_append_cons (by decide)
    have hinput : Follows (117 :: digits) input :=
      (hunit.follows.trans ((hunit'.follows.cons 117).cons 92)).cons 117
    have hmore : IsText bytes := @ih [] (isText_of_follows hinput hescape)
    exact hbefore.append ((isText_pair hhigh hlow).append hmore)

lemma Spells.isText (h : Spells input bytes rest) (hinput : IsText input) : IsText bytes :=
  h.isText_append (show IsText ([] ++ input) from hinput)

/-- **Nothing that is UTF-8 breaks off.** -/
lemma BreaksOff.not_isText (h : BreaksOff p input) : ¬ IsText input := by
  have hmark {b : UInt8} (hb : b.toNat < 0x80) {input : Bytes} (h : IsText (b :: input)) :
      IsText input := isText_of_follows (follows_cons hb) h
  induction h with
  | text h hbytes => exact fun hinput => hbytes (h.isText (hmark (by decide) hinput))
  | list h ih => exact fun hinput => ih (hmark (by decide) hinput)
  | object h ih => exact fun hinput => ih (hmark (by decide) hinput)
  | element hbefore h ih => exact fun hinput => ih (isText_of_space hbefore hinput)
  | firstItem h ih => exact ih
  | laterItem hitem h ih =>
    exact fun hinput => ih (hmark (by decide) (isText_of_follows hitem.follows hinput))
  | key hbefore h hbytes =>
    exact fun hinput => hbytes (h.isText (hmark (by decide) (isText_of_space hbefore hinput)))
  | memberValue hbefore hkey hafter h ih =>
    intro hinput
    have hliteral := hmark (by decide) (isText_of_space hbefore hinput)
    have hvalue := isText_of_space hafter (isText_of_follows hkey.follows hliteral)
    exact ih (hmark (by decide) hvalue)
  | firstMember h ih => exact ih
  | laterMember hmember h ih =>
    exact fun hinput => ih (hmark (by decide) (isText_of_follows hmember.follows hinput))

end IsText

/-! ## Faults of the encoding -/

/-- The reading ends at a text that is not UTF-8. -/
def IsUndecodable {α : Type} (x : Except Fault α) : Prop := ∃ fault, x = .error (.encoding fault)

section Fault

variable {α β : Type} {x : Except Fault α} {a : α} {f : α → Except Fault β} {input rest : Bytes}
  {negative : Bool} {fuel : Nat}

lemma not_isUndecodable_malformed : ¬ IsUndecodable (.error .malformed : Except Fault α) := by
  rintro ⟨fault, h⟩
  cases h

lemma not_isUndecodable_ok : ¬ IsUndecodable (.ok a) := by
  rintro ⟨fault, h⟩
  cases h

lemma isUndecodable_bind_iff :
    IsUndecodable (x >>= f) ↔ IsUndecodable x ∨ ∃ a, x = .ok a ∧ IsUndecodable (f a) := by
  simp only [IsUndecodable, Except.bind_eq_error_iff]
  constructor
  · rintro ⟨fault, h | ⟨a, ha, h⟩⟩
    · exact .inl ⟨fault, h⟩
    · exact .inr ⟨a, ha, fault, h⟩
  · rintro (⟨fault, h⟩ | ⟨a, ha, fault, h⟩)
    · exact ⟨fault, .inl h⟩
    · exact ⟨fault, .inr ⟨a, ha, h⟩⟩

lemma isUndecodable_map_iff {g : α → β} : IsUndecodable (x.map g) ↔ IsUndecodable x := by
  simp only [IsUndecodable, Except.map_eq_error_iff]

lemma not_isUndecodable_stringBytes (s : StringState) (input : Bytes) :
    ¬ IsUndecodable (stringBytes s input) := by
  induction input generalizing s with
  | nil => exact not_isUndecodable_malformed
  | cons b rest ih =>
    rw [stringBytes]
    split
    · exact not_isUndecodable_ok
    · exact not_isUndecodable_malformed
    · rw [isUndecodable_map_iff]
      exact ih _

lemma isUndecodable_decode_iff {bytes : Bytes} :
    IsUndecodable ((decode bytes).mapError .encoding) ↔ ¬ IsText bytes := by
  rw [not_isText_iff]
  cases decode bytes with
  | ok t => exact ⟨fun ⟨_, h⟩ => (nomatch h), fun ⟨_, h⟩ => (nomatch h)⟩
  | error fault => exact ⟨fun _ => ⟨fault, rfl⟩, fun _ => ⟨fault, rfl⟩⟩

lemma isUndecodable_readString_iff :
    IsUndecodable (readString input) ↔
      ∃ bytes rest, Spells input bytes rest ∧ ¬ IsText bytes := by
  rw [readString, isUndecodable_bind_iff]
  constructor
  · rintro (h | ⟨⟨bytes, rest⟩, hread, h⟩)
    · exact absurd h (not_isUndecodable_stringBytes _ _)
    · rcases isUndecodable_bind_iff.1 h with h | ⟨t, -, h⟩
      · exact ⟨bytes, rest, stringBytes_eq_ok_iff.1 hread, isUndecodable_decode_iff.1 h⟩
      · exact absurd h not_isUndecodable_ok
  · rintro ⟨bytes, rest, hread, hbytes⟩
    exact .inr ⟨_, stringBytes_eq_ok_iff.2 hread,
      isUndecodable_bind_iff.2 (.inl (isUndecodable_decode_iff.2 hbytes))⟩

lemma not_isUndecodable_readFraction : ¬ IsUndecodable (readFraction input) := by
  cases input with
  | nil => exact not_isUndecodable_ok
  | cons b rest =>
    rw [readFraction]
    split
    · dsimp only
      split
      · exact not_isUndecodable_malformed
      · exact not_isUndecodable_ok
    · exact not_isUndecodable_ok

lemma not_isUndecodable_readExponent : ¬ IsUndecodable (readExponent input) := by
  cases input with
  | nil => exact not_isUndecodable_ok
  | cons b rest =>
    by_cases hletter : b = 101 ∨ b = 69
    · obtain ⟨negative, unsigned, hsigned⟩ := exists_signed rest
      rw [readExponent_of_signed hletter hsigned]
      split
      · exact not_isUndecodable_malformed
      · exact not_isUndecodable_ok
    · rw [readExponent_of_not_letter hletter]
      exact not_isUndecodable_ok

lemma not_isUndecodable_readNumber : ¬ IsUndecodable (readNumber strict negative input) := by
  unfold readNumber
  dsimp only
  split
  · exact not_isUndecodable_malformed
  · rw [isUndecodable_bind_iff]
    rintro (h | ⟨_, -, h⟩)
    · exact not_isUndecodable_readFraction h
    rcases isUndecodable_bind_iff.1 h with h | ⟨_, -, h⟩
    · exact not_isUndecodable_readExponent h
    split at h
    · exact not_isUndecodable_ok h
    · split at h
      · exact not_isUndecodable_malformed h
      · exact not_isUndecodable_ok h

lemma not_isUndecodable_readScalar : ¬ IsUndecodable (readScalar strict input) := by
  unfold readScalar
  split
  · exact not_isUndecodable_ok
  · exact not_isUndecodable_ok
  · exact not_isUndecodable_ok
  · cases word? "-" input with
    | some unsigned => exact not_isUndecodable_readNumber
    | none => exact not_isUndecodable_readNumber

end Fault

/-! ## A document that breaks off is not decoded -/

section Begins

variable {input : Bytes}

lemma BreaksOff.value_begins (h : BreaksOff .value input) :
    ∃ b more, input = b :: more ∧ 32 < b.toNat ∧ b ≠ 93 := by
  cases h with
  | text => exact ⟨_, _, rfl, by decide⟩
  | list => exact ⟨_, _, rfl, by decide⟩
  | object => exact ⟨_, _, rfl, by decide⟩

lemma BreaksOff.exists_mem (h : BreaksOff .element input) : ∃ b ∈ input, 32 < b.toNat := by
  cases h with
  | element hbefore h =>
    obtain ⟨b, more, rfl, hb, -⟩ := h.value_begins
    exact ⟨b, hbefore.mem_of_mem List.mem_cons_self, hb⟩

lemma BreaksOff.items_begin (h : BreaksOff .items input) :
    ∃ b more, input.dropWhile isSpace = b :: more ∧ b ≠ 93 := by
  cases h with
  | firstItem h =>
    cases h with
    | element hbefore h =>
      obtain ⟨b, more, rfl, hb, hbracket⟩ := h.value_begins
      exact ⟨b, more, hbefore.dropWhile_eq_cons (not_isSpace_of_lt hb), hbracket⟩
  | laterItem hitem => exact hitem.element_begins

lemma BreaksOff.members_begin (h : BreaksOff .members input) :
    ∃ more, input.dropWhile isSpace = 34 :: more := by
  cases h with
  | firstMember h =>
    cases h with
    | key hbefore => exact ⟨_, hbefore.dropWhile_eq_cons rfl⟩
    | memberValue hbefore => exact ⟨_, hbefore.dropWhile_eq_cons rfl⟩
  | laterMember hmember => exact hmember.member_begins

end Begins

/-- The strict reader finds the part undecodable, with calls enough left. -/
def Part.Fails : Part → Bytes → Prop
  | .value, input | .element, input => ∀ fuel, 2 * input.length ≤ fuel →
      IsUndecodable (readValue strict (fuel + 1) input)
  | .items, input => ∀ fuel, 2 * input.length ≤ fuel →
      IsUndecodable (readItems strict (fuel + 2) input)
  | .member, input => ∀ fuel, 2 * input.length ≤ fuel →
      IsUndecodable (readMember strict (fuel + 1) input)
  | .members, input => ∀ before fuel, 2 * input.length ≤ fuel →
      IsUndecodable (readMembers strict (fuel + 2) before input)

lemma BreaksOff.fails {p : Part} {input : Bytes} (h : BreaksOff p input) : p.Fails input := by
  induction h with
  | text h hbytes =>
    intro fuel _
    rw [readValue_text, isUndecodable_map_iff]
    exact isUndecodable_readString_iff.2 ⟨_, _, h, hbytes⟩
  | @list input h ih =>
    intro fuel hfuel
    rw [List.length_cons] at hfuel
    obtain ⟨b, more, hbegin, hb⟩ := h.items_begin
    obtain ⟨fuel, rfl⟩ := Nat.exists_eq_add_of_le' (show 2 ≤ fuel by omega)
    rw [readValue_list, hbegin]
    dsimp only
    rw [if_neg hb, isUndecodable_map_iff]
    exact ih fuel (by omega)
  | @object input h ih =>
    intro fuel hfuel
    rw [List.length_cons] at hfuel
    obtain ⟨more, hbegin⟩ := h.members_begin
    obtain ⟨fuel, rfl⟩ := Nat.exists_eq_add_of_le' (show 2 ≤ fuel by omega)
    rw [readValue_object, hbegin]
    dsimp only
    rw [if_neg (by decide), isUndecodable_map_iff]
    exact ih [] fuel (by omega)
  | element hbefore h ih =>
    intro fuel hfuel
    have hlength := hbefore.length_le
    rw [hbefore.readValue_eq]
    exact ih fuel (by omega)
  | firstItem h ih =>
    intro fuel hfuel
    rw [readItems_succ, isUndecodable_bind_iff]
    exact .inl (ih fuel hfuel)
  | @laterItem j input more hitem h ih =>
    intro fuel hfuel
    obtain ⟨finish, hread, hspace⟩ := hitem.isRead (endsNumber_cons (by decide)) fuel hfuel
    have hlength := hitem.follows.length_lt
    rw [List.length_cons] at hlength
    obtain ⟨fuel, rfl⟩ := Nat.exists_eq_add_of_le' (show 1 ≤ fuel by omega)
    rw [readItems_succ, isUndecodable_bind_iff]
    refine .inr ⟨_, hread, ?_⟩
    simp only [hspace.dropWhile_eq_cons (b := 44) rfl, if_true]
    rw [isUndecodable_map_iff]
    exact ih fuel (by omega)
  | @key input literal bytes rest hbefore h hbytes =>
    intro fuel hfuel
    rw [readMember, hbefore.dropWhile_eq_cons rfl]
    simp only [if_true]
    rw [isUndecodable_bind_iff]
    exact .inl (isUndecodable_readString_iff.2 ⟨_, _, h, hbytes⟩)
  | @memberValue key input literal after value hbefore hkey hafter h ih =>
    intro fuel hfuel
    have hlength := (hbefore.follows ((hkey.follows.cons 34).trans
      (hafter.follows (follows_cons (b := 58) (by decide))))).length_lt
    rw [readMember, hbefore.dropWhile_eq_cons rfl]
    simp only [if_true]
    rw [isUndecodable_bind_iff]
    refine .inr ⟨_, readString_eq_ok_iff.2 hkey, ?_⟩
    simp only [hafter.dropWhile_eq_cons (b := 58) rfl, if_true]
    rw [isUndecodable_map_iff]
    exact ih fuel (by omega)
  | firstMember h ih =>
    intro before fuel hfuel
    rw [readMembers_succ, isUndecodable_bind_iff]
    exact .inl (ih fuel hfuel)
  | @laterMember key j input more hmember h ih =>
    intro before fuel hfuel
    obtain ⟨finish, hread, hspace⟩ := hmember.isRead (endsNumber_cons (by decide)) fuel hfuel
    have hlength := hmember.follows.length_lt
    rw [List.length_cons] at hlength
    obtain ⟨fuel, rfl⟩ := Nat.exists_eq_add_of_le' (show 1 ≤ fuel by omega)
    rw [readMembers_succ, isUndecodable_bind_iff]
    refine .inr ⟨_, hread, ?_⟩
    simp only [hspace.dropWhile_eq_cons (b := 44) rfl, if_true]
    exact ih _ fuel (by omega)

/-! ## What is not decoded breaks off -/

section Fails

variable {input : Bytes} {before : List (Text × Json)} {fuel : Nat}

/-- With so many calls left, the readers find nothing undecodable but what breaks off. -/
structure FailsRightly (fuel : Nat) : Prop where
  value : ∀ {input}, IsUndecodable (readValue strict fuel input) → BreaksOff .element input
  items : ∀ {input}, IsUndecodable (readItems strict fuel input) → BreaksOff .items input
  members : ∀ {before input}, IsUndecodable (readMembers strict fuel before input) →
    BreaksOff .members input

lemma FailsRightly.value_succ (hfuel : FailsRightly fuel)
    (h : IsUndecodable (readValue strict (fuel + 1) input)) : BreaksOff .element input := by
  have hspace := space_dropWhile input
  refine .element hspace ?_
  rw [hspace.readValue_eq] at h
  cases hstart : input.dropWhile isSpace with
  | nil =>
    rw [hstart] at h
    exact absurd h not_isUndecodable_malformed
  | cons b more =>
    rw [hstart] at h
    by_cases hquote : b = 34
    · subst hquote
      rw [readValue_text, isUndecodable_map_iff] at h
      obtain ⟨bytes, rest, hread, hbytes⟩ := isUndecodable_readString_iff.1 h
      exact .text hread hbytes
    by_cases hbracket : b = 91
    · subst hbracket
      rw [readValue_list] at h
      split at h
      · exact absurd h not_isUndecodable_malformed
      · split at h
        · exact absurd h not_isUndecodable_ok
        · exact .list (hfuel.items (isUndecodable_map_iff.1 h))
    by_cases hbrace : b = 123
    · subst hbrace
      rw [readValue_object] at h
      split at h
      · exact absurd h not_isUndecodable_malformed
      · split at h
        · exact absurd h not_isUndecodable_ok
        · exact .object (hfuel.members (isUndecodable_map_iff.1 h))
    · rw [readValue_scalar (isSpace_of_dropWhile_eq hstart) ⟨hquote, hbracket, hbrace⟩] at h
      exact absurd h not_isUndecodable_readScalar

lemma FailsRightly.items_succ (hfuel : FailsRightly fuel)
    (h : IsUndecodable (readItems strict (fuel + 1) input)) : BreaksOff .items input := by
  rw [readItems_succ] at h
  rcases isUndecodable_bind_iff.1 h with h | ⟨⟨item, finish⟩, hitem, h⟩
  · exact .firstItem (hfuel.value h)
  have helement := (sound fuel).element hitem
  dsimp only at h
  cases hfinish : finish.dropWhile isSpace with
  | nil =>
    rw [hfinish] at h
    exact absurd h not_isUndecodable_malformed
  | cons b more =>
    rw [hfinish] at h helement
    dsimp only at h
    split at h
    next hcomma =>
      subst hcomma
      exact .laterItem helement (hfuel.items (isUndecodable_map_iff.1 h))
    next =>
      split at h
      · exact absurd h not_isUndecodable_ok
      · exact absurd h not_isUndecodable_malformed

lemma FailsRightly.member (hfuel : FailsRightly fuel)
    (h : IsUndecodable (readMember strict fuel input)) : BreaksOff .member input := by
  rw [readMember] at h
  cases hquote : input.dropWhile isSpace with
  | nil =>
    rw [hquote] at h
    exact absurd h not_isUndecodable_malformed
  | cons q literal =>
    rw [hquote] at h
    dsimp only at h
    split at h
    next hq =>
      subst hq
      rcases isUndecodable_bind_iff.1 h with h | ⟨⟨key, after⟩, hkey, h⟩
      · obtain ⟨bytes, rest, hread, hbytes⟩ := isUndecodable_readString_iff.1 h
        exact .key (space_of_dropWhile_eq hquote) hread hbytes
      dsimp only at h
      cases hcolon : after.dropWhile isSpace with
      | nil =>
        rw [hcolon] at h
        exact absurd h not_isUndecodable_malformed
      | cons colon value =>
        rw [hcolon] at h
        dsimp only at h
        split at h
        next hc =>
          subst hc
          exact .memberValue (space_of_dropWhile_eq hquote) (readString_eq_ok_iff.1 hkey)
            (space_of_dropWhile_eq hcolon) (hfuel.value (isUndecodable_map_iff.1 h))
        next => exact absurd h not_isUndecodable_malformed
    next => exact absurd h not_isUndecodable_malformed

lemma FailsRightly.members_succ (hfuel : FailsRightly fuel)
    (h : IsUndecodable (readMembers strict (fuel + 1) before input)) :
    BreaksOff .members input := by
  rw [readMembers_succ] at h
  rcases isUndecodable_bind_iff.1 h with h | ⟨⟨⟨key, j⟩, finish⟩, hread, h⟩
  · exact .firstMember (hfuel.member h)
  have hmember := (sound fuel).member hread
  dsimp only at h
  cases hfinish : finish.dropWhile isSpace with
  | nil =>
    rw [hfinish] at h
    exact absurd h not_isUndecodable_malformed
  | cons b more =>
    rw [hfinish] at h hmember
    dsimp only at h
    split at h
    next hcomma =>
      subst hcomma
      exact .laterMember hmember (hfuel.members h)
    next =>
      split at h
      · exact absurd h not_isUndecodable_ok
      · exact absurd h not_isUndecodable_malformed

lemma failsRightly (fuel : Nat) : FailsRightly fuel := by
  induction fuel with
  | zero =>
    exact ⟨fun h => absurd h not_isUndecodable_malformed,
      fun h => absurd h not_isUndecodable_malformed,
      fun h => absurd h not_isUndecodable_malformed⟩
  | succ fuel ih => exact ⟨ih.value_succ, ih.items_succ, ih.members_succ⟩

/-- **A document has a fault of the encoding if it breaks off at a text that is not UTF-8**, and
only then. -/
theorem read_eq_encoding_iff :
    (∃ fault, read strict input = .error (.encoding fault)) ↔ BreaksOff .element input := by
  show IsUndecodable (read strict input) ↔ _
  rw [read, isUndecodable_bind_iff]
  constructor
  · rintro (h | ⟨⟨value, rest⟩, -, h⟩)
    · exact (failsRightly _).value h
    · dsimp only at h
      split at h
      · exact absurd h not_isUndecodable_ok
      · exact absurd h not_isUndecodable_malformed
  · exact fun h => .inl (h.fails _ (Nat.le_refl _))

end Fails

end LogSearch.Json
