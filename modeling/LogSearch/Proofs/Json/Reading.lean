import LogSearch.Proofs.Json.Literals

/-!
# Documents are read by the grammar

`read_eq_ok_iff`: what the strict reader accepts is a document of the grammar, with the meaning that
the grammar gives it, and every such document is accepted.

One direction goes by induction on the depth of calls that is left (`derives_of_read`), the other by
induction on the derivation (`Derives.read_eq`).  The second one needs that the depth of calls is
enough: every phrase takes at least one byte (`Derives.follows`), and a phrase that begins where
another one does is read one call deeper.
-/

namespace LogSearch.Json

/-! ## Space -/

section Space

variable {input start rest : Bytes} {b : UInt8}

lemma Space.dropWhile_eq (h : Space input rest) :
    input.dropWhile isSpace = rest.dropWhile isSpace := by
  induction h with
  | none => rfl
  | more hb h ih => rw [List.dropWhile_cons_of_pos hb, ih]

lemma Space.dropWhile_eq_cons (h : Space input (b :: rest)) (hb : isSpace b = false) :
    input.dropWhile isSpace = b :: rest := by
  rw [h.dropWhile_eq, dropWhile_isSpace hb]

lemma space_dropWhile (input : Bytes) : Space input (input.dropWhile isSpace) := by
  induction input with
  | nil => exact .none
  | cons b rest ih =>
    by_cases hb : isSpace b
    · rw [List.dropWhile_cons_of_pos hb]
      exact .more hb ih
    · rw [List.dropWhile_cons_of_neg hb]
      exact .none

lemma Space.length_le (h : Space input rest) : rest.length ≤ input.length := by
  induction h with
  | none => exact Nat.le_refl _
  | more _ _ ih => exact Nat.le_succ_of_le ih

lemma space_of_dropWhile_eq (h : input.dropWhile isSpace = rest) : Space input rest :=
  h ▸ space_dropWhile input

lemma Space.mem_of_mem (h : Space input rest) (hb : b ∈ rest) : b ∈ input := by
  induction h with
  | none => exact hb
  | more _ _ ih => exact List.mem_cons_of_mem _ (ih hb)

lemma all_isSpace_iff : input.all isSpace ↔ Space input [] := by
  constructor
  · intro h
    refine space_of_dropWhile_eq ?_
    exact List.dropWhile_eq_nil_iff.2 (List.all_eq_true.1 h)
  · intro h
    rw [List.all_eq_true, ← List.dropWhile_eq_nil_iff, h.dropWhile_eq]
    rfl

lemma isSpace_iff : isSpace b ↔ b = 32 ∨ b = 9 ∨ b = 10 ∨ b = 13 := by
  simp [isSpace, or_assoc]

lemma not_isSpace_of_lt (h : 32 < b.toNat) : isSpace b = false := by
  cases hb : isSpace b with
  | false => rfl
  | true => rcases isSpace_iff.1 hb with rfl | rfl | rfl | rfl <;> contradiction

lemma endsNumber_nil : EndsNumber [] := fun _ h => by contradiction

lemma endsNumber_cons (h : isDigit b = false ∧ b ≠ 46 ∧ b ≠ 101 ∧ b ≠ 69) :
    EndsNumber (b :: rest) := by
  rintro c hc
  obtain rfl : b = c := Option.some.inj hc
  exact h

lemma Space.endsNumber (h : Space input rest) (hrest : EndsNumber rest) : EndsNumber input := by
  cases h with
  | none => exact hrest
  | more hb h =>
    refine endsNumber_cons ?_
    rcases isSpace_iff.1 hb with rfl | rfl | rfl | rfl <;> decide

end Space

/-! ## Bytes of ASCII between phrases -/

/-- The rest comes after a byte of ASCII. -/
def Follows (input rest : Bytes) : Prop := ∃ front b, input = front ++ b :: rest ∧ b.toNat < 0x80

section Follows

variable {input middle rest front bytes digits : Bytes} {b : UInt8}

lemma Follows.length_lt (h : Follows input rest) : rest.length < input.length := by
  obtain ⟨front, b, rfl, -⟩ := h
  simp only [List.length_append, List.length_cons]
  omega

lemma follows_cons (hb : b.toNat < 0x80) : Follows (b :: rest) rest := ⟨[], b, rfl, hb⟩

lemma Follows.append_left (h : Follows input rest) (front : Bytes) :
    Follows (front ++ input) rest := by
  obtain ⟨more, b, rfl, hb⟩ := h
  exact ⟨front ++ more, b, (List.append_assoc _ _ _).symm, hb⟩

lemma Follows.cons (h : Follows input rest) (b : UInt8) : Follows (b :: input) rest :=
  h.append_left [b]

lemma Follows.trans (h : Follows input middle) (h' : Follows middle rest) : Follows input rest := by
  obtain ⟨front, b, rfl, -⟩ := h
  exact (h'.cons b).append_left front

lemma Space.eq_or_follows (h : Space input rest) : input = rest ∨ Follows input rest := by
  induction h with
  | none => exact .inl rfl
  | more hb h ih =>
    rename_i b input rest
    have hascii : b.toNat < 0x80 := by
      rcases isSpace_iff.1 hb with rfl | rfl | rfl | rfl <;> decide
    rcases ih with rfl | ih
    · exact .inr (follows_cons hascii)
    · exact .inr (ih.cons b)

lemma Follows.trans_or (h : Follows input middle) (h' : middle = rest ∨ Follows middle rest) :
    Follows input rest := by
  rcases h' with rfl | h'
  · exact h
  · exact h.trans h'

lemma Follows.space (h : Follows input middle) (h' : Space middle rest) : Follows input rest :=
  h.trans_or h'.eq_or_follows

lemma Space.follows (h : Space input middle) (h' : Follows middle rest) : Follows input rest := by
  rcases h.eq_or_follows with rfl | h
  · exact h'
  · exact h.trans h'

lemma Spells.follows (h : Spells input bytes rest) : Follows input rest := by
  induction h with
  | quote => exact follows_cons (by decide)
  | plain _ _ _ _ ih => exact ih.cons _
  | escaped _ _ ih => exact (ih.cons _).cons _
  | unit hunit _ _ _ ih =>
    obtain ⟨_, _, _, _⟩ := hunit
    exact ih.append_left [_, _, _, _, _, _]
  | pair hunit _ hunit' _ _ ih =>
    obtain ⟨_, _, _, _⟩ := hunit
    obtain ⟨_, _, _, _⟩ := hunit'
    exact ih.append_left [_, _, _, _, _, _, _, _, _, _, _, _]

/-- Where the last byte is one of ASCII, what comes behind it follows. -/
lemma follows_of_getLast? (h : ∃ b ∈ front.getLast?, b.toNat < 0x80) :
    Follows (front ++ rest) rest := by
  obtain ⟨b, hlast, hb⟩ := h
  obtain ⟨front, rfl⟩ := List.getLast?_eq_some_iff.1 hlast
  exact ⟨front, b, by rw [List.append_assoc, List.singleton_append], hb⟩

lemma IsDigits.follows (h : IsDigits digits) : Follows (digits ++ rest) rest := by
  obtain ⟨hne, hall⟩ := h
  have hdigit := hall _ (List.getLast_mem hne)
  refine follows_of_getLast? ⟨_, List.getLast?_eq_some_getLast hne, ?_⟩
  simp only [isDigit, Bool.and_eq_true, decide_eq_true_eq] at hdigit
  omega

lemma IsFraction.eq_or_follows (h : IsFraction front digits) (rest : Bytes) :
    front ++ rest = rest ∨ Follows (front ++ rest) rest := by
  cases h with
  | none => exact .inl rfl
  | point h => exact .inr (h.follows.cons _)

lemma IsExponent.eq_or_follows {e : Option Int} (h : IsExponent front e) (rest : Bytes) :
    front ++ rest = rest ∨ Follows (front ++ rest) rest := by
  cases h with
  | none => exact .inl rfl
  | plain _ h => exact .inr (h.follows.cons _)
  | plus _ h => exact .inr ((h.follows.cons _).cons _)
  | minus _ h => exact .inr ((h.follows.cons _).cons _)

lemma IsNumber.follows {j : Json} (h : IsNumber front j) : Follows (front ++ rest) rest := by
  cases h with
  | integer negative hwhole =>
    rw [List.append_assoc]
    exact hwhole.1.follows.append_left _
  | float negative hwhole hfraction hexponent =>
    simp only [List.append_assoc]
    exact ((hwhole.1.follows.trans_or (hfraction.eq_or_follows _)).trans_or
      (hexponent.eq_or_follows _)).append_left _

/-- What follows a phrase comes after a byte of ASCII. -/
lemma Derives.follows {f : Form} (h : Derives f input rest) : Follows input rest := by
  induction h with
  | nullWord => exact follows_of_getLast? ⟨108, rfl, by decide⟩
  | trueWord => exact follows_of_getLast? ⟨101, rfl, by decide⟩
  | falseWord => exact follows_of_getLast? ⟨101, rfl, by decide⟩
  | number h => exact h.follows
  | text h => exact h.follows.cons _
  | emptyList h => exact (h.follows (follows_cons (by decide))).cons _
  | list _ ih => exact (ih.trans (follows_cons (by decide))).cons _
  | emptyObject h => exact (h.follows (follows_cons (by decide))).cons _
  | object _ ih => exact (ih.trans (follows_cons (by decide))).cons _
  | element hbefore _ hafter ih => exact hbefore.follows (ih.space hafter)
  | lastItem _ ih => exact ih
  | nextItem _ _ ih ihmore => exact (ih.trans (follows_cons (by decide))).trans ihmore
  | member hbefore hkey hafter _ ih =>
    have hvalue := (hafter.follows (follows_cons (by decide))).trans ih
    exact hbefore.follows ((hkey.follows.trans hvalue).cons _)
  | lastMember _ ih => exact ih
  | nextMember _ _ ih ihmore => exact (ih.trans (follows_cons (by decide))).trans ihmore

end Follows

/-! ## The reader at a phrase -/

section Reader

variable {d : Dialect} {fuel : Nat} {t key : Text} {j : Json} {b : UInt8}
  {input start more finish rest : Bytes}

lemma readString_eq_ok_iff :
    readString input = .ok (t, rest) ↔ Spells input (Utf8.encode t) rest := by
  rw [readString, Except.bind_eq_ok_iff]
  constructor
  · rintro ⟨⟨bytes, rest'⟩, hbytes, h⟩
    obtain ⟨t', ht, h⟩ := Except.bind_eq_ok_iff.1 h
    obtain ⟨rfl, rfl⟩ := Prod.mk.inj (Except.ok.inj h)
    obtain rfl := Utf8.decode_eq_ok_iff.1 (Except.mapError_eq_ok_iff.1 ht)
    exact stringBytes_eq_ok_iff.1 hbytes
  · intro h
    refine ⟨_, stringBytes_eq_ok_iff.2 h, ?_⟩
    simp only [Utf8.decode_encode]
    rfl

lemma Space.readValue_eq (h : Space input start) :
    readValue d fuel input = readValue d fuel start := by
  cases fuel with
  | zero => rfl
  | succ fuel => rw [readValue, readValue, h.dropWhile_eq]

lemma readValue_text (d : Dialect) (fuel : Nat) (input : Bytes) :
    readValue d (fuel + 1) (34 :: input) = (readString input).map fun r => (.text r.1, r.2) := by
  have hquote : (34 : UInt8).toNat = 34 := rfl
  rw [readValue, dropWhile_isSpace rfl]
  simp only [hquote, if_true]
  cases readString input <;> rfl

lemma readValue_list (d : Dialect) (fuel : Nat) (input : Bytes) :
    readValue d (fuel + 1) (91 :: input) =
      match input.dropWhile isSpace with
      | [] => .error .malformed
      | b :: more =>
        if b = 93 then .ok (.list [], more)
        else (readItems d fuel input).map fun r => (.list r.1, r.2) := by
  have hbracket : (91 : UInt8).toNat = 91 := rfl
  rw [readValue, dropWhile_isSpace rfl]
  simp only [hbracket, toNat_eq_iff 93 93 rfl]
  rw [if_neg (by decide), if_pos trivial]
  rfl

lemma readValue_object (d : Dialect) (fuel : Nat) (input : Bytes) :
    readValue d (fuel + 1) (123 :: input) =
      match input.dropWhile isSpace with
      | [] => .error .malformed
      | b :: more =>
        if b = 125 then .ok (.object [], more)
        else (readMembers d fuel [] input).map fun r => (.object r.1, r.2) := by
  have hbrace : (123 : UInt8).toNat = 123 := rfl
  rw [readValue, dropWhile_isSpace rfl]
  simp only [hbrace, toNat_eq_iff 125 125 rfl]
  rw [if_neg (by decide), if_neg (by decide), if_pos trivial]
  rfl

lemma readValue_scalar (hspace : isSpace b = false) (hb : b ≠ 34 ∧ b ≠ 91 ∧ b ≠ 123) :
    readValue d (fuel + 1) (b :: input) = readScalar d (b :: input) := by
  have hquote : b.toNat ≠ 34 := mt (toNat_eq_iff 34 34 rfl).1 hb.1
  have hbracket : b.toNat ≠ 91 := mt (toNat_eq_iff 91 91 rfl).1 hb.2.1
  have hbrace : b.toNat ≠ 123 := mt (toNat_eq_iff 123 123 rfl).1 hb.2.2
  rw [readValue, dropWhile_isSpace hspace]
  dsimp only
  rw [if_neg hquote, if_neg hbracket, if_neg hbrace]

lemma readItems_succ (d : Dialect) (fuel : Nat) (input : Bytes) :
    readItems d (fuel + 1) input = (do
      let (item, rest) ← readValue d fuel input
      match rest.dropWhile isSpace with
      | [] => .error .malformed
      | b :: more =>
        if b = 44 then (readItems d fuel more).map fun r => (item :: r.1, r.2)
        else if b = 93 then .ok ([item], more)
        else .error .malformed) := by
  rw [readItems]
  congr 1
  funext ⟨item, rest⟩
  dsimp only
  cases rest.dropWhile isSpace with
  | nil => rfl
  | cons b more =>
    simp only [toNat_eq_iff 44 44 rfl, toNat_eq_iff 93 93 rfl]
    rfl

/-- The member at the front of the input, and what comes behind it. -/
def readMember (d : Dialect) (fuel : Nat) (input : Bytes) :
    Except Fault ((Text × Json) × Bytes) :=
  match input.dropWhile isSpace with
  | [] => .error .malformed
  | q :: literal =>
    if q = 34 then do
      let (key, rest) ← readString literal
      match rest.dropWhile isSpace with
      | [] => .error .malformed
      | colon :: rest =>
        if colon = 58 then (readValue d fuel rest).map fun r => ((key, r.1), r.2)
        else .error .malformed
    else .error .malformed

lemma readMembers_succ (d : Dialect) (fuel : Nat) (before : List (Text × Json)) (input : Bytes) :
    readMembers d (fuel + 1) before input = (do
      let (member, rest) ← readMember d fuel input
      match rest.dropWhile isSpace with
      | [] => .error .malformed
      | b :: more =>
        if b = 44 then readMembers d fuel (put member.1 member.2 before) more
        else if b = 125 then .ok (put member.1 member.2 before, more)
        else .error .malformed) := by
  rw [readMembers, readMember]
  cases input.dropWhile isSpace with
  | nil => rfl
  | cons q literal =>
    simp only [toNat_eq_iff 34 34 rfl]
    split
    · cases readString literal with
      | error fault => rfl
      | ok r =>
        simp only [bind, Except.bind]
        cases r.2.dropWhile isSpace with
        | nil => rfl
        | cons colon value =>
          simp only [toNat_eq_iff 58 58 rfl]
          split
          · cases readValue d fuel value with
            | error fault => rfl
            | ok r =>
              simp only [Except.map]
              cases r.2.dropWhile isSpace with
              | nil => rfl
              | cons b more =>
                simp only [toNat_eq_iff 44 44 rfl, toNat_eq_iff 125 125 rfl]
                rfl
          · rfl
    · rfl

end Reader

/-! ## Every document is read -/

section Complete

variable {j : Json} {number input rest : Bytes}

lemma IsNumber.begins (h : IsNumber number j) :
    ∃ b more, number = b :: more ∧ (b = 45 ∨ isDigit b) := by
  have hsign (negative : Bool) {whole : Bytes} (hwhole : IsWhole whole) (more : Bytes) :
      ∃ b rest, sign negative ++ (whole ++ more) = b :: rest ∧ (b = 45 ∨ isDigit b) := by
    cases negative with
    | true => exact ⟨45, _, rfl, .inl rfl⟩
    | false =>
      obtain ⟨⟨hne, hall⟩, -⟩ := hwhole
      cases whole with
      | nil => contradiction
      | cons b whole => exact ⟨b, _, rfl, .inr (hall b List.mem_cons_self)⟩
  cases h with
  | integer negative hwhole =>
    have hfirst := hsign negative hwhole []
    rwa [List.append_nil] at hfirst
  | float negative hwhole => exact hsign negative hwhole _

lemma lt_of_begins {b : UInt8} (hb : b = 45 ∨ isDigit b) :
    32 < b.toNat ∧ b ≠ 93 ∧ b ≠ 34 ∧ b ≠ 91 ∧ b ≠ 123 := by
  rcases hb with rfl | hb
  · decide
  · have hbounds := hb
    simp only [isDigit, Bool.and_eq_true, decide_eq_true_eq] at hbounds
    refine ⟨by omega, ?_, ?_, ?_, ?_⟩
    all_goals
      rintro rfl
      contradiction

lemma IsNumber.readValue_eq (h : IsNumber number j) (hrest : EndsNumber rest) (fuel : Nat) :
    readValue strict (fuel + 1) (number ++ rest) = .ok (j, rest) := by
  have hread := h.readScalar_eq hrest
  obtain ⟨b, more, rfl, hb⟩ := h.begins
  obtain ⟨hlow, -, hother⟩ := lt_of_begins hb
  rw [List.cons_append] at hread ⊢
  rw [readValue_scalar (not_isSpace_of_lt hlow) hother, hread]

/-- A value does not begin with a control character or a space, nor with a closing bracket. -/
lemma Derives.begins (h : Derives (.value j) input rest) :
    ∃ b more, input = b :: more ∧ 32 < b.toNat ∧ b ≠ 93 := by
  cases h with
  | nullWord => exact ⟨_, _, rfl, by decide⟩
  | trueWord => exact ⟨_, _, rfl, by decide⟩
  | falseWord => exact ⟨_, _, rfl, by decide⟩
  | number h =>
    obtain ⟨b, more, rfl, hb⟩ := h.begins
    obtain ⟨hlow, hbracket, -⟩ := lt_of_begins hb
    exact ⟨b, _, rfl, hlow, hbracket⟩
  | text => exact ⟨_, _, rfl, by decide⟩
  | emptyList => exact ⟨_, _, rfl, by decide⟩
  | list => exact ⟨_, _, rfl, by decide⟩
  | emptyObject => exact ⟨_, _, rfl, by decide⟩
  | object => exact ⟨_, _, rfl, by decide⟩

lemma IsDocument.exists_mem (h : IsDocument input j) : ∃ b ∈ input, 32 < b.toNat := by
  rw [IsDocument] at h
  cases h with
  | element hbefore h =>
    obtain ⟨b, more, rfl, hb, -⟩ := h.begins
    exact ⟨b, hbefore.mem_of_mem List.mem_cons_self, hb⟩

lemma Derives.element_begins (h : Derives (.element j) input rest) :
    ∃ b more, input.dropWhile isSpace = b :: more ∧ b ≠ 93 := by
  cases h with
  | element hbefore h =>
    obtain ⟨b, more, rfl, hb, hbracket⟩ := h.begins
    exact ⟨b, more, hbefore.dropWhile_eq_cons (not_isSpace_of_lt hb), hbracket⟩

lemma Derives.items_begin {js : List Json} (h : Derives (.items js) input rest) :
    ∃ b more, input.dropWhile isSpace = b :: more ∧ b ≠ 93 := by
  cases h with
  | lastItem h => exact h.element_begins
  | nextItem h => exact h.element_begins

lemma Derives.member_begins {key : Text} (h : Derives (.member key j) input rest) :
    ∃ more, input.dropWhile isSpace = 34 :: more := by
  cases h with
  | member hbefore => exact ⟨_, hbefore.dropWhile_eq_cons rfl⟩

lemma Derives.members_begin {ms : List (Text × Json)} (h : Derives (.members ms) input rest) :
    ∃ more, input.dropWhile isSpace = 34 :: more := by
  cases h with
  | lastMember h => exact h.member_begins
  | nextMember h => exact h.member_begins

end Complete

/-- What the strict reader makes of a phrase of the form, with calls enough left. -/
def Form.IsRead : Form → Bytes → Bytes → Prop
  | .value j, input, rest => EndsNumber rest → ∀ fuel, 2 * input.length ≤ fuel →
      readValue strict (fuel + 1) input = .ok (j, rest)
  | .element j, input, rest => EndsNumber rest → ∀ fuel, 2 * input.length ≤ fuel →
      ∃ finish, readValue strict (fuel + 1) input = .ok (j, finish) ∧ Space finish rest
  | .items js, input, rest => ∀ more, rest = 93 :: more → ∀ fuel, 2 * input.length ≤ fuel →
      readItems strict (fuel + 2) input = .ok (js, more)
  | .member key j, input, rest => EndsNumber rest → ∀ fuel, 2 * input.length ≤ fuel →
      ∃ finish, readMember strict (fuel + 1) input = .ok ((key, j), finish) ∧ Space finish rest
  | .members ms, input, rest => ∀ more, rest = 125 :: more → ∀ before fuel,
      2 * input.length ≤ fuel →
        readMembers strict (fuel + 2) before input = .ok (collect before ms, more)

/-- Every phrase is read, if enough calls are left for it. -/
lemma Derives.isRead {f : Form} {input rest : Bytes} (h : Derives f input rest) :
    f.IsRead input rest := by
  induction h with
  | nullWord => exact fun _ _ _ => rfl
  | trueWord => exact fun _ _ _ => rfl
  | falseWord => exact fun _ _ _ => rfl
  | number h => exact fun hrest fuel _ => h.readValue_eq hrest fuel
  | text h =>
    intro _ fuel _
    rw [readValue_text, readString_eq_ok_iff.2 h]
    rfl
  | emptyList h =>
    intro _ fuel _
    rw [readValue_list, h.dropWhile_eq_cons rfl]
    rfl
  | @list js input rest h ih =>
    intro _ fuel hfuel
    rw [List.length_cons] at hfuel
    obtain ⟨b, more, hbegin, hb⟩ := h.items_begin
    obtain ⟨fuel, rfl⟩ := Nat.exists_eq_add_of_le' (show 2 ≤ fuel by omega)
    rw [readValue_list, hbegin, ih rest rfl fuel (by omega)]
    exact if_neg hb
  | emptyObject h =>
    intro _ fuel _
    rw [readValue_object, h.dropWhile_eq_cons rfl]
    rfl
  | @object ms input rest h ih =>
    intro _ fuel hfuel
    rw [List.length_cons] at hfuel
    obtain ⟨more, hbegin⟩ := h.members_begin
    obtain ⟨fuel, rfl⟩ := Nat.exists_eq_add_of_le' (show 2 ≤ fuel by omega)
    rw [readValue_object, hbegin, ih rest rfl [] fuel (by omega)]
    rfl
  | element hbefore h hafter ih =>
    intro hrest fuel hfuel
    have hlength := hbefore.length_le
    refine ⟨_, ?_, hafter⟩
    rw [hbefore.readValue_eq]
    exact ih (hafter.endsNumber hrest) fuel (by omega)
  | lastItem h ih =>
    rintro more rfl fuel hfuel
    obtain ⟨finish, hread, hspace⟩ := ih (endsNumber_cons (by decide)) fuel hfuel
    rw [readItems_succ, hread]
    simp only [bind, Except.bind, hspace.dropWhile_eq_cons (b := 93) rfl]
    rfl
  | @nextItem j js input more rest h hmore ih ihmore =>
    rintro last rfl fuel hfuel
    obtain ⟨finish, hread, hspace⟩ := ih (endsNumber_cons (by decide)) fuel hfuel
    have hlength := h.follows.length_lt
    rw [List.length_cons] at hlength
    obtain ⟨fuel, rfl⟩ := Nat.exists_eq_add_of_le' (show 1 ≤ fuel by omega)
    rw [readItems_succ, hread]
    simp only [bind, Except.bind, hspace.dropWhile_eq_cons (b := 44) rfl, if_true]
    rw [ihmore last rfl fuel (by omega)]
    rfl
  | @member key j input literal after value rest hbefore hkey hafter h ih =>
    intro hrest fuel hfuel
    have hvalue := (hbefore.follows ((hkey.follows.cons 34).trans
      (hafter.follows (follows_cons (b := 58) (by decide))))).length_lt
    obtain ⟨finish, hread, hspace⟩ := ih hrest fuel (by omega)
    refine ⟨finish, ?_, hspace⟩
    rw [readMember, hbefore.dropWhile_eq_cons rfl]
    simp only [if_true, readString_eq_ok_iff.2 hkey, bind, Except.bind,
      hafter.dropWhile_eq_cons (b := 58) rfl, hread]
    rfl
  | lastMember h ih =>
    rintro more rfl before fuel hfuel
    obtain ⟨finish, hread, hspace⟩ := ih (endsNumber_cons (by decide)) fuel hfuel
    rw [readMembers_succ, hread]
    simp only [bind, Except.bind, hspace.dropWhile_eq_cons (b := 125) rfl]
    rfl
  | @nextMember key j ms input more rest h hmore ih ihmore =>
    rintro last rfl before fuel hfuel
    obtain ⟨finish, hread, hspace⟩ := ih (endsNumber_cons (by decide)) fuel hfuel
    have hlength := h.follows.length_lt
    rw [List.length_cons] at hlength
    obtain ⟨fuel, rfl⟩ := Nat.exists_eq_add_of_le' (show 1 ≤ fuel by omega)
    rw [readMembers_succ, hread]
    simp only [bind, Except.bind, hspace.dropWhile_eq_cons (b := 44) rfl, if_true]
    exact ihmore last rfl _ fuel (by omega)

/-! ## What is read is a document -/

section Sound

variable {j : Json} {js : List Json} {ms before : List (Text × Json)} {input more rest : Bytes}
  {fuel : Nat}

lemma derives_of_readScalar (h : readScalar strict input = .ok (j, rest)) :
    Derives (.value j) input rest := by
  unfold readScalar at h
  split at h
  next hnull =>
    obtain ⟨rfl, rfl⟩ := Prod.mk.inj (Except.ok.inj h)
    rw [word?_eq_some_iff.1 hnull]
    exact .nullWord
  next htrue _ =>
    obtain ⟨rfl, rfl⟩ := Prod.mk.inj (Except.ok.inj h)
    rw [word?_eq_some_iff.1 htrue]
    exact .trueWord
  next hfalse _ _ =>
    obtain ⟨rfl, rfl⟩ := Prod.mk.inj (Except.ok.inj h)
    rw [word?_eq_some_iff.1 hfalse]
    exact .falseWord
  next =>
    have hnumber (negative : Bool) {unsigned : Bytes}
        (h : readNumber strict negative unsigned = .ok (j, rest)) :
        Derives (.value j) (sign negative ++ unsigned) rest := by
      obtain ⟨number, rfl, hnumber⟩ := exists_of_readNumber h
      rw [← List.append_assoc]
      exact .number hnumber
    cases hminus : word? "-" input with
    | some unsigned =>
      rw [hminus] at h
      rw [word?_eq_some_iff.1 hminus]
      exact hnumber true h
    | none =>
      rw [hminus] at h
      exact hnumber false h

/-- With so many calls left, the readers come to phrases of the grammar only. -/
structure Sound (fuel : Nat) : Prop where
  value : ∀ {input j rest}, readValue strict fuel input = .ok (j, rest) →
    ∃ start, Space input start ∧ Derives (.value j) start rest
  items : ∀ {input js rest}, readItems strict fuel input = .ok (js, rest) →
    Derives (.items js) input (93 :: rest)
  members : ∀ {before input ms rest}, readMembers strict fuel before input = .ok (ms, rest) →
    ∃ more, ms = collect before more ∧ Derives (.members more) input (125 :: rest)

/-- Behind white space that is passed over comes none. -/
lemma isSpace_of_dropWhile_eq {b : UInt8} (h : input.dropWhile isSpace = b :: more) :
    isSpace b = false := by
  have hne : input.dropWhile isSpace ≠ [] := h ▸ List.cons_ne_nil b more
  have hhead := List.head_dropWhile_not isSpace hne
  simpa [h] using hhead

lemma Sound.element (hsound : Sound fuel) (h : readValue strict fuel input = .ok (j, rest)) :
    Derives (.element j) input (rest.dropWhile isSpace) := by
  obtain ⟨start, hspace, hvalue⟩ := hsound.value h
  exact .element hspace hvalue (space_dropWhile rest)

lemma Sound.value_succ (hsound : Sound fuel)
    (h : readValue strict (fuel + 1) input = .ok (j, rest)) :
    ∃ start, Space input start ∧ Derives (.value j) start rest := by
  have hspace := space_dropWhile input
  refine ⟨_, hspace, ?_⟩
  rw [hspace.readValue_eq] at h
  cases hstart : input.dropWhile isSpace with
  | nil =>
    rw [hstart] at h
    contradiction
  | cons b more =>
    rw [hstart] at h
    by_cases hquote : b = 34
    · subst hquote
      rw [readValue_text] at h
      obtain ⟨⟨t, rest'⟩, hread, h⟩ := Except.map_eq_ok_iff.1 h
      obtain ⟨rfl, rfl⟩ := Prod.mk.inj h
      exact .text (readString_eq_ok_iff.1 hread)
    by_cases hbracket : b = 91
    · subst hbracket
      rw [readValue_list] at h
      cases hmore : more.dropWhile isSpace with
      | nil =>
        rw [hmore] at h
        contradiction
      | cons c last =>
        rw [hmore] at h
        dsimp only at h
        split at h
        next hc =>
          obtain ⟨rfl, rfl⟩ := Prod.mk.inj (Except.ok.inj h)
          exact .emptyList (space_of_dropWhile_eq (hc ▸ hmore))
        next =>
          obtain ⟨⟨js, rest'⟩, hread, h⟩ := Except.map_eq_ok_iff.1 h
          obtain ⟨rfl, rfl⟩ := Prod.mk.inj h
          exact .list (hsound.items hread)
    by_cases hbrace : b = 123
    · subst hbrace
      rw [readValue_object] at h
      cases hmore : more.dropWhile isSpace with
      | nil =>
        rw [hmore] at h
        contradiction
      | cons c last =>
        rw [hmore] at h
        dsimp only at h
        split at h
        next hc =>
          obtain ⟨rfl, rfl⟩ := Prod.mk.inj (Except.ok.inj h)
          exact .emptyObject (space_of_dropWhile_eq (hc ▸ hmore))
        next =>
          obtain ⟨⟨ms, rest'⟩, hread, h⟩ := Except.map_eq_ok_iff.1 h
          obtain ⟨rfl, rfl⟩ := Prod.mk.inj h
          obtain ⟨members, rfl, hmembers⟩ := hsound.members hread
          exact .object hmembers
    · rw [readValue_scalar (isSpace_of_dropWhile_eq hstart) ⟨hquote, hbracket, hbrace⟩] at h
      exact derives_of_readScalar h

lemma Sound.items_succ (hsound : Sound fuel)
    (h : readItems strict (fuel + 1) input = .ok (js, rest)) :
    Derives (.items js) input (93 :: rest) := by
  rw [readItems_succ] at h
  obtain ⟨⟨item, finish⟩, hitem, h⟩ := Except.bind_eq_ok_iff.1 h
  have helement := hsound.element hitem
  dsimp only at h
  cases hfinish : finish.dropWhile isSpace with
  | nil =>
    rw [hfinish] at h
    contradiction
  | cons b more =>
    rw [hfinish] at h helement
    dsimp only at h
    split at h
    next hcomma =>
      subst hcomma
      obtain ⟨⟨items, rest'⟩, hitems, h⟩ := Except.map_eq_ok_iff.1 h
      obtain ⟨rfl, rfl⟩ := Prod.mk.inj h
      exact .nextItem helement (hsound.items hitems)
    next =>
      split at h
      next hbracket =>
        subst hbracket
        obtain ⟨rfl, rfl⟩ := Prod.mk.inj (Except.ok.inj h)
        exact .lastItem helement
      next => contradiction

/-- What is read as a member is one, up to the white space behind it. -/
lemma Sound.member (hsound : Sound fuel) {key : Text}
    (h : readMember strict fuel input = .ok ((key, j), rest)) :
    Derives (.member key j) input (rest.dropWhile isSpace) := by
  rw [readMember] at h
  cases hquote : input.dropWhile isSpace with
  | nil =>
    rw [hquote] at h
    contradiction
  | cons q literal =>
    rw [hquote] at h
    dsimp only at h
    split at h
    next hq =>
      subst hq
      obtain ⟨⟨key', after⟩, hkey, h⟩ := Except.bind_eq_ok_iff.1 h
      dsimp only at h
      cases hcolon : after.dropWhile isSpace with
      | nil =>
        rw [hcolon] at h
        contradiction
      | cons colon value =>
        rw [hcolon] at h
        dsimp only at h
        split at h
        next hc =>
          subst hc
          obtain ⟨⟨j', rest'⟩, hvalue, h⟩ := Except.map_eq_ok_iff.1 h
          obtain ⟨hmember, rfl⟩ := Prod.mk.inj h
          obtain ⟨rfl, rfl⟩ := Prod.mk.inj hmember
          exact .member (space_of_dropWhile_eq hquote) (readString_eq_ok_iff.1 hkey)
            (space_of_dropWhile_eq hcolon) (hsound.element hvalue)
        next => contradiction
    next => contradiction

lemma Sound.members_succ (hsound : Sound fuel)
    (h : readMembers strict (fuel + 1) before input = .ok (ms, rest)) :
    ∃ more, ms = collect before more ∧ Derives (.members more) input (125 :: rest) := by
  rw [readMembers_succ] at h
  obtain ⟨⟨⟨key, j⟩, finish⟩, hread, h⟩ := Except.bind_eq_ok_iff.1 h
  have hmember := hsound.member hread
  dsimp only at h
  cases hfinish : finish.dropWhile isSpace with
  | nil =>
    rw [hfinish] at h
    contradiction
  | cons b more =>
    rw [hfinish] at h hmember
    dsimp only at h
    split at h
    next hcomma =>
      subst hcomma
      obtain ⟨members, rfl, hmembers⟩ := hsound.members h
      exact ⟨(key, j) :: members, rfl, .nextMember hmember hmembers⟩
    next =>
      split at h
      next hbrace =>
        subst hbrace
        obtain ⟨rfl, rfl⟩ := Prod.mk.inj (Except.ok.inj h)
        exact ⟨[(key, j)], rfl, .lastMember hmember⟩
      next => contradiction

/-- The readers come to phrases of the grammar only. -/
lemma sound (fuel : Nat) : Sound fuel := by
  induction fuel with
  | zero => exact ⟨fun h => by contradiction, fun h => by contradiction, fun h => by contradiction⟩
  | succ fuel ih => exact ⟨ih.value_succ, ih.items_succ, ih.members_succ⟩

/-- **The strict reader accepts the documents of JSON**, each with its meaning, and nothing else. -/
theorem read_eq_ok_iff : read strict input = .ok j ↔ IsDocument input j := by
  rw [read, Except.bind_eq_ok_iff, IsDocument]
  constructor
  · rintro ⟨⟨value, rest⟩, hvalue, h⟩
    dsimp only at h
    split at h
    next hspace =>
      obtain rfl := Except.ok.inj h
      have helement := (sound _).element hvalue
      rwa [(all_isSpace_iff.1 hspace).dropWhile_eq] at helement
    next => contradiction
  · intro h
    obtain ⟨finish, hread, hspace⟩ := h.isRead endsNumber_nil _ (Nat.le_refl _)
    refine ⟨(j, finish), hread, ?_⟩
    dsimp only
    rw [if_pos (all_isSpace_iff.2 hspace)]
    rfl

end Sound

end LogSearch.Json
