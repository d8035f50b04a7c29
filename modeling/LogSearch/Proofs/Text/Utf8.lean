import LogSearch.Text.Utf8
import Mathlib.Tactic.Lemma

/-!
# Texts read back from their bytes

A text is written as bytes by `Utf8.encode` and read by `Utf8.decode`, which refuses bytes that are
no text.  `decode_encode` says that the bytes of a text are read as this text.

The reader is a machine, and the proof follows it over the one to four bytes of a character: the
first byte tells how many are to come (`start_one` to `start_four`), every other one adds six bits
(`itemsFrom_more`, `itemsFrom_last`).  The bounds that the machine puts on the second byte are those
of characters that are not written shorter, are no surrogates and are not too large.  For the same
reason no other bytes are read as this text (`decode_eq_ok_iff`): what is read as a character is cut
off the front, one byte after the other, and put together again (`exists_of_itemsFrom_none`).

The bytes of a character beyond ASCII are all beyond ASCII (`le_of_mem_encodeNat`).  So a byte of
ASCII among the bytes of a text is a character of it, which is what a format needs whose marks are
bytes of ASCII.
-/

namespace LogSearch.Utf8

/-! ## Bytes of characters -/

lemma toNat_toUInt8 {n : Nat} (h : n < 256) : n.toUInt8.toNat = n := by
  rw [Nat.toUInt8, UInt8.toNat_ofNat']
  exact Nat.mod_eq_of_lt h

lemma toNat_lt (c : Char) : c.toNat < 0x110000 := by
  rcases c.valid with h | h
  · exact Nat.lt_trans h (by decide)
  · exact h.2

lemma encode_nil : encode [] = [] := rfl

lemma encode_cons (c : Char) (t : Text) : encode (c :: t) = encodeNat c.toNat ++ encode t := rfl

lemma encode_append (t u : Text) : encode (t ++ u) = encode t ++ encode u := List.flatMap_append

lemma encodeNat_of_lt {n : Nat} (h : n < 0x80) : encodeNat n = [n.toUInt8] := if_pos h

lemma le_of_mem_encodeNat {n : Nat} (hn : 0x80 ≤ n) (hmax : n < 0x110000) {b : UInt8}
    (hb : b ∈ encodeNat n) : 0x80 ≤ b.toNat := by
  rw [encodeNat, if_neg (by omega)] at hb
  split at hb
  · simp only [List.mem_cons, List.not_mem_nil, or_false] at hb
    rcases hb with rfl | rfl <;> rw [toNat_toUInt8 (by omega)] <;> omega
  · split at hb
    · simp only [List.mem_cons, List.not_mem_nil, or_false] at hb
      rcases hb with rfl | rfl | rfl <;> rw [toNat_toUInt8 (by omega)] <;> omega
    · simp only [List.mem_cons, List.not_mem_nil, or_false] at hb
      rcases hb with rfl | rfl | rfl | rfl <;> rw [toNat_toUInt8 (by omega)] <;> omega

/-- A byte of ASCII among the bytes of a text is a character of it. -/
lemma ofNat_mem_of_mem_encode {n : Nat} (hn : n < 0x80) {t : Text} (h : n.toUInt8 ∈ encode t) :
    Char.ofNat n ∈ t := by
  obtain ⟨c, hc, hb⟩ := List.mem_flatMap.1 h
  by_cases hlow : c.toNat < 0x80
  · rw [encodeNat_of_lt hlow, List.mem_singleton] at hb
    have heq : n = c.toNat := by
      rw [← toNat_toUInt8 (show n < 256 by omega), hb, toNat_toUInt8 (by omega)]
    rw [heq, Char.ofNat_toNat]
    exact hc
  · have hhigh := le_of_mem_encodeNat (by omega) (toNat_lt c) hb
    rw [toNat_toUInt8 (by omega)] at hhigh
    omega

/-! ## First bytes -/

lemma start_one {n : Nat} (h : n < 0x80) : start n.toUInt8 = .inl (.char (Char.ofNat n)) := by
  simp only [start, toNat_toUInt8 (show n < 256 by omega)]
  rw [if_pos h]

lemma start_two {v : Nat} (hlow : 2 ≤ v) (hv : v < 32) :
    start (0xC0 + v).toUInt8 = .inr ⟨[(0xC0 + v).toUInt8], v, 1, 0x80, 0xBF⟩ := by
  simp only [start, toNat_toUInt8 (show 0xC0 + v < 256 by omega)]
  rw [if_neg (by omega), if_neg (by omega), if_pos (by omega), Nat.add_sub_cancel_left]

lemma start_three {v : Nat} (hv : v < 16) :
    start (0xE0 + v).toUInt8 =
      .inr ⟨[(0xE0 + v).toUInt8], v, 2, if v = 0 then 0xA0 else 0x80,
        if v = 13 then 0x9F else 0xBF⟩ := by
  have hshorter : 0xE0 + v = 0xE0 ↔ v = 0 := by omega
  have hsurrogates : 0xE0 + v = 0xED ↔ v = 13 := by omega
  simp only [start, toNat_toUInt8 (show 0xE0 + v < 256 by omega), hshorter, hsurrogates]
  rw [if_neg (by omega), if_neg (by omega), if_neg (by omega), if_pos (by omega),
    Nat.add_sub_cancel_left]

lemma start_four {v : Nat} (hv : v < 5) :
    start (0xF0 + v).toUInt8 =
      .inr ⟨[(0xF0 + v).toUInt8], v, 3, if v = 0 then 0x90 else 0x80,
        if v = 4 then 0x8F else 0xBF⟩ := by
  have hshorter : 0xF0 + v = 0xF0 ↔ v = 0 := by omega
  have hlast : 0xF0 + v = 0xF4 ↔ v = 4 := by omega
  simp only [start, toNat_toUInt8 (show 0xF0 + v < 256 by omega), hshorter, hlast]
  rw [if_neg (by omega), if_neg (by omega), if_neg (by omega), if_neg (by omega),
    if_pos (by omega), Nat.add_sub_cancel_left]

lemma itemsFrom_of_start {b : UInt8} {p : Pending} (h : start b = .inr p) (rest : Bytes) :
    itemsFrom none (b :: rest) = itemsFrom (some p) rest := by
  rw [itemsFrom, h]

/-! ## Bytes that continue a character -/

section Continue

variable {p : Pending} {v : Nat}

lemma continue?_tail (hv : v < 64) (hleast : p.least ≤ 0x80 + v)
    (hgreatest : 0x80 + v ≤ p.greatest) :
    p.continue? (0x80 + v).toUInt8 =
      if p.missing ≤ 1 then some (.inl (.char (Char.ofNat (p.value * 64 + v))))
      else
        some (.inr
          ⟨(0x80 + v).toUInt8 :: p.bytes, p.value * 64 + v, p.missing - 1, 0x80, 0xBF⟩) := by
  have hmod : (0x80 + v) % 64 = v := by omega
  rw [Pending.continue?]
  simp only [toNat_toUInt8 (show 0x80 + v < 256 by omega), hmod]
  rw [if_pos ⟨hleast, hgreatest⟩]

lemma itemsFrom_more (hv : v < 64) (hleast : p.least ≤ 0x80 + v) (hgreatest : 0x80 + v ≤ p.greatest)
    (hmissing : 1 < p.missing) (rest : Bytes) :
    itemsFrom (some p) ((0x80 + v).toUInt8 :: rest) =
      itemsFrom
        (some ⟨(0x80 + v).toUInt8 :: p.bytes, p.value * 64 + v, p.missing - 1, 0x80, 0xBF⟩)
        rest := by
  rw [itemsFrom, continue?_tail hv hleast hgreatest, if_neg (by omega)]

lemma itemsFrom_last (hv : v < 64) (hleast : p.least ≤ 0x80 + v) (hgreatest : 0x80 + v ≤ p.greatest)
    (hmissing : p.missing = 1) (rest : Bytes) :
    itemsFrom (some p) ((0x80 + v).toUInt8 :: rest) =
      .char (Char.ofNat (p.value * 64 + v)) :: itemsFrom none rest := by
  rw [itemsFrom, continue?_tail hv hleast hgreatest, if_pos (by omega)]

end Continue

/-! ## Texts -/

/-- The bytes of a character are read as this character, whatever follows them. -/
lemma itemsFrom_encodeNat (c : Char) (rest : Bytes) :
    itemsFrom none (encodeNat c.toNat ++ rest) = .char c :: itemsFrom none rest := by
  have hmax := toNat_lt c
  have hsurrogate : c.toNat < 0xD800 ∨ 0xDFFF < c.toNat := c.valid.imp_right And.left
  have hc : Char.ofNat c.toNat = c := Char.ofNat_toNat c
  generalize c.toNat = n at *
  rw [encodeNat]
  split
  next h => rw [List.singleton_append, itemsFrom, start_one h, hc]
  next =>
    split
    next =>
      have hvalue : n / 64 * 64 + n % 64 = n := by omega
      simp only [List.cons_append, List.nil_append]
      rw [itemsFrom_of_start (start_two (by omega) (by omega)),
        itemsFrom_last (by omega) (by simp) (by simp; omega) rfl, hvalue, hc]
    next =>
      split
      next =>
        have hvalue : (n / 4096 * 64 + n / 64 % 64) * 64 + n % 64 = n := by omega
        simp only [List.cons_append, List.nil_append]
        rw [itemsFrom_of_start (start_three (by omega)),
          itemsFrom_more (by omega) (by simp only; split <;> omega)
            (by simp only; split <;> omega) (by simp),
          itemsFrom_last (by omega) (by simp) (by simp; omega) rfl, hvalue, hc]
      next =>
        have hvalue :
            ((n / 262144 * 64 + n / 4096 % 64) * 64 + n / 64 % 64) * 64 + n % 64 = n := by omega
        simp only [List.cons_append, List.nil_append]
        rw [itemsFrom_of_start (start_four (by omega)),
          itemsFrom_more (by omega) (by simp only; split <;> omega)
            (by simp only; split <;> omega) (by simp),
          itemsFrom_more (by omega) (by simp) (by simp; omega) (by simp),
          itemsFrom_last (by omega) (by simp) (by simp; omega) rfl, hvalue, hc]

lemma items_encode (t : Text) : items (encode t) = t.map .char := by
  rw [items]
  induction t with
  | nil => rfl
  | cons c rest ih => rw [encode_cons, itemsFrom_encodeNat, ih, List.map_cons]

lemma textOfItems_map_char (position : Nat) (t : Text) :
    textOfItems position (t.map .char) = .ok t := by
  induction t generalizing position with
  | nil => rfl
  | cons c rest ih =>
    rw [List.map_cons, textOfItems, ih]
    rfl

/-- **A text is read back from its bytes.** -/
theorem decode_encode (t : Text) : decode (encode t) = .ok t := by
  rw [decode, items_encode, textOfItems_map_char]

/-! ## Bytes that are read as a text -/

lemma toNat_ofNat {n : Nat} (h : n.isValidChar) : (Char.ofNat n).toNat = n := by
  rw [Char.ofNat, dif_pos h]
  rfl

lemma forall_byte {p : UInt8 → Prop} (h : ∀ n < 256, p n.toUInt8) (b : UInt8) : p b := by
  have hb : b.toNat.toUInt8 = b := UInt8.ofNat_toNat
  rw [← hb]
  exact h b.toNat b.toNat_lt

/-- A byte, by how far it lies above a lower bound. -/
lemma exists_toUInt8 {b : UInt8} {least : Nat} (h : least ≤ b.toNat) :
    ∃ v, b = (least + v).toUInt8 ∧ b.toNat = least + v :=
  ⟨b.toNat - least, by rw [Nat.add_sub_cancel' h]; exact UInt8.ofNat_toNat.symm, by omega⟩

section Read

variable {p : Pending} {c : Char} {more : List Item} {input : Bytes}

/-- Where a character has begun and is read, the next byte has six bits of it. -/
lemma exists_of_itemsFrom_some (hleast : 0x80 ≤ p.least) (hgreatest : p.greatest ≤ 0xBF)
    (h : itemsFrom (some p) input = .char c :: more) :
    ∃ v rest, v < 64 ∧ p.least ≤ 0x80 + v ∧ 0x80 + v ≤ p.greatest ∧
      input = (0x80 + v).toUInt8 :: rest := by
  cases input with
  | nil => simp [itemsFrom] at h
  | cons b rest =>
    by_cases hb : p.least ≤ b.toNat ∧ b.toNat ≤ p.greatest
    · obtain ⟨v, hv, hvalue⟩ := exists_toUInt8 (Nat.le_trans hleast hb.1)
      exact ⟨v, rest, by omega, by omega, by omega, by rw [hv]⟩
    · rw [itemsFrom, Pending.continue?, if_neg hb] at h
      simp at h

/-- Where one byte of a character is missing, it is the next one. -/
lemma exists_of_missing_one (hleast : 0x80 ≤ p.least) (hgreatest : p.greatest ≤ 0xBF)
    (hmissing : p.missing = 1) (h : itemsFrom (some p) input = .char c :: more) :
    ∃ v rest, v < 64 ∧ p.least ≤ 0x80 + v ∧ 0x80 + v ≤ p.greatest ∧
      input = (0x80 + v).toUInt8 :: rest ∧ c = Char.ofNat (p.value * 64 + v) ∧
      more = itemsFrom none rest := by
  obtain ⟨v, rest, hv, hlow, hhigh, rfl⟩ := exists_of_itemsFrom_some hleast hgreatest h
  rw [itemsFrom_last hv hlow hhigh hmissing] at h
  injection h with hc hmore
  injection hc with hc
  exact ⟨v, rest, hv, hlow, hhigh, rfl, hc.symm, hmore.symm⟩

/-- Where more bytes of a character are missing, the next one leaves one less. -/
lemma exists_of_missing_more (hleast : 0x80 ≤ p.least) (hgreatest : p.greatest ≤ 0xBF)
    (hmissing : 1 < p.missing) (h : itemsFrom (some p) input = .char c :: more) :
    ∃ v rest, v < 64 ∧ p.least ≤ 0x80 + v ∧ 0x80 + v ≤ p.greatest ∧
      input = (0x80 + v).toUInt8 :: rest ∧
      itemsFrom
        (some ⟨(0x80 + v).toUInt8 :: p.bytes, p.value * 64 + v, p.missing - 1, 0x80, 0xBF⟩)
        rest = .char c :: more := by
  obtain ⟨v, rest, hv, hlow, hhigh, rfl⟩ := exists_of_itemsFrom_some hleast hgreatest h
  rw [itemsFrom_more hv hlow hhigh hmissing] at h
  exact ⟨v, rest, hv, hlow, hhigh, rfl, h⟩

lemma encodeNat_two {u v : Nat} (hu : 2 ≤ u) (hmax : u < 32) (hv : v < 64) :
    encodeNat (u * 64 + v) = [(0xC0 + u).toUInt8, (0x80 + v).toUInt8] := by
  have hhigh : (u * 64 + v) / 64 = u := by omega
  have hlow : (u * 64 + v) % 64 = v := by omega
  rw [encodeNat, if_neg (by omega), if_pos (by omega), hhigh, hlow]

lemma encodeNat_three {u v w : Nat} (hu : u < 16) (hmin : 0x800 ≤ u * 4096 + v * 64) (hv : v < 64)
    (hw : w < 64) :
    encodeNat ((u * 64 + v) * 64 + w) =
      [(0xE0 + u).toUInt8, (0x80 + v).toUInt8, (0x80 + w).toUInt8] := by
  have hhigh : ((u * 64 + v) * 64 + w) / 4096 = u := by omega
  have hmiddle : ((u * 64 + v) * 64 + w) / 64 % 64 = v := by omega
  have hlow : ((u * 64 + v) * 64 + w) % 64 = w := by omega
  rw [encodeNat, if_neg (by omega), if_neg (by omega), if_pos (by omega), hhigh, hmiddle, hlow]

lemma encodeNat_four {u v w x : Nat} (hmin : 0x10000 ≤ u * 262144 + v * 4096) (hv : v < 64)
    (hw : w < 64) (hx : x < 64) :
    encodeNat (((u * 64 + v) * 64 + w) * 64 + x) =
      [(0xF0 + u).toUInt8, (0x80 + v).toUInt8, (0x80 + w).toUInt8, (0x80 + x).toUInt8] := by
  have hfirst : (((u * 64 + v) * 64 + w) * 64 + x) / 262144 = u := by omega
  have hsecond : (((u * 64 + v) * 64 + w) * 64 + x) / 4096 % 64 = v := by omega
  have hthird : (((u * 64 + v) * 64 + w) * 64 + x) / 64 % 64 = w := by omega
  have hlast : (((u * 64 + v) * 64 + w) * 64 + x) % 64 = x := by omega
  rw [encodeNat, if_neg (by omega), if_neg (by omega), if_neg (by omega), hfirst, hsecond, hthird,
    hlast]

/-- The bytes that are read as a character are its own: a longer form of it is not read, and a
number is not read that is of no character. -/
lemma exists_of_itemsFrom_none (h : itemsFrom none input = .char c :: more) :
    ∃ rest, input = encodeNat c.toNat ++ rest ∧ more = itemsFrom none rest := by
  cases input with
  | nil => simp [itemsFrom] at h
  | cons b rest =>
    by_cases hone : b.toNat < 0x80
    · rw [itemsFrom, start, if_pos hone] at h
      injection h with hc hmore
      injection hc with hc
      refine ⟨rest, ?_, hmore.symm⟩
      rw [← hc, toNat_ofNat (.inl (by omega)), encodeNat_of_lt hone, List.singleton_append]
      exact congrArg (· :: rest) UInt8.ofNat_toNat.symm
    by_cases htail : b.toNat < 0xC2
    · rw [itemsFrom, start, if_neg hone, if_pos htail] at h
      simp at h
    by_cases htwo : b.toNat < 0xE0
    · obtain ⟨u, rfl, hu⟩ := exists_toUInt8 (show 0xC0 ≤ b.toNat by omega)
      rw [itemsFrom_of_start (start_two (by omega) (by omega))] at h
      obtain ⟨v, rest, hv, -, -, rfl, rfl, hmore⟩ :=
        exists_of_missing_one (Nat.le_refl _) (Nat.le_refl _) rfl h
      dsimp only
      refine ⟨rest, ?_, hmore⟩
      rw [toNat_ofNat (.inl (by omega)), encodeNat_two (by omega) (by omega) hv]
      rfl
    by_cases hthree : b.toNat < 0xF0
    · obtain ⟨u, rfl, hu⟩ := exists_toUInt8 (show 0xE0 ≤ b.toNat by omega)
      rw [itemsFrom_of_start (start_three (by omega))] at h
      obtain ⟨v, rest, hv, hleast, hgreatest, rfl, hnext⟩ := exists_of_missing_more
        (by dsimp only; split <;> omega) (by dsimp only; split <;> omega) (by simp) h
      obtain ⟨w, rest, hw, -, -, rfl, rfl, hmore⟩ :=
        exists_of_missing_one (Nat.le_refl _) (Nat.le_refl _) rfl hnext
      dsimp only at hleast hgreatest ⊢
      refine ⟨rest, ?_, hmore⟩
      have hmin : 0x800 ≤ u * 4096 + v * 64 := by split at hleast <;> omega
      have hsurrogate : (u * 64 + v) * 64 + w < 0xD800 ∨ 0xDFFF < (u * 64 + v) * 64 + w := by
        split at hgreatest <;> omega
      rw [toNat_ofNat (by omega), encodeNat_three (by omega) hmin hv hw]
      rfl
    by_cases hfour : b.toNat < 0xF5
    · obtain ⟨u, rfl, hu⟩ := exists_toUInt8 (show 0xF0 ≤ b.toNat by omega)
      rw [itemsFrom_of_start (start_four (by omega))] at h
      obtain ⟨v, rest, hv, hleast, hgreatest, rfl, hnext⟩ := exists_of_missing_more
        (by dsimp only; split <;> omega) (by dsimp only; split <;> omega) (by simp) h
      obtain ⟨w, rest, hw, -, -, rfl, hlast⟩ :=
        exists_of_missing_more (Nat.le_refl _) (Nat.le_refl _) (by simp) hnext
      obtain ⟨x, rest, hx, -, -, rfl, rfl, hmore⟩ :=
        exists_of_missing_one (Nat.le_refl _) (Nat.le_refl _) rfl hlast
      dsimp only at hleast hgreatest ⊢
      refine ⟨rest, ?_, hmore⟩
      have hmin : 0x10000 ≤ u * 262144 + v * 4096 := by split at hleast <;> omega
      have hmax : ((u * 64 + v) * 64 + w) * 64 + x < 0x110000 := by split at hgreatest <;> omega
      rw [toNat_ofNat (.inr (by omega)), encodeNat_four hmin hv hw hx]
      rfl
    · rw [itemsFrom, start, if_neg hone, if_neg htail, if_neg htwo, if_neg hthree,
        if_neg hfour] at h
      simp at h

/-- Where a character has begun, there is an item: the character, or a run of bytes that is none. -/
lemma itemsFrom_some_ne_nil : itemsFrom (some p) input ≠ [] := by
  induction input generalizing p with
  | nil => simp [itemsFrom]
  | cons b rest ih =>
    rw [itemsFrom]
    split
    · simp
    · exact ih
    · simp

lemma itemsFrom_cons_ne_nil {b : UInt8} : itemsFrom none (b :: input) ≠ [] := by
  rw [itemsFrom]
  split
  · simp
  · exact itemsFrom_some_ne_nil

/-- If all items are characters, they are those of a text. -/
lemma eq_encode_of_items {t : Text} (h : itemsFrom none input = t.map .char) :
    input = encode t := by
  induction t generalizing input with
  | nil =>
    cases input with
    | nil => rfl
    | cons b rest => exact absurd h itemsFrom_cons_ne_nil
  | cons c t ih =>
    obtain ⟨rest, rfl, hmore⟩ := exists_of_itemsFrom_none h
    rw [ih hmore.symm, encode_cons]

lemma eq_map_char_of_textOfItems {t : Text} {position : Nat} {items : List Item}
    (h : textOfItems position items = .ok t) : items = t.map .char := by
  induction items generalizing t position with
  | nil =>
    injection h with h
    rw [← h]
    rfl
  | cons item items ih =>
    cases item with
    | invalid bytes cause => contradiction
    | char c =>
      rw [textOfItems] at h
      cases hmore : textOfItems (position + (encodeNat c.toNat).length) items with
      | error fault => rw [hmore] at h; contradiction
      | ok more =>
        rw [hmore] at h
        injection h with h
        rw [← h, ih hmore]
        rfl

/-- **The bytes that are read as a text are its own**, and so no others are. -/
theorem decode_eq_ok_iff {t : Text} : decode input = .ok t ↔ input = encode t := by
  constructor
  · intro h
    exact eq_encode_of_items (eq_map_char_of_textOfItems h)
  · rintro rfl
    exact decode_encode t

end Read

/-! ## Bytes that are a text -/

/-- The bytes are those of a text. -/
def IsText (bytes : Bytes) : Prop := ∃ t, bytes = encode t

section IsText

variable {front rest bytes more : Bytes} {b : UInt8} {n : Nat}

lemma not_isText_iff : ¬ IsText bytes ↔ ∃ fault, decode bytes = .error fault := by
  constructor
  · intro h
    cases hdecode : decode bytes with
    | error fault => exact ⟨fault, rfl⟩
    | ok t => exact absurd ⟨t, decode_eq_ok_iff.1 hdecode⟩ h
  · rintro ⟨fault, h⟩ ⟨t, rfl⟩
    rw [decode_encode] at h
    contradiction

lemma isText_nil : IsText [] := ⟨[], rfl⟩

lemma IsText.append (h : IsText bytes) (hmore : IsText more) : IsText (bytes ++ more) := by
  obtain ⟨t, rfl⟩ := h
  obtain ⟨u, rfl⟩ := hmore
  exact ⟨t ++ u, (encode_append t u).symm⟩

lemma isText_encodeNat (h : n.isValidChar) : IsText (encodeNat n) :=
  ⟨[Char.ofNat n], by rw [encode_cons, encode_nil, List.append_nil, toNat_ofNat h]⟩

lemma isText_singleton (hb : b.toNat < 0x80) : IsText [b] := by
  have hbyte : encodeNat b.toNat = [b] := by
    rw [encodeNat_of_lt hb]
    exact congrArg (fun b => [b]) UInt8.ofNat_toNat
  rw [← hbyte]
  exact isText_encodeNat (.inl (by omega))

/-- A byte of ASCII is a character, so a text can be cut there. -/
lemma IsText.of_append_cons (hb : b.toNat < 0x80) (h : IsText (front ++ b :: rest)) :
    IsText front ∧ IsText rest := by
  obtain ⟨t, ht⟩ := h
  induction t generalizing front with
  | nil => simp [encode_nil] at ht
  | cons c t ih =>
    have hc : IsText (encodeNat c.toNat) := ⟨[c], by rw [encode_cons, encode_nil, List.append_nil]⟩
    rw [encode_cons, List.append_eq_append_iff] at ht
    rcases ht with ⟨_ | ⟨d, middle⟩, hcharacter, hbehind⟩ | ⟨middle, rfl, hbehind⟩
    · obtain ⟨-, hrest⟩ := ih (show [] ++ b :: rest = encode t from hbehind)
      rw [List.append_nil] at hcharacter
      exact ⟨hcharacter ▸ hc, hrest⟩
    · obtain ⟨rfl, hrest⟩ := List.cons.inj hbehind
      have hmem : b ∈ encodeNat c.toNat := by simp [hcharacter]
      have hascii : c.toNat < 0x80 := Nat.lt_of_not_le fun hhigh =>
        Nat.not_lt.2 (le_of_mem_encodeNat hhigh (toNat_lt c) hmem) hb
      rw [encodeNat_of_lt hascii] at hcharacter
      have hnone := congrArg List.length hcharacter
      simp only [List.length_append, List.length_cons, List.length_nil] at hnone
      obtain rfl : front = [] := List.eq_nil_of_length_eq_zero (by omega)
      obtain rfl : middle = [] := List.eq_nil_of_length_eq_zero (by omega)
      exact ⟨isText_nil, t, hrest⟩
    · obtain ⟨hmiddle, hrest⟩ := ih hbehind.symm
      exact ⟨hc.append hmiddle, hrest⟩

end IsText

end LogSearch.Utf8
