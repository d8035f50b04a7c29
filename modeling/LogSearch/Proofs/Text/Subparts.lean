import LogSearch.Proofs.Text.Utf8
import Mathlib.Tactic.SplitIfs

/-!
# Bytes that are no text

Bytes of which not all are characters are still read as a text, in which a replacement character
stands for what is no character.  How many bytes one replacement stands for is a rule of its own:
where no character can be read, it stands for the longest run of bytes with which a character could
begin, and for a single byte if there is none (`IsSubpart`).  Between these runs the characters are
those that the bytes spell.  `LossyText` says this without the machine that reads the bytes, and
`lossyText_iff` that the machine reads just this text.

The machine is held to the rule by what it does with every continuation.  A character that it has
begun can be finished (`Pending.Sound.exists_char`), so its bytes are the beginning of a character;
and where it gives up, it would give up whatever came next, so no character begins with one byte
more.

A byte of ASCII continues no character.  So it ends whatever has begun before it and is read as
itself (`decodeLossy_append_cons`), and a character of ASCII is never read from anything else
(`mem_of_mem_decodeLossy`).
-/

namespace LogSearch.Utf8

/-! ## The rule -/

/-- Some character begins with these bytes, of which there is at least one. -/
def BeginsChar (run : Bytes) : Prop := run ≠ [] ∧ ∃ c : Char, run <+: encodeNat c.toNat

/-- The run is one that a replacement may stand for. -/
def IsCandidate (run : Bytes) : Prop := run.length = 1 ∨ BeginsChar run

/-- One replacement stands for the run, and `rest` comes behind it: no character can be read, and
the run is the longest one that a replacement may stand for. -/
structure IsSubpart (run rest : Bytes) : Prop where
  unreadable : ∀ c : Char, ¬ encodeNat c.toNat <+: run ++ rest
  candidate : IsCandidate run
  longest : ∀ other, other <+: run ++ rest → IsCandidate other → other.length ≤ run.length

/-- The text is what the bytes are read as. -/
inductive LossyText : Bytes → Text → Prop where
  | nil : LossyText [] []
  | char (c : Char) {rest : Bytes} {t : Text} (hrest : LossyText rest t) :
      LossyText (encodeNat c.toNat ++ rest) (c :: t)
  | subpart {run rest : Bytes} {t : Text} (hrun : IsSubpart run rest) (hrest : LossyText rest t) :
      LossyText (run ++ rest) (replacement :: t)

variable {run rest front input : Bytes} {b : UInt8} {p q : Pending} {item : Item}
  {more : List Item} {cause : Cause}

lemma IsCandidate.length_pos (h : IsCandidate run) : 0 < run.length := by
  obtain hone | hbegins := h
  · omega
  · exact List.length_pos_iff.2 hbegins.1

/-- At the front of an input there is only one run for a replacement. -/
lemma IsSubpart.unique {run' rest' : Bytes} (h : IsSubpart run rest) (h' : IsSubpart run' rest')
    (heq : run ++ rest = run' ++ rest') : run = run' ∧ rest = rest' := by
  have hle : run.length ≤ run'.length :=
    h'.longest run (heq ▸ List.prefix_append run rest) h.candidate
  have hge : run'.length ≤ run.length :=
    h.longest run' (heq ▸ List.prefix_append run' rest') h'.candidate
  exact List.append_inj heq (Nat.le_antisymm hle hge)

/-! ## Steps of the machine -/

/-- Where a character has begun, some byte may come next, and none of ASCII. -/
structure Pending.Sound (p : Pending) : Prop where
  beyond : 0x80 ≤ p.least
  le : p.least ≤ p.greatest
  greatest : p.greatest ≤ 0xBF

/-- A first byte is a character, begins one, or does neither. -/
lemma start_cases (b : UInt8) :
    (∃ c, start b = .inl (.char c)) ∨ start b = .inl (.invalid [b] .start) ∨
      ∃ p : Pending, start b = .inr p ∧ p.bytes = [b] ∧ p.Sound := by
  simp only [start]
  split
  · exact .inl ⟨_, rfl⟩
  split
  · exact .inr (.inl rfl)
  split
  · exact .inr (.inr ⟨_, rfl, rfl, by constructor <;> simp⟩)
  split
  · exact .inr (.inr ⟨_, rfl, rfl, by constructor <;> dsimp only <;> split_ifs <;> omega⟩)
  split
  · exact .inr (.inr ⟨_, rfl, rfl, by constructor <;> dsimp only <;> split_ifs <;> omega⟩)
  · exact .inr (.inl rfl)

/-- A byte does not continue a character, or it ends it, or it leaves one byte less to come. -/
lemma Pending.continue?_cases (p : Pending) (b : UInt8) :
    (p.continue? b = none ∧ ¬ (p.least ≤ b.toNat ∧ b.toNat ≤ p.greatest)) ∨
      (∃ c, p.continue? b = some (.inl (.char c))) ∨
        ∃ q : Pending, p.continue? b = some (.inr q) ∧ q.bytes = b :: p.bytes ∧
          q.missing < p.missing ∧ q.Sound := by
  simp only [continue?]
  split
  next =>
    split
    · exact .inr (.inl ⟨_, rfl⟩)
    · exact .inr (.inr ⟨_, rfl, rfl, by dsimp only; omega, by constructor <;> simp⟩)
  next hout => exact .inl ⟨rfl, hout⟩

lemma itemsFrom_of_start_item (h : start b = .inl item) (rest : Bytes) :
    itemsFrom none (b :: rest) = item :: itemsFrom none rest := by
  rw [itemsFrom, h]

lemma itemsFrom_of_continue_item (h : p.continue? b = some (.inl item)) (rest : Bytes) :
    itemsFrom (some p) (b :: rest) = item :: itemsFrom none rest := by
  rw [itemsFrom, h]

lemma itemsFrom_of_continue (h : p.continue? b = some (.inr q)) (rest : Bytes) :
    itemsFrom (some p) (b :: rest) = itemsFrom (some q) rest := by
  rw [itemsFrom, h]

lemma itemsFrom_of_not_continue (h : p.continue? b = none) (rest : Bytes) :
    itemsFrom (some p) (b :: rest) =
      .invalid p.bytes.reverse .continuation :: itemsFrom none (b :: rest) := by
  simp only [itemsFrom, h]

/-! ## Beginnings of characters -/

lemma Pending.Sound.exists_char (h : p.Sound) :
    ∃ input c, itemsFrom (some p) input = [.char c] := by
  generalize hmissing : p.missing = n
  induction n using Nat.strongRecOn generalizing p with
  | _ n ih =>
    have hle := h.le
    have hgreatest := h.greatest
    have hbyte : p.least.toUInt8.toNat = p.least := toNat_toUInt8 (by omega)
    -- the least byte that may come next is one that does
    obtain ⟨-, hout⟩ | ⟨c, hend⟩ | ⟨q, hnext, -, hless, hq⟩ := p.continue?_cases p.least.toUInt8
    · exact absurd ⟨by omega, by omega⟩ hout
    · exact ⟨[p.least.toUInt8], c, itemsFrom_of_continue_item hend []⟩
    · obtain ⟨input, c, hinput⟩ := ih q.missing (hmissing ▸ hless) hq rfl
      exact ⟨p.least.toUInt8 :: input, c, by rw [itemsFrom_of_continue hnext, hinput]⟩

/-- The machine that has read a run has begun a character. -/
structure Begun (run : Bytes) (p : Pending) : Prop where
  bytes : p.bytes.reverse = run
  sound : p.Sound
  items : ∀ input, itemsFrom none (run ++ input) = itemsFrom (some p) input

namespace Begun

lemma of_start (h : start b = .inr p) (hbytes : p.bytes = [b]) (hp : p.Sound) : Begun [b] p where
  bytes := by rw [hbytes, List.reverse_singleton]
  sound := hp
  items input := itemsFrom_of_start h input

lemma next (h : Begun run p) (hnext : p.continue? b = some (.inr q))
    (hbytes : q.bytes = b :: p.bytes) (hq : q.Sound) : Begun (run ++ [b]) q where
  bytes := by rw [hbytes, List.reverse_cons, h.bytes]
  sound := hq
  items input := by
    rw [List.append_assoc, h.items, List.singleton_append, itemsFrom_of_continue hnext]

/-- Bytes with which the machine has begun a character are the beginning of one. -/
lemma beginsChar (h : Begun run p) : BeginsChar run := by
  constructor
  · rintro rfl
    -- where nothing is read, nothing has begun
    exact itemsFrom_some_ne_nil (h.items []).symm
  · -- the bytes that finish the character, put behind the run, make the machine give just that
    obtain ⟨input, c, hinput⟩ := h.sound.exists_char
    obtain ⟨rest, hrun, hrest⟩ := exists_of_itemsFrom_none ((h.items input).trans hinput)
    cases rest with
    | nil => exact ⟨c, input, by rw [hrun, List.append_nil]⟩
    | cons b rest => exact absurd hrest.symm itemsFrom_cons_ne_nil

end Begun

/-- Bytes after which the machine gives up, whatever comes, are the beginning of no character. -/
lemma not_beginsChar (h : ∀ input, ∃ bytes cause more,
    itemsFrom none (run ++ input) = .invalid bytes cause :: more) : ¬ BeginsChar run := by
  rintro ⟨-, c, input, hc⟩
  obtain ⟨bytes, cause, more, hgiven⟩ := h input
  have hread := itemsFrom_encodeNat c []
  rw [List.append_nil, ← hc, hgiven] at hread
  cases hread

/-! ## Runs that are replaced -/

/-- What the machine gives as no character is a run that is a single byte or the beginning of a
character, but is not with the byte after it, and the machine goes on behind it. -/
structure GivesUp (input run : Bytes) (more : List Item) (rest : Bytes) : Prop where
  whole : input = run ++ rest
  candidate : IsCandidate run
  next : ∀ b ∈ rest.head?, ¬ BeginsChar (run ++ [b])
  more : more = itemsFrom none rest

lemma Begun.exists_givesUp (h : Begun front p)
    (hinvalid : itemsFrom (some p) input = .invalid run cause :: more) :
    ∃ rest, GivesUp (front ++ input) run more rest := by
  -- by induction on what is still to be read; what goes on with the character joins the front
  induction input generalizing front p with
  | nil =>
    rw [itemsFrom, List.cons.injEq, Item.invalid.injEq, h.bytes] at hinvalid
    obtain ⟨⟨rfl, -⟩, rfl⟩ := hinvalid
    exact ⟨[], rfl, .inr h.beginsChar, by simp, rfl⟩
  | cons b input ih =>
    obtain ⟨hstop, -⟩ | ⟨c, hend⟩ | ⟨q, hnext, hbytes, -, hq⟩ := p.continue?_cases b
    · rw [itemsFrom_of_not_continue hstop, List.cons.injEq, Item.invalid.injEq, h.bytes] at hinvalid
      obtain ⟨⟨rfl, -⟩, rfl⟩ := hinvalid
      refine ⟨b :: input, rfl, .inr h.beginsChar, fun d hd => ?_, rfl⟩
      -- the byte at which the machine stops would stop it before any other bytes
      obtain rfl : b = d := Option.some.inj hd
      refine not_beginsChar fun more =>
        ⟨p.bytes.reverse, .continuation, itemsFrom none (b :: more), ?_⟩
      rw [List.append_assoc, h.items, List.singleton_append, itemsFrom_of_not_continue hstop]
    · rw [itemsFrom_of_continue_item hend] at hinvalid
      cases hinvalid
    · rw [itemsFrom_of_continue hnext] at hinvalid
      obtain ⟨rest, hgiven⟩ := ih (h.next hnext hbytes hq) hinvalid
      rw [List.append_assoc, List.singleton_append] at hgiven
      exact ⟨rest, hgiven⟩

lemma exists_givesUp (hinvalid : itemsFrom none input = .invalid run cause :: more) :
    ∃ rest, GivesUp input run more rest := by
  cases input with
  | nil => cases hinvalid
  | cons b input =>
    obtain ⟨c, hchar⟩ | hnone | ⟨p, hbegun, hbytes, hp⟩ := start_cases b
    · rw [itemsFrom_of_start_item hchar] at hinvalid
      cases hinvalid
    · rw [itemsFrom_of_start_item hnone] at hinvalid
      cases hinvalid
      refine ⟨input, rfl, .inl rfl, fun d hd => ?_, rfl⟩
      exact not_beginsChar fun more => ⟨[b], .start, _, itemsFrom_of_start_item hnone (d :: more)⟩
    · rw [itemsFrom_of_start hbegun] at hinvalid
      exact (Begun.of_start hbegun hbytes hp).exists_givesUp hinvalid

/-- A run that cannot be made longer by one byte cannot be made longer at all. -/
lemma GivesUp.isSubpart (h : GivesUp input run more rest)
    (hinvalid : itemsFrom none input = .invalid run cause :: more) : IsSubpart run rest where
  unreadable c := by
    rintro ⟨behind, hc⟩
    rw [h.whole, ← hc, itemsFrom_encodeNat] at hinvalid
    cases hinvalid
  candidate := h.candidate
  longest other hother hcandidate := by
    refine Nat.le_of_not_lt fun hlonger => ?_
    have hpos := h.candidate.length_pos
    -- a longer run would begin with this one and one byte more
    obtain ⟨behind, rfl⟩ :=
      List.prefix_of_prefix_length_le (List.prefix_append run rest) hother (Nat.le_of_lt hlonger)
    rw [List.prefix_append_right_inj] at hother
    rw [List.length_append] at hlonger
    cases behind with
    | nil => simp at hlonger
    | cons b behind =>
      obtain ⟨tail, rfl⟩ := hother
      refine h.next b rfl ⟨by simp, ?_⟩
      obtain hone | ⟨-, c, hc⟩ := hcandidate
      · rw [List.length_append, List.length_cons] at hone
        omega
      · refine ⟨c, List.IsPrefix.trans ?_ hc⟩
        rw [List.prefix_append_right_inj]
        exact ⟨behind, rfl⟩

/-- Where one replacement stands for a run, the machine gives this run and goes on behind it. -/
lemma IsSubpart.exists_itemsFrom_eq (h : IsSubpart run rest) :
    ∃ cause, itemsFrom none (run ++ rest) = .invalid run cause :: itemsFrom none rest := by
  cases hitems : itemsFrom none (run ++ rest) with
  | nil =>
    obtain ⟨b, run', hrun⟩ := List.exists_cons_of_length_pos h.candidate.length_pos
    rw [hrun, List.cons_append] at hitems
    exact absurd hitems itemsFrom_cons_ne_nil
  | cons item more =>
    cases item with
    | char c =>
      obtain ⟨behind, hbehind, -⟩ := exists_of_itemsFrom_none hitems
      exact absurd ⟨behind, hbehind.symm⟩ (h.unreadable c)
    | invalid run' cause =>
      obtain ⟨rest', hgiven⟩ := exists_givesUp hitems
      obtain ⟨rfl, rfl⟩ := h.unique (hgiven.isSubpart hitems) hgiven.whole
      exact ⟨cause, by rw [hgiven.more]⟩

/-! ## Texts -/

lemma lossyText_of_items {items : List Item} (h : itemsFrom none input = items) :
    LossyText input (items.map Item.lossy) := by
  induction items generalizing input with
  | nil =>
    cases input with
    | nil => exact .nil
    | cons b rest => exact absurd h itemsFrom_cons_ne_nil
  | cons item items ih =>
    cases item with
    | char c =>
      obtain ⟨rest, rfl, hrest⟩ := exists_of_itemsFrom_none h
      exact .char c (ih hrest.symm)
    | invalid run cause =>
      obtain ⟨rest, hgiven⟩ := exists_givesUp h
      rw [hgiven.whole]
      exact .subpart (hgiven.isSubpart h) (ih hgiven.more.symm)

/-- **The machine reads any bytes by the rule**, and the rule leaves no other reading. -/
theorem lossyText_iff {t : Text} : LossyText input t ↔ t = decodeLossy input := by
  constructor
  · intro h
    induction h with
    | nil => rfl
    | char c _ ih => rw [decodeLossy, items, itemsFrom_encodeNat, List.map_cons, ih]; rfl
    | subpart hrun _ ih =>
      obtain ⟨cause, hitems⟩ := hrun.exists_itemsFrom_eq
      rw [decodeLossy, items, hitems, List.map_cons, ih]
      rfl
  · rintro rfl
    exact lossyText_of_items rfl

/-! ## Bytes of ASCII -/

lemma start_of_lt (hb : b.toNat < 0x80) : start b = .inl (.char (Char.ofNat b.toNat)) := by
  have hbyte : b.toNat.toUInt8 = b := UInt8.ofNat_toNat
  rw [← start_one hb, hbyte]

/-- A byte of ASCII ends what has begun before it and is read as itself. -/
lemma map_lossy_itemsFrom_append_cons {s : Option Pending} (hp : ∀ p ∈ s, p.Sound)
    (hb : b.toNat < 0x80) (front rest : Bytes) :
    (itemsFrom s (front ++ b :: rest)).map Item.lossy =
      (itemsFrom s front).map Item.lossy ++
        Char.ofNat b.toNat :: (itemsFrom none rest).map Item.lossy := by
  have hitself : itemsFrom none (b :: rest) = .char (Char.ofNat b.toNat) :: itemsFrom none rest :=
    itemsFrom_of_start_item (start_of_lt hb) rest
  -- the bytes before it may leave off in the middle of a character, hence any state
  induction front generalizing s with
  | nil =>
    cases s with
    | none => rw [List.nil_append, hitself]; rfl
    | some p =>
      have hbeyond := (hp p rfl).beyond
      have hstop : p.continue? b = none := by
        rw [Pending.continue?]
        exact if_neg fun hin => by omega
      rw [List.nil_append, itemsFrom_of_not_continue hstop, hitself]
      rfl
  | cons d front ih =>
    -- a byte that breaks off a character is looked at afresh, so this case comes up twice
    have hfresh : (itemsFrom none (d :: (front ++ b :: rest))).map Item.lossy =
        (itemsFrom none (d :: front)).map Item.lossy ++
          Char.ofNat b.toNat :: (itemsFrom none rest).map Item.lossy := by
      obtain ⟨c, hchar⟩ | hnone | ⟨q, hbegun, -, hq⟩ := start_cases d
      · simp only [itemsFrom_of_start_item hchar, List.map_cons, ih (s := none) (by simp),
          List.cons_append]
      · simp only [itemsFrom_of_start_item hnone, List.map_cons, ih (s := none) (by simp),
          List.cons_append]
      · simp only [itemsFrom_of_start hbegun, ih (s := some q) (by simpa using hq)]
    cases s with
    | none => exact hfresh
    | some p =>
      rw [List.cons_append]
      obtain ⟨hstop, -⟩ | ⟨c, hend⟩ | ⟨q, hnext, -, -, hq⟩ := p.continue?_cases d
      · simp only [itemsFrom_of_not_continue hstop, List.map_cons, hfresh, List.cons_append]
      · simp only [itemsFrom_of_continue_item hend, List.map_cons, ih (s := none) (by simp),
          List.cons_append]
      · simp only [itemsFrom_of_continue hnext, ih (s := some q) (by simpa using hq)]

/-- **A byte of ASCII is read as itself**, whatever bytes stand before it. -/
theorem decodeLossy_append_cons (hb : b.toNat < 0x80) (front rest : Bytes) :
    decodeLossy (front ++ b :: rest) =
      decodeLossy front ++ Char.ofNat b.toNat :: decodeLossy rest :=
  map_lossy_itemsFrom_append_cons (by simp) hb front rest

/-- A character of ASCII is read only from its byte. -/
lemma mem_of_mem_decodeLossy {c : Char} (hc : c.toNat < 0x80) (hmem : c ∈ decodeLossy input) :
    c.toNat.toUInt8 ∈ input := by
  have hread : LossyText input (decodeLossy input) := lossyText_iff.2 rfl
  generalize decodeLossy input = t at hmem hread
  induction hread with
  | nil => exact absurd hmem List.not_mem_nil
  | char d _ ih =>
    rw [List.mem_append]
    obtain rfl | hmem := List.mem_cons.1 hmem
    · exact .inl (by rw [encodeNat_of_lt hc]; exact List.mem_singleton_self _)
    · exact .inr (ih hmem)
  | subpart _ _ ih =>
    rw [List.mem_append]
    obtain rfl | hmem := List.mem_cons.1 hmem
    · exact absurd hc (by decide)
    · exact .inr (ih hmem)

end LogSearch.Utf8
