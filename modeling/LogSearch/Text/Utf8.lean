import LogSearch.Text.Basic

/-!
# UTF-8

A text is written as bytes, one to four for each character.  Bytes are read by a machine that
knows which bytes may come next (`Pending`).  It cuts its input into items: characters, and
runs of bytes that are no character.  Such a run is as long as some character could still
begin with it, and the byte after it is looked at afresh.

Two readings are built from the items: `decodeLossy` puts the replacement character for every
run that is no character, and `decode` refuses a text at the first of them.
-/

namespace LogSearch

/-- A sequence of bytes. -/
abbrev Bytes := List UInt8

namespace Utf8

/-- The character that stands for bytes that are none. -/
def replacement : Char := Char.ofNat 0xFFFD

/-- The bytes of one code point. -/
def encodeNat (n : Nat) : Bytes :=
  if n < 0x80 then [n.toUInt8]
  else if n < 0x800 then [(0xC0 + n / 64).toUInt8, (0x80 + n % 64).toUInt8]
  else if n < 0x10000 then
    [(0xE0 + n / 4096).toUInt8, (0x80 + n / 64 % 64).toUInt8, (0x80 + n % 64).toUInt8]
  else
    [(0xF0 + n / 262144).toUInt8, (0x80 + n / 4096 % 64).toUInt8, (0x80 + n / 64 % 64).toUInt8,
      (0x80 + n % 64).toUInt8]

/-- The bytes of a text. -/
def encode (t : Text) : Bytes := t.flatMap fun c => encodeNat c.toNat

/-- The number of bytes of a text. -/
def size (t : Text) : Nat := (encode t).length

/-- Why a run of bytes is no character. -/
inductive Cause where
  /-- Its byte begins no character. -/
  | start
  /-- The byte after it does not continue the character. -/
  | continuation
  /-- The input ends before the character does. -/
  | ending
deriving DecidableEq, Repr

/-- A character, or a run of bytes that is none. -/
inductive Item where
  | char (c : Char)
  | invalid (bytes : Bytes) (cause : Cause)
deriving DecidableEq, Repr

/-- The beginning of a character: its bytes so far, last one first, the value of their bits,
how many bytes are to come, and between which values the next one has to lie. -/
structure Pending where
  bytes : Bytes
  value : Nat
  missing : Nat
  least : Nat
  greatest : Nat
deriving DecidableEq, Repr

/-- What the first byte of a character makes: a whole character, the beginning of one, or
neither. -/
def start (b : UInt8) : Item ⊕ Pending :=
  let n := b.toNat
  if n < 0x80 then .inl (.char (Char.ofNat n))
  else if n < 0xC2 then .inl (.invalid [b] .start)
  else if n < 0xE0 then .inr ⟨[b], n - 0xC0, 1, 0x80, 0xBF⟩
  else if n < 0xF0 then
    .inr ⟨[b], n - 0xE0, 2, if n = 0xE0 then 0xA0 else 0x80, if n = 0xED then 0x9F else 0xBF⟩
  else if n < 0xF5 then
    .inr ⟨[b], n - 0xF0, 3, if n = 0xF0 then 0x90 else 0x80, if n = 0xF4 then 0x8F else 0xBF⟩
  else .inl (.invalid [b] .start)

/-- What one more byte makes of the beginning of a character, if it continues it. -/
def Pending.continue? (p : Pending) (b : UInt8) : Option (Item ⊕ Pending) :=
  let n := b.toNat
  if p.least ≤ n ∧ n ≤ p.greatest then
    let value := p.value * 64 + n % 64
    if p.missing ≤ 1 then some (.inl (.char (Char.ofNat value)))
    else some (.inr ⟨b :: p.bytes, value, p.missing - 1, 0x80, 0xBF⟩)
  else none

/-- The items of the rest of an input, of which a character may have begun. -/
def itemsFrom : Option Pending → Bytes → List Item
  | none, [] => []
  | some p, [] => [.invalid p.bytes.reverse .ending]
  | none, b :: rest =>
    match start b with
    | .inl item => item :: itemsFrom none rest
    | .inr p => itemsFrom (some p) rest
  | some p, b :: rest =>
    match p.continue? b with
    | some (.inl item) => item :: itemsFrom none rest
    | some (.inr q) => itemsFrom (some q) rest
    | none =>
      .invalid p.bytes.reverse .continuation ::
        match start b with
        | .inl item => item :: itemsFrom none rest
        | .inr q => itemsFrom (some q) rest

/-- The items of an input. -/
def items (input : Bytes) : List Item := itemsFrom none input

/-- The character that stands for an item. -/
def Item.lossy : Item → Char
  | .char c => c
  | .invalid _ _ => replacement

/-- The text of an input, with a replacement character for every run that is no character. -/
def decodeLossy (input : Bytes) : Text := (items input).map Item.lossy

/-- A run of bytes that is no character, and the number of bytes before it. -/
structure Fault where
  position : Nat
  bytes : Bytes
  cause : Cause
deriving DecidableEq, Repr

/-- The wording of a fault. -/
def Fault.message (f : Fault) : Text :=
  let place : Text :=
    match f.bytes with
    | [b] => "byte 0x" ++ Text.hex 2 b.toNat ++ " in position " ++ Text.ofNat f.position
    | _ =>
      "bytes in position " ++ Text.ofNat f.position ++ "-" ++
        Text.ofNat (f.position + f.bytes.length - 1)
  let reason : Text :=
    match f.cause with
    | .start => "invalid start byte"
    | .continuation => "invalid continuation byte"
    | .ending => "unexpected end of data"
  "'utf-8' codec can't decode " ++ place ++ ": " ++ reason

/-- The text of items that begin at a place, or the first run that is no character. -/
def textOfItems (position : Nat) : List Item → Except Fault Text
  | [] => .ok []
  | .char c :: rest =>
    (textOfItems (position + (encodeNat c.toNat).length) rest).map (c :: ·)
  | .invalid bytes cause :: _ => .error ⟨position, bytes, cause⟩

/-- The text of an input that holds nothing but characters. -/
def decode (input : Bytes) : Except Fault Text := textOfItems 0 (items input)

end Utf8

end LogSearch
