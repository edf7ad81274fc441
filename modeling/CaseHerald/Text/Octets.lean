import CaseHerald.Text.Numeral

/-!
# Octets and the texts they encode

`octets` is the UTF-8 encoding. Reading goes the other way and never fails: octets that encode no
text leave a gap, so that the reader of a format decides what a gap means. A strict reading admits no
gap, a tolerant one shows each as the replacement character.
-/
namespace CaseHerald.Text

/-- A string of octets. -/
abbrev Octets := List UInt8

/-- The UTF-8 encoding of the text. -/
def octets (s : String) : Octets := s.toList.flatMap String.utf8EncodeChar

/-- Characters with gaps: `none` stands for a longest run of octets that begins an encoding and
cannot be completed. -/
abbrev Gapped := List (Option Char)

/-- The part of a character's encoding that has been read: its bits so far, how many octets are
still missing, and where the next one has to lie. -/
structure Partial where
  bits : Nat
  missing : Nat
  low : UInt8
  high : UInt8

/-- What a first octet begins. -/
inductive Lead
  /-- a whole character -/
  | whole (c : Char)
  /-- a longer encoding -/
  | begins (p : Partial)
  /-- nothing -/
  | stray

/-- The role of an octet at the start of an encoding. The bounds on the second octet exclude
overlong forms, surrogates and code points beyond the last. -/
def lead (b : UInt8) : Lead :=
  if b < 0x80 then .whole (Char.ofNat b.toNat)
  else if b < 0xC2 then .stray
  else if b < 0xE0 then .begins ⟨b.toNat - 0xC0, 1, 0x80, 0xBF⟩
  else if b < 0xF0 then
    .begins ⟨b.toNat - 0xE0, 2, if b = 0xE0 then 0xA0 else 0x80, if b = 0xED then 0x9F else 0xBF⟩
  else if b < 0xF5 then
    .begins ⟨b.toNat - 0xF0, 3, if b = 0xF0 then 0x90 else 0x80, if b = 0xF4 then 0x8F else 0xBF⟩
  else .stray

/-- Reads octets after the partial encoding, if there is one. -/
def readFrom : Option Partial → Octets → Gapped
  | none, [] => []
  | some _, [] => [none]
  | none, b :: rest =>
    match lead b with
    | .whole c => some c :: readFrom none rest
    | .begins p => readFrom (some p) rest
    | .stray => none :: readFrom none rest
  | some p, b :: rest =>
    if p.low ≤ b ∧ b ≤ p.high then
      let bits := p.bits * 64 + (b.toNat - 0x80)
      if p.missing ≤ 1 then some (Char.ofNat bits) :: readFrom none rest
      else readFrom (some ⟨bits, p.missing - 1, 0x80, 0xBF⟩) rest
    else
      match lead b with
      | .whole c => none :: some c :: readFrom none rest
      | .begins q => none :: readFrom (some q) rest
      | .stray => none :: none :: readFrom none rest

/-- The characters that the octets encode, with gaps. -/
def ofOctets (bs : Octets) : Gapped := readFrom none bs

/-- The characters of a text, which has no gap. -/
def gapless (s : String) : Gapped := s.toList.map some

/-- The text, if there is no gap. -/
def strict? (g : Gapped) : Option String := (g.mapM id).map String.ofList

/-- The text in which each gap shows as the replacement character. -/
def tolerant (g : Gapped) : String := String.ofList (g.map (·.getD '\ufffd'))

/-- The octets that pairs of hexadecimal digits stand for. -/
def ofHex? : List Char → Option Octets
  | [] => some []
  | high :: low :: rest => do
    let high ← hexDigit? high
    let low ← hexDigit? low
    return UInt8.ofNat (16 * high + low) :: (← ofHex? rest)
  | _ => none

end CaseHerald.Text
