/-!
# UTF-8

Texts as bytes and back. Reading never fails: every longest run of bytes that starts a character
but does not finish it, and every byte that starts none, becomes one replacement character.
-/

namespace MailFormula.Text

/-- The bytes of a text. -/
def utf8Bytes (s : String) : List UInt8 := s.toUTF8.toList

/-- The character that stands for bytes that are no text. -/
def replacementChar : Char := '\uFFFD'

/-- A character that has been started: the bits so far, how many bytes are owed, and between which
bounds the next one must lie. -/
structure PartialChar where
  bits : Nat
  owed : Nat
  low : Nat
  high : Nat

/-- What a byte means at the start of a character. -/
inductive LeadByte where
  | whole (c : Char)
  | start (p : PartialChar)
  | stray

/-- The meaning of a byte at the start of a character. -/
def leadByte (b : Nat) : LeadByte :=
  if b < 0x80 then .whole (Char.ofNat b)
  else if b < 0xC2 then .stray
  else if b < 0xE0 then .start ⟨b - 0xC0, 1, 0x80, 0xBF⟩
  else if b = 0xE0 then .start ⟨0, 2, 0xA0, 0xBF⟩
  else if b = 0xED then .start ⟨0xD, 2, 0x80, 0x9F⟩
  else if b < 0xF0 then .start ⟨b - 0xE0, 2, 0x80, 0xBF⟩
  else if b = 0xF0 then .start ⟨0, 3, 0x90, 0xBF⟩
  else if b < 0xF4 then .start ⟨b - 0xF0, 3, 0x80, 0xBF⟩
  else if b = 0xF4 then .start ⟨4, 3, 0x80, 0x8F⟩
  else .stray

/-- Reading in progress: the character that has been started, if any, and the characters read so
far, the last one first. -/
structure Decoding where
  started : Option PartialChar := none
  done : List Char := []

namespace Decoding

/-- Reads a byte where no character has been started. -/
def lead (done : List Char) (b : Nat) : Decoding :=
  match leadByte b with
  | .whole c => ⟨none, c :: done⟩
  | .start p => ⟨some p, done⟩
  | .stray => ⟨none, replacementChar :: done⟩

/-- Reads one byte. A byte that cannot continue the started character starts another. -/
def step (d : Decoding) (byte : UInt8) : Decoding :=
  let b := byte.toNat
  match d.started with
  | none => lead d.done b
  | some p =>
    if p.low ≤ b && b ≤ p.high then
      let bits := p.bits * 64 + b % 64
      if p.owed = 1 then ⟨none, Char.ofNat bits :: d.done⟩
      else ⟨some ⟨bits, p.owed - 1, 0x80, 0xBF⟩, d.done⟩
    else lead (replacementChar :: d.done) b

/-- The characters read when the bytes have ended. -/
def chars (d : Decoding) : List Char :=
  match d.started with
  | none => d.done.reverse
  | some _ => (replacementChar :: d.done).reverse

end Decoding

/-- The text of some bytes. -/
def decodeLossy (bytes : List UInt8) : String :=
  String.ofList (bytes.foldl Decoding.step {}).chars

end MailFormula.Text
