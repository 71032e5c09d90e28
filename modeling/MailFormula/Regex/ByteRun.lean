import MailFormula.Text.CodeRange
/-!
# Byte runs

The UTF-8 encodings of a range of code points, written as sequences of byte ranges: a sequence
stands for every way to pick one byte from each of its ranges. A range of code points is cut until
each piece is one such sequence. The cuts fall where the surrogates lie, where the length of the
encoding changes, and where the low bits of a bound would leave a following byte with only part of
its values.
-/

namespace MailFormula.Regex

open MailFormula.Text

/-- A closed interval of bytes. -/
structure ByteRange where
  lo : Nat
  hi : Nat
deriving DecidableEq, Repr

/-- The last code point of the first piece, when a range has to be cut at a length of `bits` low
bits: the first piece ends where the low bits of `lo` run out, or just before those of `hi`
begin. -/
def lowCut? (lo hi size : Nat) : Option Nat :=
  if lo / size = hi / size then none
  else if lo % size ≠ 0 then some (lo / size * size + (size - 1))
  else if hi % size ≠ size - 1 then some (hi / size * size - 1)
  else none

/-- Where a range without surrogates has to be cut first: the last code point of its first
piece. -/
def cut? (lo hi : Nat) : Option Nat :=
  match [0x7F, 0x7FF, 0xFFFF].find? (fun m => lo ≤ m && m < hi) with
  | some m => some m
  | none => if hi ≤ 0x7F then none else [64, 4096, 262144].findSome? (lowCut? lo hi)

/-- The pieces of a range without surrogates. -/
def cutRange (lo hi : Nat) : List CodeRange :=
  match cut? lo hi with
  | none => if lo ≤ hi then [⟨lo, hi⟩] else []
  | some m =>
    if lo ≤ m ∧ m < hi then cutRange lo m ++ cutRange (m + 1) hi else []
termination_by hi - lo

/-- The bytes of a code point's encoding. -/
def encodeBytes (n : Nat) : List Nat :=
  if n ≤ 0x7F then [n]
  else if n ≤ 0x7FF then [0xC0 + n / 64, 0x80 + n % 64]
  else if n ≤ 0xFFFF then [0xE0 + n / 4096, 0x80 + n / 64 % 64, 0x80 + n % 64]
  else [0xF0 + n / 262144, 0x80 + n / 4096 % 64, 0x80 + n / 64 % 64, 0x80 + n % 64]

/-- The sequences of byte ranges that encode a range of code points, in increasing order. -/
def byteRuns (r : CodeRange) : List (List ByteRange) :=
  let spans : List CodeRange :=
    if r.lo < 0xE000 && 0xD7FF < r.hi then [⟨r.lo, 0xD7FF⟩, ⟨0xE000, r.hi⟩] else [r]
  (spans.flatMap fun s => cutRange s.lo s.hi).map fun s =>
    (encodeBytes s.lo).zipWith (fun a b => ⟨a, b⟩) (encodeBytes s.hi)

end MailFormula.Regex
