import MailFormula.Text.Case
/-!
# Search in texts

Positions and lengths count characters. A search folds text and needle one character at a time,
unless it is sensitive to case, and so finds positions of the text itself.

The search moves a window along the text. Where the window does not match, its last character
says how far the window can move on at once: to where that character occurs in the needle before
its end, counted from the right, or past it altogether.

Positions have no bound in `find`. A machine counts them in 64 bits, and moving on from a position
may need more (`find64`): then there is a fault in place of a result. A search that a formula asks
for starts at a position of 32 bits, where the two agree.
-/

namespace MailFormula.Text

/-- The folding of a search: none when it is sensitive to case. -/
def foldFor (caseSensitive : Bool) (c : Char) : Char :=
  if caseSensitive then c else foldChar c

/-- How far a window whose last character is `c` can move on. The characters of the needle but
the last are given from the right. -/
def shift (earlier : List Char) (c : Char) : Nat := earlier.idxOf c + 1

/-- Moving the window leaves less of the text. -/
theorem length_drop_shift_lt {earlier rest : List Char} {c : Char} {n : Nat}
    (h : rest[n]? = some c) : (rest.drop (shift earlier c)).length < rest.length := by
  obtain ⟨hn, -⟩ := List.getElem?_eq_some_iff.1 h
  rw [List.length_drop, shift]
  omega

/-- Moves the window along the rest of the text, which starts at position `pos`. -/
def scanWindows (needle earlier rest : List Char) (pos : Nat) : Option Nat :=
  match _h : rest[needle.length - 1]? with
  | none => none
  | some c =>
    if needle.isPrefixOf rest then some pos
    else
      let step := shift earlier c
      scanWindows needle earlier (rest.drop step) (pos + step)
termination_by rest.length
decreasing_by exact length_drop_shift_lt _h

/-- The first position at or after `start` where the needle occurs, both folded already. The empty
needle occurs everywhere up to the end of the text. -/
def findChars (text needle : List Char) (start : Nat) : Option Nat :=
  match needle with
  | [] => if start ≤ text.length then some start else none
  | [c] =>
    match (text.drop start).findIdx? (· == c) with
    | some i => some (i + start)
    | none => none
  | _ => scanWindows needle needle.dropLast.reverse (text.drop start) start

/-- The first position at or after `start` where the needle occurs in the text. -/
def find (text needle : String) (start : Nat) (caseSensitive : Bool) : Option Nat :=
  findChars (text.toList.map (foldFor caseSensitive)) (needle.toList.map (foldFor caseSensitive))
    start

/-! ## Positions of 64 bits -/

/-- A position of 64 bits, and a number of characters that is too many to move on from there. -/
structure Overflow where
  pos : UInt64
  count : Nat
deriving DecidableEq, Repr

/-- The position so many characters further on, if 64 bits hold it. -/
def moveOn (pos : UInt64) (count : Nat) : Except Overflow UInt64 :=
  if pos.toNat + count < UInt64.size then .ok (UInt64.ofNat (pos.toNat + count))
  else .error ⟨pos, count⟩

/-- Moves the window along the rest of the text like `scanWindows`. Where the window ends is
computed first, to compare it with the end of the text. -/
def scanWindows64 (needle earlier rest : List Char) (pos : UInt64) :
    Except Overflow (Option UInt64) :=
  match moveOn pos needle.length with
  | .error fault => .error fault
  | .ok _ =>
    match _h : rest[needle.length - 1]? with
    | none => .ok none
    | some c =>
      if needle.isPrefixOf rest then .ok (some pos)
      else
        match moveOn pos (shift earlier c) with
        | .error fault => .error fault
        | .ok next => scanWindows64 needle earlier (rest.drop (shift earlier c)) next
termination_by rest.length
decreasing_by exact length_drop_shift_lt _h

/-- The first position at or after `start` where the needle occurs, like `findChars`. A needle of
two characters or more is not looked for in a text that is shorter. -/
def findChars64 (text needle : List Char) (start : UInt64) : Except Overflow (Option UInt64) :=
  match needle with
  | [] => .ok (if start.toNat ≤ text.length then some start else none)
  | [c] =>
    match (text.drop start.toNat).findIdx? (· == c) with
    | some i => (moveOn start i).map some
    | none => .ok none
  | _ =>
    if text.length < needle.length then .ok none
    else scanWindows64 needle needle.dropLast.reverse (text.drop start.toNat) start

/-- The first position at or after `start` where the needle occurs in the text, or the fault that
the search ends with. -/
def find64 (text needle : String) (start : UInt64) (caseSensitive : Bool) :
    Except Overflow (Option UInt64) :=
  findChars64 (text.toList.map (foldFor caseSensitive))
    (needle.toList.map (foldFor caseSensitive)) start

/-! ## Starts and replacements -/

/-- Whether the text starts with the given characters. -/
def beginsWithChars (fold : Char → Char) : List Char → List Char → Bool
  | _, [] => true
  | [], _ :: _ => false
  | c :: cs, d :: ds => fold c == fold d && beginsWithChars fold cs ds

/-- Whether the text starts with another. -/
def beginsWith (text start : String) (caseSensitive : Bool) : Bool :=
  beginsWithChars (foldFor caseSensitive) text.toList start.toList

/-- Replaces every occurrence of the needle `n :: ns` in the rest of a text, from left to right
and without overlap. The rest is given as written and folded, and the needle folded; `done` holds
the pieces of the result so far, last first. What lies between occurrences is kept as written. -/
def replaceChars (n : Char) (ns new : List Char) (done : List (List Char))
    (rest folded : List Char) : List Char :=
  match folded with
  | [] => (rest :: done).reverse.flatten
  | c :: cs =>
    match findChars (c :: cs) (n :: ns) 0 with
    | none => (rest :: done).reverse.flatten
    | some i =>
      replaceChars n ns new (new :: rest.take i :: done) (rest.drop (i + ns.length + 1))
        (cs.drop (i + ns.length))
termination_by folded.length
decreasing_by
  simp only [List.length_drop, List.length_cons]
  omega

/-- Replaces every occurrence of `old` by `new`; the empty text occurs nowhere. -/
def replaceAll (text old new : String) (caseSensitive : Bool) : String :=
  let fold := foldFor caseSensitive
  match old.toList.map fold with
  | [] => text
  | n :: ns =>
    String.ofList (replaceChars n ns new.toList [] text.toList (text.toList.map fold))

/-! ## Positions in characters and in bytes -/

/-- The number of characters that start before a byte offset. -/
def charIndexFrom (pos : Nat) : List Char → Nat → Nat
  | [], _ => 0
  | c :: cs, offset =>
    if pos < offset then charIndexFrom (pos + c.utf8Size) cs offset + 1 else 0

/-- The character position of a byte offset. -/
def charIndex (text : String) (offset : Nat) : Nat := charIndexFrom 0 text.toList offset

/-- The byte offset of a character position, at most the length of the text. -/
def byteOffsetFrom : List Char → Nat → Nat
  | [], _ => 0
  | _ :: _, 0 => 0
  | c :: cs, index + 1 => c.utf8Size + byteOffsetFrom cs index

/-- The byte offset of a character position. -/
def byteOffset (text : String) (index : Nat) : Nat := byteOffsetFrom text.toList index

end MailFormula.Text
