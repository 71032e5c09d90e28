import MailFormula.Regex.FoldTable
import MailFormula.Text.CodeRange
/-!
# Sets of characters

A character class denotes a set of characters, kept as a sorted list of disjoint ranges of code
points. The set operations all go through one normal form, `CharSet.ofRanges`, and through the
complement, so there is one place that sorts and merges and one that subtracts.

Matching without regard to case closes a set under simple case folding: if a set holds one member
of a folding class it then holds the whole class.
-/

namespace MailFormula.Regex

open MailFormula.Text

/-- A set of characters, as sorted, disjoint ranges with a gap between any two. -/
structure CharSet where
  ranges : List CodeRange
deriving DecidableEq, Repr

namespace CharSet

/-- The greatest code point. -/
def maxCode : Nat := 0x10FFFF

/-- Merges a sorted list of ranges from left to right; `last` is still growing. -/
def mergeFrom (last : CodeRange) : List CodeRange → List CodeRange
  | [] => [last]
  | r :: rs =>
    if r.lo ≤ last.hi + 1 then mergeFrom ⟨last.lo, Nat.max last.hi r.hi⟩ rs
    else last :: mergeFrom r rs

/-- The set that a list of ranges covers. -/
def ofRanges (rs : List CodeRange) : CharSet :=
  match rs.mergeSort (fun a b => a.lo ≤ b.lo) with
  | [] => ⟨[]⟩
  | r :: rest => ⟨mergeFrom r rest⟩

/-- The empty set. -/
def none : CharSet := ⟨[]⟩

/-- The set of all characters. -/
def any : CharSet := ⟨[⟨0, maxCode⟩]⟩

/-- The set of one character. -/
def single (c : Char) : CharSet := ⟨[⟨c.toNat, c.toNat⟩]⟩

/-- The characters from `lo` to `hi`. -/
def range (lo hi : Char) : CharSet := ⟨[⟨lo.toNat, hi.toNat⟩]⟩

/-- The set that a table of ranges writes. -/
def ofTable (lines : List String) : CharSet := ofRanges (readRanges lines)

/-- The gaps of a sorted list of ranges from `next` on. -/
def gapsFrom (next : Nat) : List CodeRange → List CodeRange
  | [] => if next ≤ maxCode then [⟨next, maxCode⟩] else []
  | r :: rs =>
    if next < r.lo then ⟨next, r.lo - 1⟩ :: gapsFrom (r.hi + 1) rs else gapsFrom (r.hi + 1) rs

/-- The characters outside the set. -/
def complement (s : CharSet) : CharSet := ⟨gapsFrom 0 s.ranges⟩

/-- The characters in either set. -/
def union (s t : CharSet) : CharSet := ofRanges (s.ranges ++ t.ranges)

/-- The characters in both sets. -/
def inter (s t : CharSet) : CharSet := (s.complement.union t.complement).complement

/-- The characters in the first set and not in the second. -/
def diff (s t : CharSet) : CharSet := s.inter t.complement

/-- The characters in exactly one of the two sets. -/
def symmDiff (s t : CharSet) : CharSet := (s.diff t).union (t.diff s)

/-- Whether the set holds a code point. -/
def hasCode (s : CharSet) (n : Nat) : Bool := s.ranges.any (fun r => r.lo ≤ n && n ≤ r.hi)

/-- Whether the set holds a character. -/
def has (s : CharSet) (c : Char) : Bool := s.hasCode c.toNat

/-- Whether the set holds nothing. -/
def isNone (s : CharSet) : Bool := s.ranges.isEmpty

/-! ## Case folding -/

/-- The code points that a run covers. -/
def runCodes (r : MapRun) : List Nat :=
  (List.range ((r.hi - r.lo) / r.step + 1)).map (fun k => r.lo + k * r.step)

/-- Every character with a folding, beside its folding, sorted by the folding. -/
def foldPairs : List (Nat × Nat) :=
  ((readRuns foldRuns).flatMap fun r =>
    (runCodes r).filterMap fun n => (r.image? n).map fun f => (f, n)).mergeSort
      (fun a b => a.1 ≤ b.1)

/-- Gathers sorted pairs into classes; the class being gathered has the folding `key`. -/
def gatherFrom (key : Nat) (members : List Nat) : List (Nat × Nat) → List (List Nat)
  | [] => [key :: members]
  | (f, n) :: rest =>
    if f = key then gatherFrom key (n :: members) rest
    else (key :: members) :: gatherFrom f [n] rest

/-- The folding classes with more than one member. -/
def foldClasses : List (List Nat) :=
  match foldPairs with
  | [] => []
  | (f, n) :: rest => gatherFrom f [n] rest

/-- The set closed under simple case folding. -/
def closeFold (s : CharSet) : CharSet :=
  let added := foldClasses.filter (fun members => members.any s.hasCode)
  if added.isEmpty then s
  else ofRanges (s.ranges ++ added.flatten.map (fun n => ⟨n, n⟩))

/-- The set closed under the case of ASCII letters. -/
def closeAscii (s : CharSet) : CharSet :=
  let lowers := (s.inter (range 'A' 'Z')).ranges.map (fun r => ⟨r.lo + 32, r.hi + 32⟩)
  let uppers := (s.inter (range 'a' 'z')).ranges.map (fun r => ⟨r.lo - 32, r.hi - 32⟩)
  ofRanges (s.ranges ++ lowers ++ uppers)

end CharSet

end MailFormula.Regex
