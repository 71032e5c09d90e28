import MailFormula.Text.Ascii
/-!
# Ranges of code points

Character properties are written down as ranges of code points, `lo-hi` in hexadecimal with one
blank between two ranges. A table is sorted and its ranges are disjoint, so membership is a
binary search.
-/

namespace MailFormula.Text

/-- A closed interval of code points. -/
structure CodeRange where
  lo : Nat
  hi : Nat
deriving DecidableEq, Repr

/-- Reads one range, `lo-hi` or a single code point. -/
def readRange (cs : List Char) : CodeRange :=
  match cs.splitOn '-' with
  | [lo, hi] => ⟨hexNumber lo, hexNumber hi⟩
  | _ => ⟨hexNumber cs, hexNumber cs⟩

/-- Reads a table of ranges, given line by line. -/
def readRanges (lines : List String) : List CodeRange :=
  lines.flatMap fun line => ((line.toList.splitOn ' ').filter (!·.isEmpty)).map readRange

/-- Looks for the range of `n` among the ranges from `lo` up to, not including, `hi`. -/
def searchRanges (table : Array CodeRange) (n lo hi : Nat) : Bool :=
  if lo < hi then
    let mid := (lo + hi) / 2
    if h : mid < table.size then
      let r := table[mid]
      if n < r.lo then searchRanges table n lo mid
      else if r.hi < n then searchRanges table n (mid + 1) hi
      else true
    else false
  else false
termination_by hi - lo

/-- Whether a sorted table of disjoint ranges covers a character. -/
def inRanges (table : Array CodeRange) (c : Char) : Bool :=
  searchRanges table c.toNat 0 table.size

/-- A run of a character mapping: every `step`-th code point from `lo` to `hi` moves by the same
distance. -/
structure MapRun where
  lo : Nat
  hi : Nat
  step : Nat
  delta : Int
deriving DecidableEq, Repr

/-- Reads one run, `lo-hi/step+delta` or `lo-hi/step-delta`. -/
def readRun (cs : List Char) : MapRun :=
  let range := readRange (cs.takeWhile (· != '/'))
  let shift := (cs.dropWhile (· != '/')).drop 1
  let step := decimalValue (shift.takeWhile isAsciiDigit)
  let rest := shift.dropWhile isAsciiDigit
  let size : Int := decimalValue (rest.drop 1)
  ⟨range.lo, range.hi, step, if rest.head? == some '-' then -size else size⟩

/-- Reads a table of runs, given line by line. -/
def readRuns (lines : List String) : List MapRun :=
  lines.flatMap fun line => ((line.toList.splitOn ' ').filter (!·.isEmpty)).map readRun

/-- Where a run sends a code point, if it covers it. -/
def MapRun.image? (r : MapRun) (n : Nat) : Option Nat :=
  if r.lo ≤ n && n ≤ r.hi && (n - r.lo) % r.step == 0 then some (n + r.delta).toNat else none

/-- Looks for the run that covers `n` among the runs from `lo` up to, not including, `hi`. -/
def searchRuns (table : Array MapRun) (n lo hi : Nat) : Option Nat :=
  if lo < hi then
    match table[(lo + hi) / 2]? with
    | none => none
    | some r =>
      if n < r.lo then searchRuns table n lo ((lo + hi) / 2)
      else if r.hi < n then searchRuns table n ((lo + hi) / 2 + 1) hi
      else r.image? n
  else none
termination_by hi - lo

end MailFormula.Text
