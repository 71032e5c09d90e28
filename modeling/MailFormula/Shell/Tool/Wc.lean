import MailFormula.Shell.Tool.Options
/-!
# Counting

The counts of `wc`: lines, words, characters, bytes and the longest line. A word is a run without
blanks in which something can be printed.
-/

namespace MailFormula.Shell

namespace Wc

/-- The options of `wc`. -/
def table : OptionTable :=
  { tool := "wc"
    letters := "clLmw".toList
    words :=
      [⟨"bytes", 'c', false⟩, ⟨"chars", 'm', false⟩, ⟨"lines", 'l', false⟩, ⟨"words", 'w', false⟩,
        ⟨"debug", 'D', false⟩, ⟨"files0-from", 'F', true⟩, ⟨"max-line-length", 'L', false⟩,
        ⟨"total", 'T', true⟩, ⟨"help", 'h', false⟩, ⟨"version", 'V', false⟩] }

/-- When a line with the totals comes. -/
inductive Total where
  | auto
  | always
  | only
  | never
deriving DecidableEq, Repr

/-- The word for a time of totals, which may be cut short. -/
def total? (word : Octets) : Option Total :=
  let all : List (String × Total) :=
    [("auto", .auto), ("always", .always), ("only", .only), ("never", .never)]
  match all.find? (fun t => t.1.toList == word) with
  | some t => some t.2
  | none =>
    match all.filter (fun t => word.isPrefixOf t.1.toList) with
    | [t] => some t.2
    | _ => none

/-- Counts of a text. -/
structure Counts where
  lines : Nat := 0
  words : Nat := 0
  bytes : Nat := 0
  longest : Nat := 0

/-- The counts of two texts together. -/
def Counts.add (a b : Counts) : Counts :=
  { lines := a.lines + b.lines
    words := a.words + b.words
    bytes := a.bytes + b.bytes
    longest := max a.longest b.longest }

/-- Counts on: `inWord` says whether a word is under way, `column` how wide the line is so far. -/
def countFrom (c : Counts) (inWord : Bool) (column : Nat) : Octets → Counts
  | [] =>
    { c with
      words := if inWord then c.words + 1 else c.words
      longest := max c.longest column }
  | x :: xs =>
    let c := { c with bytes := c.bytes + 1 }
    let ended := { c with words := if inWord then c.words + 1 else c.words }
    if x == '\n' then
      countFrom { ended with lines := c.lines + 1, longest := max c.longest column } false 0 xs
    else if x == '\r' || x == '\x0c' then
      countFrom { ended with longest := max c.longest column } false 0 xs
    else if x == '\t' then countFrom ended false (column + (8 - column % 8)) xs
    else if x == ' ' then countFrom ended false (column + 1) xs
    else if x == '\x0b' then countFrom ended false column xs
    else if ' ' < x && x ≤ '~' then countFrom c true (column + 1) xs
    else countFrom c inWord column xs

/-- The counts of a text. -/
def count (cs : Octets) : Counts := countFrom {} false 0 cs

/-- Which counts are asked for: lines, words, characters, bytes and the longest line. -/
structure Columns where
  lines : Bool
  words : Bool
  chars : Bool
  bytes : Bool
  longest : Bool

/-- The columns that options ask for; without any, lines, words and bytes. -/
def columnsOf (a : Arguments) : Columns :=
  let some := ['l', 'w', 'm', 'c', 'L'].any a.has
  { lines := a.has 'l' || !some
    words := a.has 'w' || !some
    chars := a.has 'm'
    bytes := a.has 'c' || !some
    longest := a.has 'L' }

/-- The counts in their columns. -/
def Columns.select (w : Columns) (c : Counts) : List Nat :=
  (if w.lines then [c.lines] else []) ++ (if w.words then [c.words] else []) ++
    (if w.chars then [c.bytes] else []) ++ (if w.bytes then [c.bytes] else []) ++
    (if w.longest then [c.longest] else [])

/-- A line of counts of at least this width, and a name. -/
def countLine (width : Nat) (counts : List Nat) (name : Option Octets) : Octets :=
  let text (n : Nat) : Octets :=
    let digits := decimalText n
    fill (width - digits.length) ' ' ++ digits
  List.intercalate [' '] (counts.map text) ++ (name.map (' ' :: ·)).getD [] ++ ['\n']

/-- How wide the columns are for files of these sizes, where known. A file of unknown size needs
seven places. -/
def widthFor (sizes : List (Option Nat)) : Nat :=
  let sum := (sizes.filterMap id).foldl (· + ·) 0
  let least := if sizes.any Option.isNone then 7 else 1
  max least (decimalText sum).length

end Wc

end MailFormula.Shell
