import MailFormula.Text.CaseTable
import MailFormula.Text.CodeRange
/-!
# Lower case

Two ways to lower the case of a text. `lower` is the full mapping: one character may become two,
and a sigma at the end of a word takes its final form. `foldChar` looks at one character alone
and keeps the first character of its mapping; searches fold both sides with it, so that positions
in the folded text are positions in the text.

The two do not agree on every text: the full mapping of U+0130 has two characters where the
folding has one, and a final sigma is a matter of its neighbours.
-/

namespace MailFormula.Text

/-- The lower-case mapping beyond ASCII, ready for search. -/
def lowerTable : Array MapRun :=
  (readRuns lowerRuns).toArray

/-- The cased characters, ready for search. -/
def casedTable : Array CodeRange :=
  (readRanges casedRanges).toArray

/-- The case-ignorable characters, ready for search. -/
def caseIgnorableTable : Array CodeRange :=
  (readRanges caseIgnorableRanges).toArray

/-- A character that has case. -/
def isCased (c : Char) : Bool :=
  if c.toNat < 128 then isAsciiAlpha c else inRanges casedTable c

/-- A character that a search for a cased neighbour passes over. -/
def isCaseIgnorable (c : Char) : Bool :=
  inRanges caseIgnorableTable c

/-- The one-to-one lower-case mapping. -/
def lowerSimple (c : Char) : Char :=
  if c.toNat < 128 then c.toLower
  else
    match searchRuns lowerTable c.toNat 0 lowerTable.size with
    | some n => Char.ofNat n
    | none => c

/-- The full lower-case mapping of a character by itself. -/
def lowerChar (c : Char) : List Char :=
  if c.toNat == 0x130 then ['i', Char.ofNat 0x307] else [lowerSimple c]

/-- The folding of one character: the first character of its lower-case mapping. -/
def foldChar (c : Char) : Char :=
  if c.toNat == 0x130 then 'i' else lowerSimple c

/-- Whether the first character that is not case-ignorable has case. -/
def meetsCased (cs : List Char) : Bool :=
  match cs.dropWhile isCaseIgnorable with
  | c :: _ => isCased c
  | [] => false

/-- The lower case of the characters `cs` that follow the characters `before`, these in reverse
order. A capital sigma becomes a final sigma when a cased character precedes it and none follows
it, case-ignorable characters between them not counted. -/
def lowerAfter (before : List Char) : List Char → List Char
  | [] => []
  | c :: cs =>
    let mapped :=
      if c.toNat == 0x3A3 then
        if meetsCased before && !meetsCased cs then [Char.ofNat 0x3C2] else [Char.ofNat 0x3C3]
      else lowerChar c
    mapped ++ lowerAfter (c :: before) cs

/-- The full lower case of a text. -/
def lower (s : String) : String :=
  String.ofList (lowerAfter [] s.toList)

end MailFormula.Text
