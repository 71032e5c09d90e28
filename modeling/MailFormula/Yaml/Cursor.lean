import MailFormula.Text.Ascii
/-!
# YAML: a place in a text

A text is read character by character, and what a character means depends on its column. Five
characters and one pair end a line: a carriage return, a line feed, both in this order, the next
line, the line separator and the paragraph separator. Read as content, the last two stand for
themselves and the others for a line feed.
-/

namespace MailFormula.Yaml

open MailFormula.Text

/-- A blank within a line. -/
def isBlank (c : Char) : Bool := c == ' ' || c == '\t'

/-- A character that ends a line. -/
def isBreak (c : Char) : Bool :=
  c == '\r' || c == '\n' || c == '\u0085' || c == '\u2028' || c == '\u2029'

/-- A character of a name: of an anchor, a directive or the handle of a tag. -/
def isNameChar (c : Char) : Bool := isAsciiAlphanumeric c || c == '_' || c == '-'

/-- Whether a text is over, or goes on with a blank or the end of a line. -/
def endsWord (cs : List Char) : Bool :=
  match cs with
  | [] => true
  | c :: _ => isBlank c || isBreak c

/-- Whether a text is over or stands at the end of a line. -/
def endsLine (cs : List Char) : Bool :=
  match cs with
  | [] => true
  | c :: _ => isBreak c

/-- What is left of a text, and where that stands in it. -/
structure Cursor where
  rest : List Char
  index : Nat := 0
  line : Nat := 0
  column : Nat := 0

namespace Cursor

/-- The next character. -/
def peek? (c : Cursor) : Option Char := c.rest.head?

/-- Whether the next character is this one. -/
def sees (c : Cursor) (x : Char) : Bool := c.peek? == some x

/-- Whether the next character is of a kind. -/
def seesAny (c : Cursor) (p : Char → Bool) : Bool := c.peek?.any p

/-- Passes characters of one line. -/
def advance (c : Cursor) (n : Nat) : Cursor :=
  { c with rest := c.rest.drop n, index := c.index + n, column := c.column + n }

/-- Passes the characters of a kind, which are none that end a line. -/
def skipWhile (p : Char → Bool) (c : Cursor) : Cursor :=
  c.advance (c.rest.takeWhile p).length

/-- Takes the characters of a kind, which are none that end a line. -/
def takeWhile (p : Char → Bool) (c : Cursor) : List Char × Cursor :=
  let taken := c.rest.takeWhile p
  (taken, c.advance taken.length)

/-- Moves to the next line, past a break of so many characters. -/
def nextLine (c : Cursor) (n : Nat) : Cursor :=
  { rest := c.rest.drop n, index := c.index + n, line := c.line + 1, column := 0 }

/-- The break that stands here, as content, and the place after it. -/
def readBreak (c : Cursor) : Option (Char × Cursor) :=
  match c.rest with
  | '\r' :: '\n' :: _ => some ('\n', c.nextLine 2)
  | x :: _ =>
    if !isBreak x then none
    else some (if x == '\u2028' || x == '\u2029' then x else '\n', c.nextLine 1)
  | [] => none

/-- Passes the break that stands here, if there is one. -/
def skipBreak (c : Cursor) : Cursor := (c.readBreak.map Prod.snd).getD c

/-- Passes a comment, if one starts here. -/
def skipComment (c : Cursor) : Cursor :=
  if c.sees '#' then c.skipWhile (fun x => !isBreak x) else c

/-- Passes the end of a line, on which nothing but a comment may be left. -/
def finishLine (c : Cursor) : Option Cursor :=
  let c := (c.skipWhile isBlank).skipComment
  if endsLine c.rest then some c.skipBreak else none

/-- Whether a mark between documents stands here: three of a character at the start of a line. -/
def atMark (c : Cursor) (x : Char) : Bool :=
  c.column == 0 && [x, x, x].isPrefixOf c.rest && endsWord (c.rest.drop 3)

/-- Whether some mark between documents stands here. -/
def atAnyMark (c : Cursor) : Bool := c.atMark '-' || c.atMark '.'

end Cursor

end MailFormula.Yaml
