import MailFormula.Text.Blank
/-!
# Address lists

The mailboxes of an address header, read with tolerance for the malformed headers of real mail. A
list is first cut into segments at the commas and semicolons that stand outside quotes, comments
and angle brackets; a colon there ends the name of a group, which is dropped. Each segment is
then a mailbox on its own, so nothing in one segment disturbs another.
-/

namespace MailFormula

open MailFormula.Text

/-- One mailbox of an address list. -/
structure Mailbox where
  name : Option String
  address : String
deriving DecidableEq, Repr

/-- The name to show: the display name, or else the address. -/
def Mailbox.displayName (m : Mailbox) : String := m.name.getD m.address

namespace Address

/-- Where a scan over an address list stands. -/
structure ScanState where
  quoted : Bool := false
  escaped : Bool := false
  angle : Bool := false
  comments : Nat := 0
deriving DecidableEq, Repr

namespace ScanState

/-- Outside quotes, escapes, angle brackets and comments. -/
def isOpen (s : ScanState) : Bool :=
  !s.quoted && !s.escaped && !s.angle && s.comments == 0

/-- The state after a character that does not end a segment. -/
def next (s : ScanState) (c : Char) : ScanState :=
  if s.escaped then { s with escaped := false }
  else if c == '\\' && (s.quoted || 0 < s.comments) then { s with escaped := true }
  else if c == '"' && s.comments == 0 then { s with quoted := !s.quoted }
  else if c == '(' && !s.quoted then { s with comments := s.comments + 1 }
  else if c == ')' && !s.quoted && 0 < s.comments then { s with comments := s.comments - 1 }
  else if c == '<' && !s.quoted && s.comments == 0 then { s with angle := true }
  else if c == '>' && !s.quoted && s.comments == 0 then { s with angle := false }
  else s

end ScanState

/-- Cuts a list into segments; `current` holds the segment so far in reverse. -/
def segmentsFrom (s : ScanState) (current : List Char) : List Char → List (List Char)
  | [] => [current.reverse]
  | c :: cs =>
    if s.isOpen && (c == ',' || c == ';') then current.reverse :: segmentsFrom s [] cs
    else if s.isOpen && c == ':' then segmentsFrom s [] cs
    else segmentsFrom (s.next c) (c :: current) cs

/-- The segments of an address list. -/
def segments (cs : List Char) : List (List Char) := segmentsFrom {} [] cs

/-- The text without its comments. -/
def dropCommentsFrom (depth : Nat) (quoted : Bool) : List Char → List Char
  | [] => []
  | c :: cs =>
    if c == '"' && depth == 0 then c :: dropCommentsFrom depth (!quoted) cs
    else if c == '(' && !quoted then dropCommentsFrom (depth + 1) quoted cs
    else if c == ')' && !quoted && 0 < depth then dropCommentsFrom (depth - 1) quoted cs
    else if depth == 0 then c :: dropCommentsFrom depth quoted cs
    else dropCommentsFrom depth quoted cs

/-- The text without its comments. -/
def dropComments (cs : List Char) : List Char := dropCommentsFrom 0 false cs

/-- The characters up to the parenthesis that closes the outermost of `depth + 1` open ones. -/
def closeComment : Nat → List Char → Option (List Char)
  | _, [] => none
  | depth, '(' :: cs => (closeComment (depth + 1) cs).map ('(' :: ·)
  | 0, ')' :: _ => some []
  | depth + 1, ')' :: cs => (closeComment depth cs).map (')' :: ·)
  | depth, c :: cs => (closeComment depth cs).map (c :: ·)

/-- The text of the first comment, parentheses inside it included, if it is closed. -/
def firstComment (cs : List Char) : Option (List Char) :=
  match cs.dropWhile (· != '(') with
  | [] => none
  | _ :: inside => (closeComment 0 inside).map trimChars

/-- Resolves the backslashes of a quoted phrase; one at the very end is dropped. -/
def unescape : List Char → List Char
  | [] => []
  | c :: cs =>
    if c == '\\' then
      match cs with
      | [] => []
      | d :: ds => d :: unescape ds
    else c :: unescape cs

/-- The characters between a leading and a trailing quote, if there are both. -/
def betweenQuotes (cs : List Char) : Option (List Char) :=
  match cs with
  | '"' :: inner => if inner.getLast? == some '"' then some inner.dropLast else none
  | _ => none

/-- The name that a phrase gives; an empty phrase gives none. -/
def phraseName (phrase : List Char) : Option (List Char) :=
  if phrase.isEmpty then none
  else
    match betweenQuotes phrase with
    | some inner => some (trimChars (unescape inner))
    | none => some phrase

/-- The text before the first opening and between it and the last closing angle bracket, when
the latter comes after the former. -/
def splitAngle (cs : List Char) : Option (List Char × List Char) :=
  match cs.dropWhile (· != '<') with
  | [] => none
  | _ :: after =>
    match after.reverse.dropWhile (· != '>') with
    | [] => none
    | _ :: inner => some (cs.takeWhile (· != '<'), inner.reverse)

/-- A name that is not empty. -/
def nonEmptyName (name : Option (List Char)) : Option String :=
  match name with
  | some (c :: cs) => some (String.ofList (c :: cs))
  | _ => none

/-- The mailbox of a segment; a segment without an address and a name gives none. -/
def readMailbox (segment : List Char) : Option Mailbox :=
  let segment := trimChars segment
  if segment.isEmpty then none
  else
    match splitAngle segment with
    | some (before, inner) =>
      let address := trimChars inner
      let name :=
        nonEmptyName (phraseName (trimChars (dropComments before)) <|> firstComment segment)
      if address.isEmpty && name.isNone then none
      else some ⟨name, String.ofList address⟩
    | none =>
      let address := trimChars (dropComments segment)
      if address.isEmpty then none
      else some ⟨nonEmptyName (firstComment segment), String.ofList address⟩

/-- The mailboxes of an address list given by its characters. -/
def readChars (cs : List Char) : List Mailbox := (segments cs).filterMap readMailbox

/-- The mailboxes of an address list. -/
def readList (text : String) : List Mailbox := readChars text.toList

end Address

end MailFormula
