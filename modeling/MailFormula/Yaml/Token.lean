import MailFormula.Yaml.Scalar
/-!
# YAML: tokens that name things

The tokens of a YAML text, and the readers of those that name something: anchors and aliases,
tags, and the directives before a document. A tag is written in full between angle brackets, or as
a handle and a suffix; an escape in it writes one octet of a character, and a zero octet ends it.
-/

namespace MailFormula.Yaml

open MailFormula.Text

/-- A token of a YAML text. -/
inductive Token where
  | versionDirective (major minor : Nat)
  | tagDirective (handle lead : String)
  | documentStart
  | documentEnd
  | blockSequenceStart
  | blockMappingStart
  | blockEnd
  | flowSequenceStart
  | flowSequenceEnd
  | flowMappingStart
  | flowMappingEnd
  | blockEntry
  | flowEntry
  | key
  | value
  | alias (name : String)
  | anchor (name : String)
  | tag (handle suffix : String)
  | scalar (style : Style) (text : String)
deriving DecidableEq, Repr

/-! ## Anchors -/

/-- Whether the name of an anchor can end before a text. -/
def endsAnchor (cs : List Char) : Bool :=
  endsWord cs || cs.head?.any "?:,]\x7d%@\x60".toList.contains

/-- Reads the name of an anchor or an alias after its indicator. -/
def readAnchor (c : Cursor) : Option (String × Cursor) :=
  let (name, c) := c.takeWhile isNameChar
  if !name.isEmpty && endsAnchor c.rest then some (String.ofList name, c) else none

/-! ## Tags -/

/-- Whether a character may stand in a tag; the marks of a sequence only in a tag that is written
in full. -/
def isTagChar (isFull : Bool) (c : Char) : Bool :=
  isNameChar c || ";/?:@&=+$.!~*'()%".toList.contains c || (isFull && ",[]".toList.contains c)

/-- How many octets the UTF-8 form of a character has that starts with this one. -/
def octetCount? (n : Nat) : Option Nat :=
  if n < 0x80 then some 1
  else if 0xC0 ≤ n && n < 0xE0 then some 2
  else if 0xE0 ≤ n && n < 0xF0 then some 3
  else if 0xF0 ≤ n && n < 0xF8 then some 4
  else none

/-- The octet that an escape writes. -/
def readOctet (cs : List Char) : Option Nat :=
  match cs with
  | '%' :: a :: b :: _ => do some ((← hexValue? a) * 16 + (← hexValue? b))
  | _ => none

/-- Reads the further octets of an escaped character, onto `done` backwards. -/
def readOctets : Nat → List Char → Cursor → Option (List Char × Cursor)
  | 0, done, c => some (done, c)
  | n + 1, done, c => do
    let octet ← readOctet c.rest
    guard (0x80 ≤ octet && octet < 0xC0)
    readOctets n (Char.ofNat octet :: done) (c.advance 3)

/-- Reads an escaped character onto `done` backwards, octet by octet. -/
def readTagEscape (done : List Char) (c : Cursor) : Option (List Char × Cursor) := do
  let octet ← readOctet c.rest
  let count ← octetCount? octet
  readOctets (count - 1) (Char.ofNat octet :: done) (c.advance 3)

/-- Reads the characters of a tag onto `done` backwards. `steps` bounds the characters. -/
def readTagChars (isFull : Bool) : Nat → List Char → Cursor → Option (List Char × Cursor)
  | 0, done, c => some (done.reverse, c)
  | steps + 1, done, c =>
    match c.peek?.filter (isTagChar isFull) with
    | none => some (done.reverse, c)
    | some '%' => do
      let (done, c) ← readTagEscape done c
      readTagChars isFull steps done c
    | some x => readTagChars isFull steps (x :: done) (c.advance 1)

/-- Reads the text of a tag that starts with what has been read of it. A zero octet ends the text,
not the reading. -/
def readTagText (isFull : Bool) (read : List Char) (c : Cursor) : Option (String × Cursor) := do
  let (text, c) ← readTagChars isFull (c.rest.length + 1) read.reverse c
  some (String.ofList (text.takeWhile (· ≠ '\x00')), c)

/-- Reads a text of a tag that may not be missing. -/
def readSomeTagText (isFull : Bool) (c : Cursor) : Option (String × Cursor) :=
  if c.seesAny (isTagChar isFull) then readTagText isFull [] c else none

/-- Reads a handle, or the part of a tag that could be one: an exclamation mark and a name, then
perhaps another one. The flag says whether that stands there. -/
def readHandle (c : Cursor) : Option (List Char × Bool × Cursor) :=
  if !c.sees '!' then none
  else
    let (name, c) := (c.advance 1).takeWhile isNameChar
    if c.sees '!' then some ('!' :: name ++ ['!'], true, c.advance 1)
    else some ('!' :: name, false, c)

/-- Reads the handle and the suffix of a tag. A lone exclamation mark has no handle. -/
def readTagParts (c : Cursor) : Option (String × String × Cursor) :=
  if c.rest.drop 1 |>.head? |>.any (· == '<') then do
    let (text, c) ← readSomeTagText true (c.advance 2)
    if c.sees '>' then some ("", text, c.advance 1) else none
  else do
    let (handle, closed, c) ← readHandle c
    if closed then
      let (suffix, c) ← readSomeTagText false c
      some (String.ofList handle, suffix, c)
    else
      let (suffix, c) ← readTagText false (handle.drop 1) c
      some (if suffix.isEmpty then ("", "!", c) else ("!", suffix, c))

/-- Reads a tag; a blank comes after it, or inside brackets a comma. -/
def readTag (inFlow : Bool) (c : Cursor) : Option (Token × Cursor) := do
  let (handle, suffix, c) ← readTagParts c
  if (inFlow && c.sees ',') || endsWord c.rest then some (.tag handle suffix, c) else none

/-! ## Directives -/

/-- Reads a number of a version, of nine digits at most. -/
def readVersionNumber (c : Cursor) : Option (Nat × Cursor) :=
  let (digits, c) := c.takeWhile isAsciiDigit
  if digits.isEmpty || 9 < digits.length then none else some (decimalValue digits, c)

/-- Reads what a directive about the version says. -/
def readVersion (c : Cursor) : Option (Token × Cursor) := do
  let (major, c) ← readVersionNumber (c.skipWhile isBlank)
  guard (c.sees '.')
  let (minor, c) ← readVersionNumber (c.advance 1)
  some (.versionDirective major minor, c)

/-- Reads what a directive about a handle says: the handle and what tags with it start with. -/
def readHandleMeaning (c : Cursor) : Option (Token × Cursor) := do
  let (handle, closed, c) ← readHandle (c.skipWhile isBlank)
  guard ((closed || handle.length == 1) && c.seesAny isBlank)
  let (lead, c) ← readSomeTagText true (c.skipWhile isBlank)
  guard (endsWord c.rest)
  some (.tagDirective (String.ofList handle) lead, c)

/-- Reads a directive after its percent sign. -/
def readDirective (c : Cursor) : Option (Token × Cursor) := do
  let (name, c) := c.takeWhile isNameChar
  guard (endsWord c.rest)
  let (token, c) ←
    if name == "YAML".toList then readVersion c
    else if name == "TAG".toList then readHandleMeaning c
    else none
  some (token, ← c.finishLine)

end MailFormula.Yaml
