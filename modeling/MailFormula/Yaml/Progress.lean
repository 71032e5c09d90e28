import MailFormula.Yaml.Token
/-!
# YAML: the tokens of a text

Reading a text into tokens. Two things make it more than a look at the next character.

*Indentation.* Outside brackets, a deeper column opens a block, and every block that a line falls
left of is closed before the line's first token.

*Keys.* Whether something is a key shows only at its colon. Each place where a key may start is
remembered, once for every level of brackets, and at a colon the tokens for the key are put in
before what was read since. A key fits on one line, is at most 1024 characters before its colon, and
where a block goes on in the column of its keys there must be one.
-/

namespace MailFormula.Yaml

open MailFormula.Text

/-- A place where a key may have started: before which token, where in the text, and whether there
must be one. -/
structure PendingKey where
  position : Nat
  index : Nat
  line : Nat
  column : Nat
  isRequired : Bool

/-- How far a text has been read. -/
structure Progress where
  cursor : Cursor
  /-- The tokens read, last first. -/
  tokens : List Token := []
  /-- How many tokens have been read. -/
  count : Nat := 0
  /-- The column of the innermost block, `-1` outside all blocks. -/
  indent : Int := -1
  /-- The columns of the blocks around it. -/
  outer : List Int := []
  /-- The key that may have started at the innermost level. -/
  pending : Option PendingKey := none
  /-- The keys that may have started at the levels of brackets around it. -/
  around : List (Option PendingKey) := []
  /-- Whether a key may start here. -/
  keyAllowed : Bool := true

namespace Progress

/-- Whether brackets are open. -/
def inFlow (p : Progress) : Bool := !p.around.isEmpty

/-- Adds a token. -/
def push (p : Progress) (t : Token) : Progress :=
  { p with tokens := t :: p.tokens, count := p.count + 1 }

/-- Adds a token before the one at a position. -/
def insert (p : Progress) (position : Nat) (t : Token) : Progress :=
  let later := p.count - position
  { p with
    tokens := p.tokens.take later ++ t :: p.tokens.drop later
    count := p.count + 1 }

/-- Adds a token of so many characters. -/
def pushPast (p : Progress) (t : Token) (length : Nat) : Progress :=
  { p.push t with cursor := p.cursor.advance length }

/-! ## Keys -/

/-- Gives up the key that may have started; refused if there must be one. -/
def dropKey (p : Progress) : Option Progress :=
  if p.pending.any PendingKey.isRequired then none else some { p with pending := none }

/-- Remembers that a key may start here. -/
def saveKey (p : Progress) : Option Progress :=
  if !p.keyAllowed then some p
  else do
    let p ← p.dropKey
    let c := p.cursor
    let key : PendingKey :=
      { position := p.count, index := c.index, line := c.line, column := c.column
        isRequired := !p.inFlow && p.indent == c.column }
    some { p with pending := some key }

/-- Whether a key that started there can no longer have its colon here. -/
def isStale (c : Cursor) (key : PendingKey) : Bool :=
  key.line < c.line || key.index + 1024 < c.index

/-- Gives up the keys that can no longer have their colon; refused if there must be one. -/
def dropStale (p : Progress) : Option Progress := do
  let settle (key : Option PendingKey) : Option (Option PendingKey) :=
    if key.any (fun k => isStale p.cursor k && k.isRequired) then none
    else some (key.filter (fun k => !isStale p.cursor k))
  some { p with pending := ← settle p.pending, around := ← p.around.mapM settle }

/-! ## Blocks -/

/-- Opens a block whose first token is, or will be, the one at a position, if the column is deeper
than the block around it. -/
def openBlock (p : Progress) (column : Nat) (position : Nat) (t : Token) : Progress :=
  if p.inFlow || (column : Int) ≤ p.indent then p
  else { p.insert position t with indent := column, outer := p.indent :: p.outer }

/-- Closes the blocks deeper than a column, given the columns around the innermost. -/
def closeBlocksFrom (column : Int) : List Int → Progress → Progress
  | [], p => p
  | around :: outer, p =>
    if p.indent ≤ column then p
    else closeBlocksFrom column outer { p.push .blockEnd with indent := around, outer }

/-- Closes the blocks deeper than a column. -/
def closeBlocks (p : Progress) (column : Int) : Progress :=
  if p.inFlow then p else closeBlocksFrom column p.outer p

/-! ## Tokens -/

/-- Passes blanks, breaks and comments before a token. A tab does so only where no key can start;
after a break one can. `steps` bounds the lines. -/
def skipGap : Nat → Progress → Progress
  | 0, p => p
  | steps + 1, p =>
    let isPassed (x : Char) : Bool := x == ' ' || (x == '\t' && (p.inFlow || !p.keyAllowed))
    let c := (p.cursor.skipWhile isPassed).skipComment
    match c.readBreak with
    | none => { p with cursor := c }
    | some (_, c) => skipGap steps { p with cursor := c, keyAllowed := !p.inFlow || p.keyAllowed }

/-- Opens brackets. -/
def openFlow (p : Progress) (t : Token) : Option Progress := do
  let p ← p.saveKey
  some { p.pushPast t 1 with
    around := p.pending :: p.around, pending := none, keyAllowed := true }

/-- Closes brackets. -/
def closeFlow (p : Progress) (t : Token) : Option Progress := do
  let p ← p.dropKey
  let p := { p.pushPast t 1 with keyAllowed := false }
  match p.around with
  | [] => some p
  | key :: around => some { p with pending := key, around }

/-- Reads a comma between things in brackets. -/
def readFlowEntry (p : Progress) : Option Progress := do
  let p ← p.dropKey
  some { p.pushPast .flowEntry 1 with keyAllowed := true }

/-- Reads the dash of an item. -/
def readBlockEntry (p : Progress) : Option Progress := do
  guard (p.inFlow || p.keyAllowed)
  let p ← (p.openBlock p.cursor.column p.count .blockSequenceStart).dropKey
  some { p.pushPast .blockEntry 1 with keyAllowed := true }

/-- Reads the question mark before a key. -/
def readKeyMark (p : Progress) : Option Progress := do
  guard (p.inFlow || p.keyAllowed)
  let p ← (p.openBlock p.cursor.column p.count .blockMappingStart).dropKey
  some { p.pushPast .key 1 with keyAllowed := !p.inFlow }

/-- Reads the colon before a value. It makes what a pending key started a key. -/
def readValueMark (p : Progress) : Option Progress :=
  match p.pending with
  | some key =>
    let p := (p.insert key.position .key).openBlock key.column key.position .blockMappingStart
    some { p.pushPast .value 1 with pending := none, keyAllowed := false }
  | none => do
    guard (p.inFlow || p.keyAllowed)
    let p := p.openBlock p.cursor.column p.count .blockMappingStart
    some { p.pushPast .value 1 with keyAllowed := !p.inFlow }

/-- Ends all blocks at the start of a line that belongs to none. -/
def endBlocks (p : Progress) : Option Progress := do
  let p ← (p.closeBlocks (-1)).dropKey
  some { p with keyAllowed := false }

/-- Adds a token that a reader gives and that may start a key. -/
def pushRead (p : Progress) (read : Cursor → Option (Token × Cursor)) : Option Progress := do
  let p ← p.saveKey
  let (t, cursor) ← read p.cursor
  some { p.push t with cursor, keyAllowed := false }

/-- Reads an anchor or an alias. -/
def readAnchor (p : Progress) (token : String → Token) : Option Progress :=
  p.pushRead fun c => do
    let (name, c) ← Yaml.readAnchor (c.advance 1)
    some (token name, c)

/-- Reads a scalar in quotes. -/
def readQuoted (p : Progress) (quote : Char) : Option Progress :=
  p.pushRead fun c => do
    let (text, c) ← Yaml.readQuoted quote c
    some (.scalar .quoted (String.ofList text), c)

/-- Reads a plain scalar. After one that goes on past its line, a key may start. -/
def readPlain (p : Progress) : Option Progress := do
  let p ← p.saveKey
  let (text, keyAllowed, cursor) ← Yaml.readPlain p.inFlow p.indent p.cursor
  some { p.push (.scalar .plain (String.ofList text)) with cursor, keyAllowed }

/-- Reads a scalar that is a block of lines. -/
def readBlock (p : Progress) (style : Style) : Option Progress := do
  let p ← p.dropKey
  let (text, cursor) ← Yaml.readBlock (style = .folded) p.indent p.cursor
  some { p.push (.scalar style (String.ofList text)) with cursor, keyAllowed := true }

/-- Whether a character can never start a plain scalar. -/
def isIndicator (c : Char) : Bool :=
  isBlank c || isBreak c || ",[]\x7b\x7d#&*!|>'\"%@\x60".toList.contains c

/-- Whether a plain scalar can start with a text. -/
def startsPlain (inFlow : Bool) (cs : List Char) : Bool :=
  match cs with
  | [] => false
  | '-' :: more => !more.head?.any isBlank
  | x :: more =>
    if x == '?' || x == ':' then !inFlow && !endsWord more else !isIndicator x

/-- Reads the next token from where it starts; none is left at the end of the text. -/
def readToken (p : Progress) : Option Progress :=
  let c := p.cursor
  let marks (x : Char) : Bool := c.sees x && (p.inFlow || endsWord (c.rest.drop 1))
  if c.column == 0 && c.sees '%' then do
    let p ← p.endBlocks
    let (t, cursor) ← readDirective (c.advance 1)
    some { p.push t with cursor }
  else if c.atMark '-' then do some ((← p.endBlocks).pushPast .documentStart 3)
  else if c.atMark '.' then do some ((← p.endBlocks).pushPast .documentEnd 3)
  else if c.sees '[' then p.openFlow .flowSequenceStart
  else if c.sees '\x7b' then p.openFlow .flowMappingStart
  else if c.sees ']' then p.closeFlow .flowSequenceEnd
  else if c.sees '\x7d' then p.closeFlow .flowMappingEnd
  else if c.sees ',' then p.readFlowEntry
  else if c.sees '-' && endsWord (c.rest.drop 1) then p.readBlockEntry
  else if marks '?' then p.readKeyMark
  else if marks ':' then p.readValueMark
  else if c.sees '*' then p.readAnchor .alias
  else if c.sees '&' then p.readAnchor .anchor
  else if c.sees '!' then p.pushRead (readTag p.inFlow)
  else if c.sees '|' && !p.inFlow then p.readBlock .literal
  else if c.sees '>' && !p.inFlow then p.readBlock .folded
  else if c.sees '\'' then p.readQuoted '\''
  else if c.sees '"' then p.readQuoted '"'
  else if startsPlain p.inFlow c.rest then p.readPlain
  else none

/-- Reads all tokens. `steps` bounds the tokens. -/
def readAll : Nat → Progress → Option Progress
  | 0, _ => none
  | steps + 1, p => do
    let p ← (skipGap (p.cursor.rest.length + 1) p).dropStale
    let p := p.closeBlocks p.cursor.column
    if p.cursor.rest.isEmpty then p.endBlocks else readAll steps (← p.readToken)

end Progress

/-- The tokens of a text, in which a byte order mark may stand first. -/
def tokens? (text : List Char) : Option (List Token) := do
  let start : Cursor := { rest := text }
  let cursor := if start.sees '\uFEFF' then start.advance 1 else start
  let p ← Progress.readAll (text.length + 1) { cursor }
  some p.tokens.reverse

end MailFormula.Yaml
