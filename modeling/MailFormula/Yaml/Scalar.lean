import MailFormula.Yaml.Cursor
/-!
# YAML: scalars

A scalar is written plainly, in quotes, or as a block of lines. Line breaks inside the first two
are folded: a single one becomes a blank, and of several all but the first stay. A block keeps its
breaks, or folds those between two lines that do not start with a blank.

Every reader here starts at the scalar's first character, and `steps` bounds the characters.
-/

namespace MailFormula.Yaml

open MailFormula.Text

/-- How a scalar is written. -/
inductive Style where
  | plain
  | quoted
  /-- A block that keeps its breaks. -/
  | literal
  /-- A block that folds its breaks. -/
  | folded
deriving DecidableEq, Repr

/-! ## Gaps between words -/

/-- A run of blanks and breaks: the blanks before the first break, that break, and the others.
Blanks after a break are indentation and do not count. -/
structure Gap where
  blanks : List Char := []
  first : Option Char := none
  others : List Char := []

/-- What a gap between two words stands for. -/
def Gap.text (g : Gap) : List Char :=
  match g.first with
  | none => g.blanks
  | some '\n' => if g.others.isEmpty then [' '] else g.others
  | some x => x :: g.others

/-- Reads blanks and breaks, the breaks onto `breaks` backwards. A tab left of the column `indent`
is refused. -/
def readBreaks (indent : Int) : Nat → List Char → Cursor → Option (List Char × Cursor)
  | 0, breaks, c => some (breaks, c)
  | steps + 1, breaks, c =>
    match c.readBreak with
    | some (x, c) => readBreaks indent steps (x :: breaks) c
    | none =>
      if c.sees '\t' && c.column < indent then none
      else if c.seesAny isBlank then readBreaks indent steps breaks (c.advance 1)
      else some (breaks, c)

/-- Reads a gap. A tab left of the column `indent` is refused at the start of a line. -/
def readGap (indent : Int) (c : Cursor) : Option (Gap × Cursor) :=
  let (blanks, c) := c.takeWhile isBlank
  match c.readBreak with
  | none => some ({ blanks }, c)
  | some (x, c) => do
    let (others, c) ← readBreaks indent c.rest.length [] c
    some ({ blanks, first := some x, others := others.reverse }, c)

/-! ## Quoted scalars -/

/-- The character that an escape of one letter stands for. -/
def letterEscape? (c : Char) : Option Char :=
  match c with
  | '0' => some '\x00'
  | 'a' => some '\x07'
  | 'b' => some '\x08'
  | 't' => some '\t'
  | '\t' => some '\t'
  | 'n' => some '\n'
  | 'v' => some '\x0b'
  | 'f' => some '\x0c'
  | 'r' => some '\r'
  | 'e' => some '\x1b'
  | ' ' => some ' '
  | '"' => some '"'
  | '/' => some '/'
  | '\\' => some '\\'
  | 'N' => some '\u0085'
  | '_' => some '\u00a0'
  | 'L' => some '\u2028'
  | 'P' => some '\u2029'
  | _ => none

/-- How many hexadecimal digits an escape has. -/
def hexLength? (c : Char) : Option Nat :=
  match c with
  | 'x' => some 2
  | 'u' => some 4
  | 'U' => some 8
  | _ => none

/-- The character that the escape after a backslash stands for, and the length of the escape. -/
def readEscape (cs : List Char) : Option (Char × Nat) :=
  match cs with
  | [] => none
  | e :: more =>
    match letterEscape? e, hexLength? e with
    | some x, _ => some (x, 1)
    | none, some n =>
      let digits := more.take n
      let code := hexNumber digits
      if digits.length == n && digits.all (fun d => (hexValue? d).isSome) && code.isValidChar then
        some (Char.ofNat code, n + 1)
      else none
    | none, none => none

/-- The text of a scalar after its opening quote, read onto `done` backwards, and the place after
its closing quote. A mark between documents may not stand inside. -/
def readQuotedFrom (quote : Char) : Nat → List Char → Cursor → Option (List Char × Cursor)
  | 0, _, _ => none
  | steps + 1, done, c =>
    if c.atAnyMark then none
    else
      match c.rest with
      | [] => none
      | x :: more =>
        if isBlank x || isBreak x then do
          let (gap, c) ← readGap 0 c
          readQuotedFrom quote steps (gap.text.reverse ++ done) c
        else if x == '\'' && quote == '\'' && more.head? == some '\'' then
          readQuotedFrom quote steps ('\'' :: done) (c.advance 2)
        else if x == quote then some (done.reverse, c.advance 1)
        else if x == '\\' && quote == '"' then
          if more.head?.any isBreak then do
            -- After an escaped break all further breaks stay.
            let (breaks, c) ← readBreaks 0 steps [] (c.advance 1).skipBreak
            readQuotedFrom quote steps (breaks ++ done) c
          else do
            let (y, n) ← readEscape more
            readQuotedFrom quote steps (y :: done) (c.advance (n + 1))
        else readQuotedFrom quote steps (x :: done) (c.advance 1)

/-- Reads a scalar in quotes. -/
def readQuoted (quote : Char) (c : Cursor) : Option (List Char × Cursor) :=
  readQuotedFrom quote (c.rest.length + 1) [] (c.advance 1)

/-! ## Plain scalars -/

/-- A mark that separates things inside brackets. -/
def isFlowMark (c : Char) : Bool :=
  c == ',' || c == '[' || c == ']' || c == '\x7b' || c == '\x7d'

/-- Whether a text starts with a character that ends the word of a plain scalar. -/
def endsPlain (inFlow : Bool) (cs : List Char) : Bool :=
  match cs with
  | [] => true
  | x :: more =>
    isBlank x || isBreak x || (x == ':' && endsWord more) || (inFlow && isFlowMark x)

/-- How many characters the next word of a plain scalar has. Inside brackets, a colon before one of
their marks or a question mark is refused. -/
def plainLength (inFlow : Bool) : Nat → List Char → Option Nat
  | n, [] => some n
  | n, x :: more =>
    if inFlow && x == ':' && more.head?.any (fun y => isFlowMark y || y == '?') then none
    else if endsPlain inFlow (x :: more) then some n
    else plainLength inFlow (n + 1) more

/-- Reads the words of a plain scalar onto `done` backwards; `gap` stands before the next word. The
scalar ends at a comment, at a mark between documents, and outside brackets before a line that is
not deeper than what holds the scalar. The flag says whether a line ended after the last word. -/
def readPlainFrom (inFlow : Bool) (indent : Int) :
    Nat → List Char → Gap → Cursor → Option (List Char × Bool × Cursor)
  | 0, _, _, _ => none
  | steps + 1, done, gap, c =>
    if c.atAnyMark || c.sees '#' then some (done.reverse, gap.first.isSome, c)
    else do
      let n ← plainLength inFlow 0 c.rest
      if n == 0 then some (done.reverse, gap.first.isSome, c)
      else
        let done := (c.rest.take n).reverse ++ (gap.text.reverse ++ done)
        let c := c.advance n
        if !c.seesAny (fun x => isBlank x || isBreak x) then some (done.reverse, false, c)
        else
          let (gap, c) ← readGap indent c
          if !inFlow && c.column < indent then some (done.reverse, gap.first.isSome, c)
          else readPlainFrom inFlow indent steps done gap c

/-- Reads a plain scalar inside something indented by `outer`. -/
def readPlain (inFlow : Bool) (outer : Int) (c : Cursor) : Option (List Char × Bool × Cursor) :=
  readPlainFrom inFlow (outer + 1) (c.rest.length + 1) [] {} c

/-! ## Block scalars -/

/-- What becomes of the breaks at the end of a block: all stay, one stays, or none. -/
inductive Chomping where
  | keep
  | clip
  | strip
deriving DecidableEq, Repr

/-- The first line of a block scalar: what becomes of its last breaks, and how much deeper than its
surroundings it is indented, where that is said. -/
structure BlockHeader where
  chomping : Chomping := .clip
  increment : Option Nat := none

/-- The sign that says what becomes of the last breaks. -/
def chomping? (c : Char) : Option Chomping :=
  match c with
  | '+' => some .keep
  | '-' => some .strip
  | _ => none

/-- Reads an optional sign. -/
def readChomping (c : Cursor) : Option Chomping × Cursor :=
  match c.peek?.bind chomping? with
  | some k => (some k, c.advance 1)
  | none => (none, c)

/-- Reads an optional digit, which is not zero. -/
def readIncrement (c : Cursor) : Option (Option Nat × Cursor) :=
  match c.peek?.filter isAsciiDigit with
  | some '0' => none
  | some d => some (some (digitValue d), c.advance 1)
  | none => some (none, c)

/-- Reads the first line of a block scalar after its indicator: a sign and a digit in any order. -/
def readBlockHeader (c : Cursor) : Option (BlockHeader × Cursor) := do
  let (before, c) := readChomping c
  let (increment, c) ← readIncrement c
  let (after, c) := if before.isNone && increment.isSome then readChomping c else (none, c)
  some ({ chomping := (before <|> after).getD .clip, increment }, ← c.finishLine)

/-- Reads the indentation of the next line that holds something, and the breaks of empty lines
before it onto `breaks` backwards. Where the indentation is not known, `widest` is the deepest seen,
and no tab may stand in it. -/
def readIndentation (indent : Option Nat) :
    Nat → Nat → List Char → Cursor → Option (Nat × List Char × Cursor)
  | 0, widest, breaks, c => some (widest, breaks, c)
  | steps + 1, widest, breaks, c =>
    let inIndent (c : Cursor) : Bool := indent.all (c.column < ·)
    if inIndent c && c.sees ' ' then readIndentation indent steps widest breaks (c.advance 1)
    else
      let widest := max widest c.column
      if inIndent c && c.sees '\t' then none
      else
        match c.readBreak with
        | some (x, c) => readIndentation indent steps widest (x :: breaks) c
        | none => some (widest, breaks, c)

/-- The lines of a block scalar, read onto `done` backwards. `last` is the break of the line before,
`breaks` those of empty lines after it, and `wasBlank` says whether that line started with a
blank. -/
def readBlockLines (isFolded : Bool) (chomping : Chomping) (indent : Nat) :
    Nat → List Char → Option Char → List Char → Bool → Cursor → Option (List Char × Cursor)
  | 0, _, _, _, _, _ => none
  | steps + 1, done, last, breaks, wasBlank, c =>
    if c.column != indent || c.rest.isEmpty then
      let tail := match chomping with
        | .keep => breaks ++ last.toList
        | .clip => last.toList
        | .strip => []
      some ((tail ++ done).reverse, c)
    else do
      let startsBlank := c.seesAny isBlank
      let joint :=
        if isFolded && last == some '\n' && !wasBlank && !startsBlank then
          if breaks.isEmpty then [' '] else breaks
        else breaks ++ last.toList
      let (body, c) := c.takeWhile (fun x => !isBreak x)
      let done := body.reverse ++ (joint ++ done)
      let (last, c) := match c.readBreak with
        | some (x, c) => (some x, c)
        | none => (none, c)
      let (_, breaks, c) ← readIndentation (some indent) (c.rest.length + 1) 0 [] c
      readBlockLines isFolded chomping indent steps done last breaks startsBlank c

/-- Reads a block scalar inside something indented by `outer`. Its own indentation is the one
said on its first line, or that of its first line that holds something, and at least one more than
that of its surroundings. -/
def readBlock (isFolded : Bool) (outer : Int) (c : Cursor) : Option (List Char × Cursor) := do
  let (header, c) ← readBlockHeader (c.advance 1)
  let said := header.increment.map (fun n => outer.toNat + n)
  let (widest, breaks, c) ← readIndentation said (c.rest.length + 1) 0 [] c
  let indent := said.getD (max widest (max (outer + 1).toNat 1))
  readBlockLines isFolded header.chomping indent (c.rest.length + 2) [] none breaks false c

end MailFormula.Yaml
