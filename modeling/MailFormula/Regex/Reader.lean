import MailFormula.Regex.Pattern
import MailFormula.Regex.Property
import MailFormula.Text.Blank
/-!
# Reading patterns

From the text of a regular expression to its `Pattern`. A text that is no regular expression
gives `none`; which fault it has is not recorded.

The reader keeps the open groups on a stack and so runs in one loop over the characters; a
bracketed class has a loop and a stack of its own. Every round of either loop consumes a
character, so the length of the text bounds the rounds: the bound is passed as the first argument
and is never used up.

Flags have scope. `(?i)` holds to the end of the enclosing group, over its later alternatives
too, and `(?i:...)` holds inside its own group. In extended mode blanks and comments are skipped
between almost any two characters.
-/

namespace MailFormula.Regex

open MailFormula.Text

/-- The modes that a pattern is read in. -/
structure Flags where
  caseless : Bool := false
  multiLine : Bool := false
  dotAll : Bool := false
  swapGreed : Bool := false
  unicode : Bool := true
  crlf : Bool := false
  extended : Bool := false
deriving DecidableEq, Repr

namespace Reader

/-- How deep the parts of a pattern may nest. -/
def maxNesting : Nat := 250

/-! ## Skipping in extended mode -/

/-- Skips blanks and comments; a comment runs to the end of its line. -/
def skipFrom (inComment : Bool) : List Char → List Char
  | [] => []
  | c :: cs =>
    if inComment then skipFrom (c != '\n') cs
    else if isBlank c then skipFrom false cs
    else if c == '#' then skipFrom true cs
    else c :: cs

/-- Skips what extended mode ignores. -/
def skip (extended : Bool) (cs : List Char) : List Char :=
  if extended then skipFrom false cs else cs

/-- Moves past one character and what extended mode ignores after it. -/
def bump (extended : Bool) (cs : List Char) : List Char :=
  skip extended (cs.drop 1)

/-- The first character that is neither blank nor the first number sign. -/
def peekFrom (inComment : Bool) : List Char → Option Char
  | [] => none
  | c :: cs =>
    if isBlank c then peekFrom inComment cs
    else if !inComment && c == '#' then peekFrom true cs
    else some c

/-- The character after the current one, past blanks in extended mode. -/
def peek (extended : Bool) (cs : List Char) : Option Char :=
  if extended then
    match cs with
    | [] => none
    | _ :: rest => peekFrom false rest
  else (cs.drop 1).head?

/-! ## Escapes -/

/-- What one escape or one plain character stands for. -/
inductive Primitive where
  | char (c : Char)
  | set (s : CharSet)
  | look (l : Look)
deriving Repr

/-- The characters with a meaning of their own. -/
def isMeta (c : Char) : Bool :=
  "\\.+*?()|[]\x7b\x7d^$#&-~".toList.contains c

/-- The characters that may be escaped to stand for themselves. -/
def isEscapable (c : Char) : Bool :=
  isMeta c || (c.toNat < 128 && !isAsciiAlphanumeric c && c != '<' && c != '>')

/-- The character of a code point, if there is one. -/
def charOfCode? (n : Nat) : Option Char :=
  if n < 0xD800 || (0xDFFF < n && n < 0x110000) then some (Char.ofNat n) else none

/-- Reads exactly `count` hexadecimal digits from the current character on. -/
def readHexDigits (extended : Bool) : Nat → Nat → List Char → Option (Nat × List Char)
  | 0, value, cs => some (value, cs)
  | _ + 1, _, [] => none
  | count + 1, value, c :: cs =>
    match hexValue? c with
    | none => none
    | some d => readHexDigits extended count (value * 16 + d) (skip extended cs)

/-- Reads hexadecimal digits up to a closing brace; `rounds` bounds their number. -/
def readHexBrace (extended : Bool) : Nat → List Char → List Char → Option (List Char × List Char)
  | 0, _, _ => none
  | _ + 1, _, [] => none
  | rounds + 1, digits, c :: cs =>
    if c == '\x7d' then some (digits.reverse, skip extended cs)
    else if (hexValue? c).isSome then readHexBrace extended rounds (c :: digits) (skip extended cs)
    else none

/-- Reads the digits of a hexadecimal escape; `cs` starts after the letter. -/
def readHex (flags : Flags) (width : Nat) (cs : List Char) : Option (Primitive × List Char) :=
  match cs with
  | [] => none
  | '\x7b' :: rest => do
    let (digits, after) ←
      readHexBrace flags.extended (rest.length + 1) [] (skip flags.extended rest)
    if digits.isEmpty then none
    else
      let c ← charOfCode? (hexNumber digits)
      some (.char c, after)
  | _ => do
    let (value, after) ← readHexDigits flags.extended width 0 cs
    let c ← charOfCode? value
    if width == 2 && !flags.unicode && 127 < value then none else some (.char c, after)

/-- The text up to a closing brace, without what extended mode ignores. -/
def readBraceName (extended : Bool) : Nat → List Char → List Char → Option (List Char × List Char)
  | 0, _, _ => none
  | _ + 1, _, [] => none
  | rounds + 1, name, c :: cs =>
    if c == '\x7d' then some (name.reverse, cs)
    else readBraceName extended rounds (c :: name) (skip extended cs)

/-- Splits a text at the first occurrence of a mark. -/
def splitAtMark (mark : List Char) : List Char → List Char → Option (List Char × List Char)
  | _, [] => none
  | before, c :: cs =>
    if mark.isPrefixOf (c :: cs) then some (before.reverse, (c :: cs).drop mark.length)
    else splitAtMark mark (c :: before) cs

/-- The set that the text between the braces of `\p` asks for. -/
def propertyOf (name : List Char) : Option CharSet :=
  match splitAtMark ['!', '='] [] name with
  | some (n, v) => (propertyValue? n v).map CharSet.complement
  | none =>
    match splitAtMark [':'] [] name with
    | some (n, v) => propertyValue? n v
    | none =>
      match splitAtMark ['='] [] name with
      | some (n, v) => propertyValue? n v
      | none => property? name

/-- A class that is not written in brackets, with case folding and negation applied. -/
def finishSet (flags : Flags) (negated : Bool) (s : CharSet) : CharSet :=
  let folded :=
    if flags.caseless then (if flags.unicode then s.closeFold else s.closeAscii) else s
  if negated then folded.complement else folded

/-- Reads a property class; `cs` starts after the letter. -/
def readProperty (flags : Flags) (negated : Bool) (cs : List Char) :
    Option (Primitive × List Char) := do
  let (s, after) ←
    match cs with
    | [] => none
    | '\x7b' :: rest => do
      let (name, after) ←
        readBraceName flags.extended (rest.length + 1) [] (skip flags.extended rest)
      let s ← propertyOf name
      some (s, after)
    | c :: rest =>
      if c == '\\' then none
      else do
        let s ← category? (foldName [c])
        some (s, skip flags.extended rest)
  if flags.unicode then some (.set (finishSet flags negated s), after) else none

/-- A class with a letter of its own. Outside Unicode mode its complement would match parts of
characters and is refused. -/
def letterClass (flags : Flags) (c : Char) : Option CharSet :=
  if flags.unicode then
    match c with
    | 'd' => some digitSet
    | 'D' => some digitSet.complement
    | 's' => some blankSet
    | 'S' => some blankSet.complement
    | 'w' => some wordSet
    | 'W' => some wordSet.complement
    | _ => none
  else
    match c with
    | 'd' => some asciiDigitSet
    | 's' => some asciiBlankSet
    | 'w' => some asciiWordSet
    | _ => none

/-- The letters and hyphens that the name of a word boundary is made of. -/
def isBoundaryChar (c : Char) : Bool := isAsciiAlpha c || c == '-'

/-- Reads the letters of a word boundary's name. -/
def readBoundaryName (extended : Bool) : Nat → List Char → List Char → List Char × List Char
  | 0, name, cs => (name.reverse, cs)
  | _ + 1, name, [] => (name.reverse, [])
  | rounds + 1, name, c :: cs =>
    if isBoundaryChar c then readBoundaryName extended rounds (c :: name) (skip extended cs)
    else (name.reverse, c :: cs)

/-- A word boundary, perhaps with a name in braces; braces that hold no name are a repetition
and are left for the caller. `cs` starts after the letter. -/
def readBoundary (flags : Flags) (cs : List Char) : Option (Primitive × List Char) :=
  let ascii := !flags.unicode
  match cs with
  | '\x7b' :: rest =>
    match skip flags.extended rest with
    | [] => none
    | c :: inner =>
      if isBoundaryChar c then
        match readBoundaryName flags.extended (inner.length + 2) [] (c :: inner) with
        | (name, '\x7d' :: after) =>
          match String.ofList name with
          | "start" => some (.look (.wordStart ascii), after)
          | "end" => some (.look (.wordEnd ascii), after)
          | "start-half" => some (.look (.wordStartHalf ascii), after)
          | "end-half" => some (.look (.wordEndHalf ascii), after)
          | _ => none
        | _ => none
      else some (.look (.wordEdge ascii), cs)
  | _ => some (.look (.wordEdge ascii), cs)

/-- Reads an escape; `cs` starts after the backslash. -/
def readEscape (flags : Flags) (cs : List Char) : Option (Primitive × List Char) :=
  match cs with
  | [] => none
  | c :: rest =>
    if isAsciiDigit c then none
    else if isEscapable c then some (.char c, rest)
    else
      match c with
      | 'x' => readHex flags 2 (skip flags.extended rest)
      | 'u' => readHex flags 4 (skip flags.extended rest)
      | 'U' => readHex flags 8 (skip flags.extended rest)
      | 'p' => readProperty flags false (skip flags.extended rest)
      | 'P' => readProperty flags true (skip flags.extended rest)
      | 'd' | 'D' | 's' | 'S' | 'w' | 'W' => (letterClass flags c).map (fun s => (.set s, rest))
      | 'a' => some (.char (Char.ofNat 7), rest)
      | 'f' => some (.char (Char.ofNat 12), rest)
      | 't' => some (.char '\t', rest)
      | 'n' => some (.char '\n', rest)
      | 'r' => some (.char '\r', rest)
      | 'v' => some (.char (Char.ofNat 11), rest)
      | 'A' => some (.look .textStart, rest)
      | 'z' => some (.look .textEnd, rest)
      | 'b' => readBoundary flags rest
      | 'B' => some (.look (.notWordEdge (!flags.unicode)), rest)
      | '<' => some (.look (.wordStart (!flags.unicode)), rest)
      | '>' => some (.look (.wordEnd (!flags.unicode)), rest)
      | _ => none

/-! ## Bracketed classes -/

/-- The operations between the parts of a bracketed class, all of one precedence. -/
inductive SetOp where
  | inter
  | diff
  | symmDiff
deriving DecidableEq, Repr

/-- A class under construction: the parts read so far, how many there are and how deep they
nest, and the operation that waits for its right side. -/
structure OpenClass where
  negated : Bool
  parts : CharSet
  count : Nat
  nesting : Nat
  pending : Option (SetOp × CharSet × Nat)
deriving Repr

/-- The nesting of a union: one more than its parts' when there are at least two. -/
def OpenClass.unionNesting (o : OpenClass) : Nat :=
  if 2 ≤ o.count then o.nesting + 1 else o.nesting

/-- Applies the waiting operation, both sides folded first. -/
def OpenClass.settle (flags : Flags) (o : OpenClass) : CharSet × Nat :=
  match o.pending with
  | none => (o.parts, o.unionNesting)
  | some (op, lhs, depth) =>
    let left := finishSet flags false lhs
    let right := finishSet flags false o.parts
    let result :=
      match op with
      | .inter => left.inter right
      | .diff => left.diff right
      | .symmDiff => left.symmDiff right
    (result, Nat.max depth o.unionNesting + 1)

/-- Adds a part. -/
def OpenClass.add (o : OpenClass) (s : CharSet) (nesting : Nat) : OpenClass :=
  { o with parts := o.parts.union s, count := o.count + 1, nesting := Nat.max o.nesting nesting }

/-- Starts the right side of an operation. -/
def OpenClass.operator (flags : Flags) (o : OpenClass) (op : SetOp) : OpenClass :=
  let (lhs, depth) := o.settle flags
  { negated := o.negated, parts := .none, count := 0, nesting := 0,
    pending := some (op, lhs, depth) }

/-- Hyphens at the start of a class stand for themselves. -/
def readHyphens (extended : Bool) : Nat → OpenClass → List Char → OpenClass × List Char
  | 0, o, cs => (o, cs)
  | rounds + 1, o, cs =>
    match cs with
    | '-' :: rest => readHyphens extended rounds (o.add (.single '-') 0) (skip extended rest)
    | _ => (o, cs)

/-- Opens a class; `cs` starts after the bracket. -/
def openClass (extended : Bool) (cs : List Char) : Option (OpenClass × List Char) :=
  let cs := skip extended cs
  let (negated, cs) :=
    match cs with
    | '^' :: rest => (true, skip extended rest)
    | _ => (false, cs)
  let start : OpenClass :=
    { negated, parts := .none, count := 0, nesting := 0, pending := none }
  let (o, cs) := readHyphens extended cs.length start cs
  match cs with
  | [] => none
  | ']' :: rest =>
    if o.count == 0 then
      match skip extended rest with
      | [] => none
      | after => some (o.add (.single ']') 0, after)
    else some (o, cs)
  | _ => some (o, cs)

/-- A named ASCII class such as `[:alpha:]`; `cs` starts at its bracket. -/
def readAsciiClass (flags : Flags) (cs : List Char) : Option (CharSet × List Char) :=
  match cs with
  | '[' :: ':' :: rest =>
    let (negated, rest) :=
      match rest with
      | '^' :: more => (true, more)
      | _ => (false, rest)
    let name := rest.takeWhile (· != ':')
    match rest.dropWhile (· != ':') with
    | ':' :: ']' :: after =>
      (asciiClass? (String.ofList name)).map (fun s => (finishSet flags negated s, after))
    | _ => none
  | _ => none

/-- One character or escape inside a class. -/
def readClassItem (flags : Flags) (cs : List Char) : Option (Primitive × List Char) :=
  match cs with
  | [] => none
  | '\\' :: rest => readEscape flags rest
  | c :: rest => if flags.unicode || c.toNat < 128 then some (.char c, rest) else none

/-- A character, a class or a range inside a class. -/
def readClassRange (flags : Flags) (cs : List Char) : Option (CharSet × List Char) := do
  let (first, rest) ← readClassItem flags cs
  let rest := skip flags.extended rest
  match rest with
  | [] => none
  | c :: _ =>
    let next := peek flags.extended rest
    if c != '-' || next == some ']' || next == some '-' then
      match first with
      | .char c => some (.single c, rest)
      | .set s => some (s, rest)
      | .look _ => none
    else
      match bump flags.extended rest with
      | [] => none
      | after => do
        let (second, rest) ← readClassItem flags after
        match first, second with
        | .char lo, .char hi => if lo ≤ hi then some (.range lo hi, rest) else none
        | _, _ => none

/-- Whether a set may stand in a class: outside Unicode mode only ASCII characters may, in every
part of it. -/
def fitsMode (flags : Flags) (s : CharSet) : Bool :=
  flags.unicode || s.ranges.all (fun r => r.hi < 128)

/-- Closes a class: applies the waiting operation, case folding and negation. -/
def closeClass (flags : Flags) (o : OpenClass) : Option (CharSet × Nat) :=
  let (s, depth) := o.settle flags
  let result := finishSet flags o.negated s
  if fitsMode flags result then some (result, depth + 1) else none

/-- Reads a class; the innermost open class is `o` and `outer` holds those around it. -/
def readClass (flags : Flags) : Nat → OpenClass → List OpenClass → List Char →
    Option (CharSet × Nat × List Char)
  | 0, _, _, _ => none
  | rounds + 1, o, outer, cs =>
    match skip flags.extended cs with
    | [] => none
    | ']' :: rest =>
      match closeClass flags o with
      | none => none
      | some (s, depth) =>
        match outer with
        | [] => some (s, depth, rest)
        | parent :: others => readClass flags rounds (parent.add s depth) others rest
    | '&' :: '&' :: rest => readClass flags rounds (o.operator flags .inter) outer rest
    | '-' :: '-' :: rest => readClass flags rounds (o.operator flags .diff) outer rest
    | '~' :: '~' :: rest => readClass flags rounds (o.operator flags .symmDiff) outer rest
    | '[' :: rest =>
      match readAsciiClass flags ('[' :: rest) with
      | some (s, after) =>
        if fitsMode flags s then readClass flags rounds (o.add s 0) outer after else none
      | none =>
        match openClass flags.extended rest with
        | none => none
        | some (inner, after) => readClass flags rounds inner (o :: outer) after
    | item =>
      match readClassRange flags item with
      | none => none
      | some (s, after) =>
        if fitsMode flags s then readClass flags rounds (o.add s 0) outer after else none

/-! ## Groups, repetitions and the main loop -/

/-- A part of the sequence being read: a pattern with its nesting, or a change of flags, which
no repetition may follow. -/
inductive Item where
  | part (p : Pattern) (nesting : Nat)
  | flagChange
deriving Repr

/-- A group that is still open: what surrounds it, and the number it remembers its text under. -/
structure Level where
  items : List Item
  branches : List (Pattern × Nat)
  flags : Flags
  index : Option Nat
deriving Repr

/-- The state of the reader. Items and branches are in reverse order. -/
structure State where
  flags : Flags
  items : List Item
  branches : List (Pattern × Nat)
  levels : List Level
  groups : Nat
  names : List (List Char)
deriving Repr

/-- The patterns among a list of items, with their nestings. -/
def patternsOf (items : List Item) : List (Pattern × Nat) :=
  items.filterMap fun
    | .part p n => some (p, n)
    | .flagChange => none

/-- The greatest nesting among some patterns. -/
def deepest (ps : List (Pattern × Nat)) : Nat :=
  ps.foldl (fun n p => Nat.max n p.2) 0

/-- The sequence that the items write. -/
def sequenceOf (items : List Item) : Pattern × Nat :=
  let ps := patternsOf items.reverse
  (Pattern.sequence (ps.map Prod.fst), if 2 ≤ items.length then deepest ps + 1 else deepest ps)

/-- The choice between the finished branches and the last one. -/
def choiceOf (branches : List (Pattern × Nat)) (items : List Item) : Pattern × Nat :=
  let all := (sequenceOf items :: branches).reverse
  (Pattern.alternatives (all.map Prod.fst),
    if 2 ≤ all.length then deepest all + 1 else deepest all)

/-- Sets one flag. -/
def setFlag (flags : Flags) (c : Char) (on : Bool) : Option Flags :=
  match c with
  | 'i' => some { flags with caseless := on }
  | 'm' => some { flags with multiLine := on }
  | 's' => some { flags with dotAll := on }
  | 'U' => some { flags with swapGreed := on }
  | 'u' => some { flags with unicode := on }
  | 'R' => some { flags with crlf := on }
  | 'x' => some { flags with extended := on }
  | _ => none

/-- Reads flags up to a colon or a closing parenthesis, which is given back with the rest. A
letter may occur once, a minus once and not last. -/
def readFlags (flags : Flags) (seen : List Char) : List Char →
    Option (Flags × List Char × Char × List Char)
  | [] => none
  | c :: cs =>
    if c == ':' || c == ')' then
      if seen.head? == some '-' then none else some (flags, seen, c, cs)
    else if seen.contains c then none
    else if c == '-' then readFlags flags (c :: seen) cs
    else
      match setFlag flags c (!seen.contains '-') with
      | none => none
      | some flags => readFlags flags (c :: seen) cs

/-- Whether a character may stand in the name of a group. -/
def isNameChar (first : Bool) (c : Char) : Bool :=
  if first then c == '_' || nameStartSet.has c
  else c == '_' || c == '.' || c == '[' || c == ']' || nameSet.has c

/-- Reads the name of a group up to the closing angle bracket. -/
def readGroupName (name : List Char) : List Char → Option (List Char × List Char)
  | [] => none
  | c :: cs =>
    if c == '>' then (if name.isEmpty then none else some (name.reverse, cs))
    else if isNameChar name.isEmpty c then readGroupName (c :: name) cs
    else none

/-- Opens a group that remembers its text. -/
def State.openCapture (st : State) : State :=
  { st with
    items := [], branches := [], groups := st.groups + 1,
    levels := ⟨st.items, st.branches, st.flags, some (st.groups + 1)⟩ :: st.levels }

/-- Opens a group; `cs` starts after the parenthesis. Assertions on the surroundings do not
exist. -/
def openGroup (st : State) (cs : List Char) : Option (State × List Char) :=
  let named (rest : List Char) : Option (State × List Char) := do
    let (name, after) ← readGroupName [] rest
    if st.names.contains name then none
    else some ({ st.openCapture with names := name :: st.names }, after)
  match skip st.flags.extended cs with
  | '?' :: '=' :: _ => none
  | '?' :: '!' :: _ => none
  | '?' :: '<' :: '=' :: _ => none
  | '?' :: '<' :: '!' :: _ => none
  | '?' :: 'P' :: '<' :: rest => named rest
  | '?' :: '<' :: rest => named rest
  | '?' :: rest => do
    let (flags, seen, last, after) ← readFlags st.flags [] rest
    if last == ')' then
      if seen.isEmpty then none
      else some ({ st with flags, items := .flagChange :: st.items }, after)
    else
      some ({ st with
        flags, items := [], branches := [],
        levels := ⟨st.items, st.branches, st.flags, none⟩ :: st.levels }, after)
  | rest => some (st.openCapture, rest)

/-- Closes the innermost group. -/
def closeGroup (st : State) : Option State :=
  match st.levels with
  | [] => none
  | level :: levels =>
    let (p, nesting) := choiceOf st.branches st.items
    let part :=
      match level.index with
      | some i => Pattern.group i p
      | none => p
    some { st with
      flags := level.flags, branches := level.branches, levels,
      items := .part part (nesting + 1) :: level.items }

/-- Repeats the last part. -/
def repeatLast (st : State) (least : Nat) (most : Option Nat) (greedy : Bool) : Option State :=
  match st.items with
  | .part p nesting :: items =>
    some { st with
      items := .part (p.repeated least most (greedy != st.flags.swapGreed)) (nesting + 1) :: items }
  | _ => none

/-- Whether a question mark follows that makes a repetition reluctant. -/
def readReluctant (cs : List Char) : Bool × List Char :=
  match cs with
  | '?' :: rest => (false, rest)
  | _ => (true, cs)

/-- Reads the digits of a count, skipping what extended mode ignores between them. -/
def readCountDigits (extended : Bool) : Nat → List Char → List Char → List Char × List Char
  | 0, digits, cs => (digits.reverse, cs)
  | _ + 1, digits, [] => (digits.reverse, [])
  | rounds + 1, digits, c :: cs =>
    if isAsciiDigit c then readCountDigits extended rounds (c :: digits) (skip extended cs)
    else (digits.reverse, c :: cs)

/-- Reads a count between blanks. The outer `none` is a number that is too large, the inner one
the absence of digits. -/
def readCount (extended : Bool) (cs : List Char) : Option (Option Nat × List Char) :=
  let start := dropBlanks cs
  let (digits, after) := readCountDigits extended start.length [] start
  let rest := skip extended (dropBlanks after)
  if digits.isEmpty then some (none, rest)
  else if decimalValue digits < UInt32.size then some (some (decimalValue digits), rest)
  else none

/-- Reads a counted repetition; `cs` starts after the brace. -/
def readCounted (st : State) (cs : List Char) : Option (State × List Char) :=
  let x := st.flags.extended
  match skip x cs with
  | [] => none
  | inner => do
    let (least?, rest) ← readCount x inner
    let (most, rest) ←
      match rest with
      | ',' :: rest =>
        match skip x rest with
        | [] => none
        | '\x7d' :: rest => some ((none : Option Nat), '\x7d' :: rest)
        | rest => do
          let (most?, rest) ← readCount x rest
          let most ← most?
          some (some most, rest)
      | rest => some (least?, rest)
    let least ← least?
    match rest with
    | '\x7d' :: after =>
      let (greedy, after) := readReluctant (skip x after)
      if (most.getD least) < least then none
      else
        let st ← repeatLast st least most greedy
        some (st, after)
    | _ => none

/-- The pattern of one character, as the flags ask for it. -/
def charPattern (flags : Flags) (c : Char) : Pattern :=
  .set (finishSet flags false (.single c))

/-- The pattern of a dot. Outside Unicode mode it would match parts of characters. -/
def dotPattern (flags : Flags) : Option Pattern :=
  if !flags.unicode then none
  else if flags.dotAll then some (.set .any)
  else if flags.crlf then some (.set (CharSet.ofTable ["A D"]).complement)
  else some (.set (CharSet.single '\n').complement)

/-- Adds a part to the sequence. -/
def State.push (st : State) (p : Pattern) (nesting : Nat) : State :=
  { st with items := .part p nesting :: st.items }

/-- Reads one item of the pattern. -/
def step (st : State) (cs : List Char) : Option (State × List Char) :=
  match cs with
  | [] => none
  | '(' :: rest => openGroup st rest
  | ')' :: rest => (closeGroup st).map (fun st => (st, rest))
  | '|' :: rest =>
    some ({ st with branches := sequenceOf st.items :: st.branches, items := [] }, rest)
  | '[' :: rest => do
    let (o, after) ← openClass st.flags.extended rest
    let (s, depth, after) ← readClass st.flags (after.length + 1) o [] after
    some (st.push (.set s) depth, after)
  | '?' :: rest =>
    let (greedy, after) := readReluctant rest
    (repeatLast st 0 (some 1) greedy).map (fun st => (st, after))
  | '*' :: rest =>
    let (greedy, after) := readReluctant rest
    (repeatLast st 0 none greedy).map (fun st => (st, after))
  | '+' :: rest =>
    let (greedy, after) := readReluctant rest
    (repeatLast st 1 none greedy).map (fun st => (st, after))
  | '\x7b' :: rest =>
    match st.items with
    | .part _ _ :: _ => readCounted st rest
    | _ => none
  | '.' :: rest => (dotPattern st.flags).map (fun p => (st.push p 0, rest))
  | '^' :: rest =>
    let l := if st.flags.multiLine then Look.lineStart st.flags.crlf else .textStart
    some (st.push (.look l) 0, rest)
  | '$' :: rest =>
    let l := if st.flags.multiLine then Look.lineEnd st.flags.crlf else .textEnd
    some (st.push (.look l) 0, rest)
  | '\\' :: rest => do
    let (primitive, after) ← readEscape st.flags rest
    match primitive with
    | .char c => some (st.push (charPattern st.flags c) 0, after)
    | .set s => some (st.push (.set s) 0, after)
    | .look l => some (st.push (.look l) 0, after)
  | c :: rest => some (st.push (charPattern st.flags c) 0, rest)

/-- Reads items until the text ends. -/
def run : Nat → State → List Char → Option State
  | 0, _, _ => none
  | rounds + 1, st, cs =>
    match skip st.flags.extended cs with
    | [] => some st
    | rest =>
      match step st rest with
      | none => none
      | some (st, after) => run rounds st after

/-- Reads a whole pattern in the given modes. -/
def read (flags : Flags) (cs : List Char) : Option Pattern := do
  let start : State :=
    { flags, items := [], branches := [], levels := [], groups := 0, names := [] }
  let st ← run (cs.length + 1) start cs
  if st.levels.isEmpty then
    let (p, nesting) := choiceOf st.branches st.items
    if nesting ≤ maxNesting then some p else none
  else none

end Reader

end MailFormula.Regex
