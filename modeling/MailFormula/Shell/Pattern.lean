import MailFormula.Shell.Octets
/-!
# Patterns

Patterns for names and texts: a star matches anything, a question mark one octet, and brackets one
of a set. A character of a pattern that was quoted matches only itself.
-/

namespace MailFormula.Shell

open MailFormula.Text

/-- A character of a pattern, and whether it may have a meaning of its own. -/
abbrev PatternChar := Char × Bool

/-- What one place of a pattern matches. -/
inductive Matcher where
  | literal (c : Char)
  | one
  | many
  | set (isNegated : Bool) (contains : Char → Bool)

/-- The order of octets in ranges: those above 127 come first. -/
def signedCode (c : Char) : Int := if c.toNat < 128 then c.toNat else (c.toNat : Int) - 256

/-- The named classes of characters. -/
def classOf? (name : String) : Option (Char → Bool) :=
  let isLower (c : Char) : Bool := 'a' ≤ c && c ≤ 'z'
  let isUpper (c : Char) : Bool := 'A' ≤ c && c ≤ 'Z'
  let isGraph (c : Char) : Bool := '!' ≤ c && c ≤ '~'
  match name with
  | "lower" => some isLower
  | "upper" => some isUpper
  | "digit" => some isAsciiDigit
  | "alpha" => some isAsciiAlpha
  | "alnum" => some isAsciiAlphanumeric
  | "space" => some isWhite
  | "blank" => some (fun c => c == ' ' || c == '\t')
  | "cntrl" => some (fun c => c < ' ' || c == '\x7f')
  | "graph" => some isGraph
  | "print" => some (fun c => c == ' ' || isGraph c)
  | "punct" => some (fun c => isGraph c && !isAsciiAlphanumeric c)
  | "xdigit" => some isHex
  | _ => none

/-- The class that a set goes on with after its opening bracket, and the rest after it. -/
def readClass (cs : List PatternChar) : Option ((Char → Bool) × List PatternChar) :=
  match cs with
  | (':', true) :: cs =>
    let name := cs.takeWhile (fun c => c.1 ≠ ':')
    match cs.drop name.length with
    | (':', true) :: (']', true) :: rest =>
      (classOf? (String.ofList (name.map Prod.fst))).map (fun p => (p, rest))
    | _ => none
  | _ => none

/-- Drops a backslash that takes away the meaning of the next character. -/
def dropEscape (cs : List PatternChar) : List PatternChar :=
  match cs with
  | ('\\', true) :: (c, _) :: rest => (c, false) :: rest
  | _ => cs

/-- Reads the members of a set up to its closing bracket; the first may be a bracket. `steps`
bounds the length. -/
def readSet (isFirst : Bool) (found : Char → Bool) :
    Nat → List PatternChar → Option ((Char → Bool) × List PatternChar)
  | 0, _ => none
  | _ + 1, [] => none
  | steps + 1, cs =>
    match cs, isFirst with
    | (']', true) :: rest, false => some (found, rest)
    | cs, _ =>
      match (match cs with
        | ('[', true) :: rest => readClass rest
        | _ => none) with
      | some (p, rest) => readSet false (fun c => found c || p c) steps rest
      | none =>
        match dropEscape cs with
        | [] => none
        | (first, _) :: rest =>
          match rest with
          | ('-', true) :: (c, active) :: more =>
            if c == ']' && active then readSet false (fun d => found d || d == first) steps rest
            else
              match dropEscape ((c, active) :: more) with
              | (last, _) :: more =>
                let within (d : Char) : Bool :=
                  signedCode first ≤ signedCode d && signedCode d ≤ signedCode last
                readSet false (fun d => found d || within d) steps more
              | [] => none
          | rest => readSet false (fun d => found d || d == first) steps rest

/-- Reads a pattern. A bracket that is never closed matches itself. `steps` bounds the length. -/
def readPattern : Nat → List PatternChar → List Matcher
  | 0, _ => []
  | _ + 1, [] => []
  | steps + 1, (c, false) :: rest => .literal c :: readPattern steps rest
  | steps + 1, (c, true) :: rest =>
    match c with
    | '*' => .many :: readPattern steps rest
    | '?' => .one :: readPattern steps rest
    | '\\' =>
      match rest with
      | (d, _) :: more => .literal d :: readPattern steps more
      | [] => [.literal '\\']
    | '[' =>
      let (isNegated, members) := match rest with
        | ('!', true) :: more => (true, more)
        | ('^', true) :: more => (true, more)
        | more => (false, more)
      match readSet true (fun _ => false) steps members with
      | some (p, more) => .set isNegated p :: readPattern steps more
      | none => .literal '[' :: readPattern steps rest
    | c => .literal c :: readPattern steps rest

/-- The pattern that characters write. -/
def patternOf (cs : List PatternChar) : List Matcher := readPattern (cs.length + 1) cs

/-- Whether one place of a pattern matches a character. -/
def Matcher.takes (p : Matcher) (c : Char) : Bool :=
  match p with
  | .literal d => c == d
  | .one | .many => true
  | .set isNegated contains => contains c != isNegated

/-! A row says of each beginning of a pattern whether it matches a text; the one for the empty
beginning stands apart, before the row. -/

/-- The row of the empty text. -/
def firstRow (before : Bool) : List Matcher → List Bool
  | [] => []
  | .many :: ps => before :: firstRow before ps
  | _ :: ps => false :: firstRow false ps

/-- The row of a text with one more character, from the row of the text. The two truth values are
those of the beginning before, without the character and with it. -/
def nextRow (c : Char) (old new : Bool) : List Matcher → List Bool → List Bool
  | p :: ps, o :: os =>
    let n := match p with
      | .many => o || new
      | p => old && p.takes c
    n :: nextRow c o n ps os
  | _, _ => []

/-- The lengths of the beginnings of a text that a pattern matches, the longest first. The text goes
on after `pos` characters, of which the row is given. -/
def matchingLengths (ps : List Matcher) (pos : Nat) (none : Bool) (row : List Bool)
    (found : List Nat) (cs : Octets) : List Nat :=
  let found := if row.getLastD none then pos :: found else found
  match cs with
  | [] => found
  | c :: cs => matchingLengths ps (pos + 1) false (nextRow c none false ps row) found cs

/-- The lengths of the beginnings of a text that a pattern matches, the longest first. -/
def lengthsOf (ps : List Matcher) (cs : Octets) : List Nat :=
  matchingLengths ps 0 true (firstRow true ps) [] cs

/-- Whether a pattern matches a whole text. -/
def matchesAll (ps : List Matcher) (cs : Octets) : Bool :=
  (lengthsOf ps cs).head? == some cs.length

/-- Takes a part that a pattern matches off the start of a text, as short or as long as can be. -/
def trimStart (ps : List Matcher) (longest : Bool) (cs : Octets) : Octets :=
  let lengths := lengthsOf ps cs
  cs.drop ((if longest then lengths.head? else lengths.getLast?).getD 0)

/-- Takes a part that a pattern matches off the start or the end of a text, as short or as long as
can be. -/
def trimBy (ps : List Matcher) (atEnd longest : Bool) (cs : Octets) : Octets :=
  if atEnd then (trimStart ps.reverse longest cs.reverse).reverse else trimStart ps longest cs

end MailFormula.Shell
