import MailFormula.Shell.Pattern
import MailFormula.Shell.Tool.Options
import MailFormula.Shell.Tool.Quote
/-!
# Replacing characters

`tr` reads one or two sets of characters and replaces, deletes or squeezes what they name. A set is
written as characters, ranges, classes and repetitions. Where two sets are given, they are laid side
by side; the classes of small and capital letters stand opposite each other as a whole.
-/

namespace MailFormula.Shell

open MailFormula.Text

/-- A part of a set. -/
inductive SetPart where
  | char (c : Char)
  | range (first last : Char)
  | letterClass (name : String)
  | same (c : Char)
  /-- A character so many times, or as often as is needed. -/
  | repeated (c : Char) (count : Option Nat)
deriving DecidableEq, Repr

/-- What `tr` is asked to do. -/
structure TrOptions where
  delete : Bool := false
  squeeze : Bool := false
  complement : Bool := false
  truncate : Bool := false

namespace Tr

/-- The options of `tr`. -/
def table : OptionTable :=
  { tool := "tr"
    letters := "AcCdst".toList
    words :=
      [⟨"complement", 'c', false⟩, ⟨"delete", 'd', false⟩, ⟨"squeeze-repeats", 's', false⟩,
        ⟨"truncate-set1", 't', false⟩, ⟨"help", 'h', false⟩, ⟨"version", 'V', false⟩]
    optionsFirst := true }

/-- What the options ask for. -/
def optionsOf (a : Arguments) : TrOptions :=
  { delete := a.has 'd', squeeze := a.has 's', complement := a.has 'c' || a.has 'C'
    truncate := a.has 't' }

/-! ## Reading a set -/

/-- A character of a set, and whether it was escaped. -/
abbrev SetChar := Char × Bool

/-- Resolves the escapes of a set, with warnings about those that others may read otherwise. `steps`
bounds the length. -/
def resolveEscapes : Nat → Octets → List SetChar × List Octets
  | 0, _ => ([], [])
  | _ + 1, [] => ([], [])
  | steps + 1, c :: rest =>
    let next (x : SetChar) (more : List SetChar × List Octets) : List SetChar × List Octets :=
      (x :: more.1, more.2)
    if c ≠ '\\' then next (c, false) (resolveEscapes steps rest)
    else
      match rest with
      | [] => ([('\\', false)],
          ["warning: an unescaped backslash at end of string is not portable".toList])
      | d :: more =>
        if !isOctal d then
          let letter := match d with
            | 'a' => '\x07'
            | 'b' => '\x08'
            | 'f' => '\x0c'
            | 'n' => '\n'
            | 'r' => '\r'
            | 't' => '\t'
            | 'v' => '\x0b'
            | d => d
          next (letter, true) (resolveEscapes steps more)
        else
          let three := (rest.take 3).takeWhile isOctal
          if octalValue three < 256 then
            next (Char.ofNat (octalValue three), true)
              (resolveEscapes steps (rest.drop three.length))
          else
            -- Three digits that are too large are two and a character.
            let two := three.take 2
            let (cs, warnings) := resolveEscapes steps (rest.drop 2)
            ((Char.ofNat (octalValue two), true) :: cs,
              ("warning: the ambiguous octal escape \\".toList ++ three ++
                " is being\n\tinterpreted as the 2-byte sequence \\0".toList ++ two ++
                ", ".toList ++ three.drop 2) :: warnings)

/-- Whether a set goes on with a character that was not escaped. -/
def seesPlain (c : Char) (cs : List SetChar) : Bool := cs.head? == some (c, false)

/-- The characters up to a mark before a closing bracket, and the rest after both. -/
def takeUntil (mark : Char) (done : List Char) : List SetChar → Option (List Char × List SetChar)
  | (c, e) :: (d, f) :: rest =>
    if c == mark && !e && d == ']' && !f then some (done.reverse, rest)
    else takeUntil mark (c :: done) ((d, f) :: rest)
  | _ => none

/-- A text of a set as it is shown: what cannot be printed is escaped. -/
def printed (cs : Octets) : Octets :=
  cs.flatMap fun c =>
    if c == '\\' then ['\\', '\\'] else if isPrintable c then [c] else escapeText c

/-- A character of a range as it is shown. -/
def shown (c : Char) : Octets := if isPrintable c then [c] else '\\' :: octalText c

/-- A repetition after its opening bracket, and the rest after it; refused if its count is no
number. -/
def readRepeat (cs : List SetChar) : Option (Except Octets (SetPart × List SetChar)) :=
  match cs with
  | (c, _) :: ('*', false) :: rest =>
    let count := rest.takeWhile (fun x => !x.2 && x.1 ≠ ']')
    match rest.drop count.length with
    | (']', false) :: after =>
      let digits := count.map Prod.fst
      if digits.isEmpty then some (.ok (.repeated c none, after))
      else
        let isOctalCount := digits.head? == some '0'
        let n := if isOctalCount then octalValue digits else decimalValue digits
        if digits.all (if isOctalCount then isOctal else isAsciiDigit) && n < Nat.pow 2 64 - 1 then
          some (.ok (.repeated c (if n == 0 then none else some n), after))
        else
          some (.error
            ("invalid repeat count ".toList ++ quoted (printed digits) ++
              " in [c*n] construct".toList))
    | _ => none
  | _ => none

/-- Whether a star, digits and a closing bracket follow. -/
def isRepeatTail (cs : List SetChar) : Bool :=
  match cs with
  | ('*', false) :: rest => seesPlain ']' (rest.dropWhile (fun x => isAsciiDigit x.1))
  | _ => false

/-- A class after its opening bracket, and the rest after it; `none` if there is none. -/
def readClassPart (cs : List SetChar) : Option (Except Octets (SetPart × List SetChar)) :=
  match cs with
  | (mark, false) :: rest =>
    if mark != ':' && mark != '=' then none
    else
      match takeUntil mark [] rest with
      | none => none
      | some (name, after) =>
        if mark == ':' then
          if name.isEmpty then some (.error "missing character class name '[::]'".toList)
          else if (classOf? (asText name)).isSome then
            some (.ok (.letterClass (asText name), after))
          else if isRepeatTail rest then none
          else some (.error ("invalid character class ".toList ++ quoted (printed name)))
        else
          match name with
          | [] => some (.error "missing equivalence class character '[==]'".toList)
          | [c] => some (.ok (.same c, after))
          | name =>
            if isRepeatTail rest then none
            else
              some (.error
                (printed name ++ ": equivalence class operand must be a single character".toList))
  | _ => none

/-- Reads the parts of a set. The last two characters are never more than that. `steps` bounds the
length. -/
def readParts : Nat → List SetChar → Except Octets (List SetPart)
  | 0, _ => .ok []
  | steps + 1, cs =>
    match cs with
    | [] => .ok []
    | [(c, _)] => .ok [.char c]
    | [(c, _), (d, _)] => .ok [.char c, .char d]
    | (c, e) :: rest =>
      let construct : Option (Except Octets (SetPart × List SetChar)) :=
        if c == '[' && !e then
          match readClassPart rest with
          | some r => some r
          | none => readRepeat rest
        else none
      match construct with
      | some (.error message) => .error message
      | some (.ok (part, after)) => do .ok (part :: (← readParts steps after))
      | none =>
        match rest with
        | ('-', false) :: (d, _) :: after =>
          if d < c then
            .error ("range-endpoints of '".toList ++ shown c ++ '-' :: shown d ++
              "' are in reverse collating sequence order".toList)
          else do .ok (.range c d :: (← readParts steps after))
        | rest => do .ok (.char c :: (← readParts steps rest))

/-- The parts of a set, and warnings. -/
def readSet (cs : Octets) : Except Octets (List SetPart) × List Octets :=
  let (chars, warnings) := resolveEscapes (cs.length + 1) cs
  (readParts (chars.length + 1) chars, warnings)

/-! ## Laying sets side by side -/

/-- All octets. -/
def allOctets : Octets := (List.range 256).map Char.ofNat

/-- The characters of a part. A repetition without a count has none. -/
def SetPart.chars : SetPart → Octets
  | .char c => [c]
  | .range first last =>
    (List.range (last.toNat + 1 - first.toNat)).map (fun k => Char.ofNat (first.toNat + k))
  | .letterClass name => allOctets.filter ((classOf? name).getD (fun _ => false))
  | .same c => [c]
  | .repeated c n => fill (n.getD 0) c

/-- A place of a set: a character, or a class of letters by their case. -/
inductive Cell where
  | char (c : Char)
  | letters (isUpper : Bool)
deriving DecidableEq, Repr

/-- The places of a part. -/
def cellsOf : SetPart → List Cell
  | .letterClass "upper" => [.letters true]
  | .letterClass "lower" => [.letters false]
  | part => (SetPart.chars part).map .char

/-- The characters of a class of letters. -/
def lettersOf (isUpper : Bool) : Octets :=
  SetPart.chars (.letterClass (if isUpper then "upper" else "lower"))

/-- Lays places side by side. A class of letters in the second set has to stand opposite one in the
first; elsewhere such a class counts as its letters. Gives the pairs, what is left of the first set
and what is left of the second. -/
def pairUp : Nat → List Cell → List Cell → Option (List (Cell × Cell) × List Cell × List Cell)
  | 0, _, _ => none
  | _ + 1, [], .letters _ :: _ => none
  | _ + 1, [], second => some ([], [], second)
  | _ + 1, first, [] => some ([], first, [])
  | steps + 1, .letters u :: first, .letters v :: second =>
    (pairUp steps first second).map (fun (ps, a, b) => ((.letters u, .letters v) :: ps, a, b))
  | _ + 1, .char _ :: _, .letters _ :: _ => none
  | steps + 1, .letters u :: first, .char d :: second =>
    pairUp steps ((lettersOf u).map .char ++ first) (.char d :: second)
  | steps + 1, .char c :: first, .char d :: second =>
    (pairUp steps first second).map (fun (ps, a, b) => ((.char c, .char d) :: ps, a, b))

/-- How many characters places stand for. -/
def cellCount (cells : List Cell) : Nat :=
  cells.foldl (fun n c => n + match c with
    | .char _ => 1
    | .letters _ => 26) 0

/-- The replacements that a pair of places makes. -/
def replacements : Cell × Cell → List (Char × Char)
  | (.char c, .char d) => [(c, d)]
  | (.letters true, .letters false) => (lettersOf true).map (fun c => (c, c.toLower))
  | (.letters false, .letters true) => (lettersOf false).map (fun c => (c, c.toUpper))
  | _ => []

/-- The character that fills up a set which is too short, given its last part. A class cannot. -/
def filler? : SetPart → Option Char
  | .char c => some c
  | .range _ last => some last
  | .letterClass _ => none
  | .same c => some c
  | .repeated c _ => some c

/-- Gives the repetition without a count what is missing to a length. -/
def fillRepeat (wanted : Nat) (parts : List SetPart) : List SetPart :=
  let length := (parts.map (fun p => (SetPart.chars p).length)).foldl (· + ·) 0
  if wanted < length then parts
  else
    parts.map fun
      | .repeated c none => .repeated c (some (wanted - length))
      | part => part

/-- Whether a part is a class. -/
def isClass : SetPart → Bool
  | .letterClass _ => true
  | _ => false

/-- The octets that are not in a set. -/
def others (set : Octets) : Octets := allOctets.filter (fun c => !set.contains c)

/-- The characters that are to be replaced, in order. -/
def domainOf (o : TrOptions) (first : List SetPart) : Octets :=
  let set := first.flatMap SetPart.chars
  if o.complement then others set else set

/-- The replacements that two sets ask for, later ones over earlier ones; refused where the sets do
not go together. -/
def plan (o : TrOptions) (first second : List SetPart) : Except Octets (List (Char × Char)) :=
  let domain := domainOf o first
  let isRestricted : SetPart → Bool
    | .letterClass name => name != "upper" && name != "lower"
    | _ => false
  let isSame : SetPart → Bool
    | .same _ => true
    | _ => false
  if second.any isSame then
    .error "[=c=] expressions may not appear in string2 when translating".toList
  else if second.any isRestricted then
    .error ("when translating, the only character classes that may appear in\n" ++
      "string2 are 'upper' and 'lower'").toList
  else
    let aligned := !o.complement && second.any isClass
    let cells (isFirst : Bool) (parts : List SetPart) : List Cell :=
      if aligned then parts.flatMap cellsOf
      else if isFirst then domain.map .char
      else (parts.flatMap SetPart.chars).map .char
    let a := cells true first
    let b := cells false second
    match pairUp (2 * (cellCount a + cellCount b) + 2) a b with
    | none => .error "misaligned [:upper:] and/or [:lower:] construct".toList
    | some (pairs, more, rest) =>
      let isShort := 0 < cellCount more
      let filled : Except Octets (List (Cell × Cell)) :=
        if !isShort || o.truncate then .ok pairs
        else
          match second.getLast? with
          | none => .error "when not truncating set1, string2 must be non-empty".toList
          | some last =>
            match filler? last with
            | none =>
              .error ("when translating with string1 longer than string2,\n" ++
                "the latter string must not end with a character class").toList
            | some c =>
              let letters : Cell → List Cell
                | .letters u => (lettersOf u).map .char
                | cell => [cell]
              .ok (pairs ++ (more.flatMap letters).map (fun cell => (cell, .char c)))
      match filled with
      | .error message => .error message
      | .ok pairs =>
        let targets := (pairs.map Prod.snd) ++ rest
        let isUniform := rest.isEmpty && (!isShort || !o.truncate) &&
          (targets.all (fun t => some t == targets.head?))
        if o.complement && first.any isClass && !isUniform then
          .error ("when translating with complemented character classes,\n" ++
            "string2 must map all characters in the domain to one").toList
        else .ok (pairs.flatMap replacements)

/-! ## Working on a text -/

/-- Drops repetitions of the characters of a set, onto `done` backwards. -/
def squeeze (isIn : Char → Bool) (done : Octets) : Octets → Octets
  | [] => done.reverse
  | c :: cs =>
    if done.head? == some c && isIn c then squeeze isIn done cs else squeeze isIn (c :: done) cs

/-- What a run of `tr` does to a text. -/
inductive Job where
  | refused (message : Octets)
  | work (f : Octets → Octets)

/-- For every octet, whether it is in a set. -/
def membership (complement : Bool) (parts : List SetPart) : Array Bool :=
  let set := parts.flatMap SetPart.chars
  let set := if complement then others set else set
  (allOctets.map set.contains).toArray

/-- What the sets of a run ask for. -/
def job (o : TrOptions) (first : List SetPart) (second : Option (List SetPart)) : Job :=
  let isOpen : SetPart → Bool
    | .repeated _ none => true
    | _ => false
  let isIn (set : Array Bool) (c : Char) : Bool := set.getD c.toNat false
  let firstSet := membership o.complement first
  if first.any isOpen then
    .refused "the [c*] repeat construct may not appear in string1".toList
  else
    match second with
    | none =>
      .work fun cs =>
        if o.delete then cs.filter (!isIn firstSet ·) else squeeze (isIn firstSet) [] cs
    | some second =>
      let secondSet := membership false second
      if 1 < second.countP isOpen then
        .refused "only one [c*] repeat construct may appear in string2".toList
      else if o.delete then
        if second.any isOpen then
          .refused "the [c*] construct may appear in string2 only when translating".toList
        else .work fun cs => squeeze (isIn secondSet) [] (cs.filter (!isIn firstSet ·))
      else
        let second := fillRepeat (domainOf o first).length second
        match plan o first second with
        | .error message => .refused message
        | .ok pairs =>
          let pairs := pairs.reverse
          let table := (allOctets.map (fun c => (pairs.lookup c).getD c)).toArray
          let secondSet := membership false second
          .work fun cs =>
            let out := cs.map (fun c => table.getD c.toNat c)
            if o.squeeze then squeeze (isIn secondSet) [] out else out

end Tr

end MailFormula.Shell
