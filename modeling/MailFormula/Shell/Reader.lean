import MailFormula.Shell.Source
/-!
# Reading scripts

A script is read one line at a time, or as many lines as a command needs (`readLine`). A line that
is refused ends the script, but the lines before it have run by then.

Everything is one recursion, since a word can hold commands and a command is made of words. `steps`
bounds the characters.
-/

namespace MailFormula.Shell

open MailFormula.Text

/-- What the characters of a word mean. -/
inductive Mode where
  /-- Blanks and marks end the word, quotes quote. -/
  | bare
  /-- Inside double quotes. -/
  | double
  /-- The text of a document. -/
  | document
  /-- Inside an arithmetic expression. -/
  | arithmetic
deriving DecidableEq, Repr

/-- Where in a word the reader stands. -/
structure Spot where
  mode : Mode
  /-- Inside the braces of a parameter. -/
  inBraces : Bool := false
  /-- Whether dollar signs and backquotes stand for themselves. -/
  isMark : Bool := false

/-- Whether what is put in at a spot is quoted. -/
def Spot.isQuoted (p : Spot) : Bool := p.mode != .bare

/-- A mark between words. -/
def isMeta (c : Char) : Bool := "<>();&| \t".toList.contains c

/-- A parameter with a name of one character that is no letter. -/
def isSpecial (c : Char) : Bool := "!#$*-?@".toList.contains c || isAsciiDigit c

/-- A character that stands for itself in a mode. -/
def isOrdinary (mode : Mode) (c : Char) : Bool :=
  !("\\$\"\x7d\n\x60".toList.contains c) &&
    match mode with
    | .bare => c != '\'' && !isMeta c
    | .arithmetic => c != '(' && c != ')'
    | _ => true

/-- Whether a backslash at a spot inside quotes takes away the meaning of a character. -/
def escapes (p : Spot) (c : Char) : Bool :=
  c == '\\' || c.toNat == 96 || c == '$' || (c == '"' && (p.mode != .document || p.inBraces)) ||
    (c == '\x7d' && p.inBraces)

/-- The text of a command in backquotes, after the first of them, and the rest after the last. A
backslash there takes away the meaning of few characters. Also gives how many lines were passed. -/
def takeBackquoted (isQuoted : Bool) (done : Octets) (lines : Nat) :
    Octets → Option (Octets × Nat × Octets)
  | [] => none
  | '\\' :: '\n' :: rest => takeBackquoted isQuoted done (lines + 1) rest
  | '\\' :: c :: rest =>
    if c == '\\' || c.toNat == 96 || c == '$' || (c == '"' && isQuoted) then
      takeBackquoted isQuoted (c :: done) lines rest
    else takeBackquoted isQuoted (c :: '\\' :: done) lines rest
  | c :: rest =>
    if c.toNat == 96 then some (done.reverse, lines, rest)
    else takeBackquoted isQuoted (c :: done) (if c == '\n' then lines + 1 else lines) rest

/-- Adds a text to the pieces of a word, which are kept backwards. -/
def addText (isQuoted : Bool) (cs : Octets) (done : List Piece) : List Piece :=
  .text isQuoted cs :: done

/-- The pieces of a word that are kept backwards, in order. Texts side by side of which both or none
are quoted become one. -/
def joinPieces (done : List Piece) : List Piece :=
  done.foldl
    (fun pieces piece =>
      match piece, pieces with
      | .text q cs, .text r ds :: rest =>
        if q == r then .text q (cs ++ ds) :: rest else piece :: pieces
      | _, _ => piece :: pieces)
    []

/-- The value of a pair: the name of an assignment and its word. -/
def assignment? (pieces : List Piece) : Option (Octets × List Piece) :=
  match pieces with
  | .text false cs :: rest =>
    let name := cs.takeWhile isNameChar
    match cs.drop name.length with
    | '=' :: value =>
      if isName name then
        some (name, if value.isEmpty then rest else .text false value :: rest)
      else none
    | _ => none
  | _ => none

/-- The text of a word that nothing has to be put into, without its quotes. -/
def plainText (pieces : List Piece) : Octets :=
  pieces.flatMap fun
    | .text _ cs => cs
    | _ => []

/-- The plain name that a word is, if it is one. -/
def nameOf? (pieces : List Piece) (isQuoted : Bool) : Option Octets :=
  match pieces with
  | [.text false cs] => if !isQuoted && isName cs then some cs else none
  | _ => none

/-- The forms that one character after the name of a parameter asks for. -/
def form? (emptyToo : Bool) (c : Char) : Option Form :=
  match c with
  | '-' => some (.orElse emptyToo)
  | '+' => some (.ifSet emptyToo)
  | '?' => some (.demand emptyToo)
  | '=' => some (.assign emptyToo)
  | _ => none

/-- Reads the mark of a redirection. -/
def readRedirect (stream : Option Nat) (isOutput : Bool) : Read Token := do
  skip 1
  if isOutput then
    let n := stream.getD 1
    match ← peek with
    | some '>' =>
      skip 1
      return .redirect n (.file .append)
    | some '|' =>
      skip 1
      return .redirect n (.file .write)
    | some '&' =>
      skip 1
      return .redirect n .copy
    | _ => return .redirect n (.file .write)
  else
    let n := stream.getD 0
    match ← peek with
    | some '<' =>
      skip 1
      return .redirect n (.document (← skipIf '-'))
    | some '&' =>
      skip 1
      return .redirect n .copy
    | some '>' =>
      skip 1
      return .redirect n (.file .readWrite)
    | _ => return .redirect n (.file .read)

mutual
/-- Reads the pieces of a word up to where the spot ends, onto `done` backwards. Inside an
arithmetic expression, `depth` parentheses are open. Inside braces within quotes, `toggled` says
whether quotes are open. -/
def readPieces (p : Spot) :
    Nat → Nat → Bool → List Piece → Read (List Piece)
  | 0, _, _, _ => refuse "too long"
  | steps + 1, depth, toggled, done => do
    let again (d : List Piece) : Read (List Piece) := readPieces p steps depth toggled d
    let literal (n : Nat) (cs : Octets) : Read (List Piece) := do
      skip n
      again (addText p.isQuoted cs done)
    match ← peek with
    | none => return joinPieces done
    | some c =>
      if isOrdinary p.mode c then
        let run ← takeRun (isOrdinary p.mode)
        again (addText p.isQuoted run done)
      else if c == '\n' then
        if p.mode == .bare && !p.inBraces then return joinPieces done
        else
          skipNewline
          again (addText p.isQuoted ['\n'] done)
      else if c == '\\' then
        match ((← get).rest.drop 1).head? with
        | none => literal 1 ['\\']
        | some e =>
          skip 2
          if p.isQuoted && !escapes p e then again (addText true ['\\', e] done)
          else again (addText true [e] done)
      else if c == '$' && !p.isMark then
        skip 1
        match ← readDollar p steps with
        | some piece => again (piece :: done)
        | none => again (addText p.isQuoted ['$'] done)
      else if c.toNat == 96 && !p.isMark then
        let s ← get
        match takeBackquoted p.isQuoted [] s.line (s.rest.drop 1) with
        | none =>
          set { s with rest := [], line := s.line + s.rest.count '\n' }
          refuse "EOF in backquote substitution"
        | some (script, line, rest) =>
          set { s with rest := script, line := 1, ahead := none, pending := [] }
          let body ← readList false true steps
          modify fun inner => { inner with rest, line, ahead := s.ahead, pending := s.pending }
          again (.output p.isQuoted body :: done)
      else if c == '\x7d' && p.inBraces && !toggled then return joinPieces done
      else
        match p.mode with
        | .bare =>
          if c == '\'' then
            skip 1
            let s ← get
            let quoted := s.rest.takeWhile (· ≠ '\'')
            let after := s.rest.drop quoted.length
            let line := s.line + quoted.count '\n'
            set { s with rest := after.drop 1, line }
            if after.isEmpty then refuse "Unterminated quoted string"
            else again (addText true quoted done)
          else if c == '"' then
            skip 1
            let inner ← readPieces { p with mode := .double, inBraces := false } steps 0 false []
            if !(← skipIf '"') then refuse "Unterminated quoted string"
            else again (inner.reverse ++ addText true [] done)
          else if isMeta c && !p.inBraces then return joinPieces done
          else literal 1 [c]
        | .double =>
          if c != '"' then literal 1 [c]
          else if p.inBraces then
            skip 1
            readPieces p steps depth (!toggled) done
          else return joinPieces done
        | .document => literal 1 [c]
        | .arithmetic =>
          if c == '(' then
            skip 1
            readPieces p steps (depth + 1) toggled (addText true ['('] done)
          else if c != ')' then literal 1 [c]
          else if 0 < depth then
            skip 1
            readPieces p steps (depth - 1) toggled (addText true [')'] done)
          else
            skip 1
            if ← skipIf ')' then
              modify fun s => { s with rest := ')' :: ')' :: s.rest }
              return joinPieces done
            else again (addText true [')'] done)

/-- Reads what follows a dollar sign; it may be nothing. -/
def readDollar (p : Spot) : Nat → Read (Option Piece)
  | 0 => refuse "too long"
  | steps + 1 => do
    match ← peek with
    | none => return none
    | some c =>
      if c == '(' then
        skip 1
        if ← skipIf '(' then
          let word ← readPieces { mode := .arithmetic } steps 0 false []
          if !(← skipIf ')') then refuse "Missing '))'"
          else
            skip 1
            return some (.arithmetic p.isQuoted word)
        else
          let s ← get
          set { s with ahead := none, pending := [] }
          let body ← readList false true steps
          let t ← readToken false false steps
          match t with
          | .closeParen =>
            modify fun inner => { inner with ahead := s.ahead, pending := s.pending }
            return some (.output p.isQuoted body)
          | t => expected t "\")\""
      else if c == '\x7b' then
        skip 1
        return some (← readBraces p steps)
      else if isNameStart c then
        let name ← takeKind isNameChar steps
        return some (.parameter p.isQuoted name .plain [])
      else if isSpecial c then
        skip 1
        return some (.parameter p.isQuoted [c] .plain [])
      else return none

/-- Reads a parameter after its opening brace: its name, and what becomes of it. -/
def readBraces (p : Spot) : Nat → Read Piece
  | 0 => refuse "too long"
  | steps + 1 => do
    let finish (name : Octets) (form : Form) (mode : Mode) : Read Piece := do
      let word ← readPieces { p with mode, inBraces := true } steps 0 false []
      if ← skipIf '\x7d' then return .parameter p.isQuoted name form word
      else if mode == .double && p.mode != .document then refuse "Unterminated quoted string"
      else refuse "Missing '\x7d'"
    let wordMode : Mode := if p.mode == .bare then .bare else .double
    let readForm (name : Octets) : Read Piece := do
      match ← peek with
      | some '\x7d' =>
        skip 1
        return .parameter p.isQuoted name .plain []
      | some ':' =>
        skip 1
        match (← peek).bind (form? true) with
        | some form =>
          skip 1
          finish name form wordMode
        | none => finish name .bad wordMode
      | some '#' =>
        skip 1
        let longest ← skipIf '#'
        finish name (.trim false longest) .bare
      | some '%' =>
        skip 1
        let longest ← skipIf '%'
        finish name (.trim true longest) .bare
      | c =>
        match c.bind (form? false) with
        | some form =>
          skip 1
          finish name form wordMode
        | none => finish name .bad wordMode
    let readLength (name : Octets) : Read Piece := do
      if ← skipIf '\x7d' then return .parameter p.isQuoted name .length []
      else finish name .bad wordMode
    match ← peek with
    | some '#' =>
      skip 1
      match ← peek with
      | some c =>
        if isNameStart c then readLength (← takeKind isNameChar steps)
        else if isAsciiDigit c then readLength (← takeKind isAsciiDigit steps)
        else if c == '\x7d' then readForm ['#']
        else
          skip 1
          if (← peek) == some '\x7d' then
            if isSpecial c then readLength [c] else finish [c] .bad wordMode
          else
            modify fun s => { s with rest := c :: s.rest }
            readForm ['#']
      | none => readForm ['#']
    | some c =>
      if isNameStart c then readForm (← takeKind isNameChar steps)
      else if isAsciiDigit c then readForm (← takeKind isAsciiDigit steps)
      else if isSpecial c then
        skip 1
        readForm [c]
      else finish [] .bad wordMode
    | none => finish [] .bad wordMode

/-- Reads a token; passes ends of lines before it and looks for keywords, if asked to. -/
def readToken (pastLines forKeywords : Bool) : Nat → Read Token
  | 0 => refuse "too long"
  | steps + 1 => do
    let s ← get
    let t ←
      match s.ahead with
      | some t => do
        set { s with ahead := none }
        pure t
      | none => readRaw false steps
    match t with
    | .newline =>
      if pastLines then
        readDocuments steps
        readToken pastLines forKeywords steps
      else return t
    | t => return if forKeywords then t.asKeyword else t

/-- Reads a token as it stands. -/
def readRaw (isMark : Bool) : Nat → Read Token
  | 0 => refuse "too long"
  | steps + 1 => do
    match ← peek with
    | none => return .finish
    | some ' ' =>
      skip 1
      readRaw isMark steps
    | some '\t' =>
      skip 1
      readRaw isMark steps
    | some '#' =>
      let _ ← takeRun (· ≠ '\n')
      readRaw isMark steps
    | some '\n' =>
      skipNewline
      return .newline
    | some '&' =>
      skip 1
      return if ← skipIf '&' then .both else .ampersand
    | some '|' =>
      skip 1
      return if ← skipIf '|' then .either else .pipe
    | some ';' =>
      skip 1
      return if ← skipIf ';' then .endCase else .semicolon
    | some '(' =>
      skip 1
      return .openParen
    | some ')' =>
      skip 1
      return .closeParen
    | some _ =>
      let pieces ← readPieces { mode := .bare, isMark } steps 0 false []
      let isQuoted := pieces.any fun
        | .text q _ => q
        | _ => false
      let stream? : Option (Option Nat) := match pieces with
        | [] => some none
        | [.text false [d]] => if isAsciiDigit d then some (some (digitValue d)) else none
        | _ => none
      match stream?, (← peek) with
      | some stream, some '<' => readRedirect stream false
      | some stream, some '>' => readRedirect stream true
      | _, _ => return .word pieces isQuoted

/-- Reads the documents that start here. -/
def readDocuments : Nat → Read Unit
  | 0 => refuse "too long"
  | steps + 1 => do
    let s ← get
    match s.pending with
    | [] => return
    | d :: pending =>
      let (text, lines, rest) := takeDocument d false (s.rest.length + 1) s.rest
      let pieces ←
        if d.isLiteral then pure [.text true text]
        else do
          set { s with rest := text, ahead := none, pending := [] }
          readPieces { mode := .document } steps 0 false []
      modify fun inner =>
        { inner with
          rest, pending, line := s.line + lines, ahead := s.ahead
          documents := (d.id, pieces) :: inner.documents }
      readDocuments steps

/-- Reads the target of a redirection. -/
def readTarget (stream : Nat) (kind : RedirectKind) : Nat → Read Redirect
  | 0 => refuse "too long"
  | steps + 1 => do
    let t ←
      match kind with
      | .document _ => readRaw true steps
      | _ => readToken false false steps
    match t, kind with
    | .word pieces _, .file mode => return .file stream mode pieces
    | .word pieces _, .copy => return .copy stream pieces
    | .word pieces isQuoted, .document stripTabs =>
      let s ← get
      let d : PendingDocument :=
        { id := s.count, mark := plainText pieces, isLiteral := isQuoted, stripTabs }
      set { s with count := s.count + 1, pending := s.pending ++ [d] }
      return .document stream d.id
    | t, _ => unexpected t

/-- Reads the redirections after a command. -/
def readRedirects : Nat → Read (List Redirect)
  | 0 => refuse "too long"
  | steps + 1 => do
    let t ← readToken false true steps
    match t with
    | .redirect stream kind =>
      let first ← readTarget stream kind steps
      return first :: (← readRedirects steps)
    | t =>
      putBack t
      return []

/-- Reads a command of words, assignments and redirections, onto what has been read of it, last
first. -/
def readSimple (line : Nat) : Nat → List (Octets × List Piece) → List (List Piece) →
    List Redirect → Read Command
  | 0, _, _, _ => refuse "too long"
  | steps + 1, assignments, words, redirects => do
    let t ← readToken false false steps
    match t with
    | .word pieces _ =>
      match (if words.isEmpty then assignment? pieces else none) with
      | some a => readSimple line steps (a :: assignments) words redirects
      | none =>
        readSimple line steps assignments (pieces :: words) redirects
    | .redirect stream kind =>
      let r ← readTarget stream kind steps
      readSimple line steps assignments words (r :: redirects)
    | t =>
      let finished : Command :=
        .simple line assignments.reverse words.reverse redirects.reverse
      match t, words, assignments, redirects with
      -- A single name before an opening parenthesis is the name of a function.
      | .openParen, [word], [], [] =>
        let t ← readToken false false steps
        match t with
        | .closeParen =>
          match nameOf? word false with
          | some name =>
            if name == "exit".toList || name == [':'] then refuse "Bad function name"
            else return .define name (← readCommand true true steps)
          | none => refuse "Bad function name"
        | t => expected t "\")\""
      | t, _, _, _ =>
        putBack t
        return finished

/-- Reads a keyword that has to come. -/
def readKeyword (w : String) : Nat → Read Unit
  | 0 => refuse "too long"
  | steps + 1 => do
    let t ← readToken false false steps
    if t.isKeyword w then return else expected t (Token.keyword w).name

/-- Reads a list of commands as one command. -/
def readBody (allowEmpty : Bool) : Nat → Read Command
  | 0 => refuse "too long"
  | steps + 1 => return .sequence (← readList false allowEmpty steps)

/-- Reads what follows the condition of a branch. -/
def readBranch : Nat → Read Command
  | 0 => refuse "too long"
  | steps + 1 => do
    let condition ← readBody false steps
    readKeyword "then" steps
    let yes ← readBody false steps
    let t ← readToken false false steps
    if t.isKeyword "elif" then return .branch condition yes (some (← readBranch steps))
    else if t.isKeyword "else" then return .branch condition yes (some (← readBody false steps))
    else
      putBack t
      return .branch condition yes none

/-- Reads the words of a loop over words, last first, up to the end of the line. -/
def readWords : Nat → List (List Piece) → Read (List (List Piece))
  | 0, _ => refuse "too long"
  | steps + 1, done => do
    let t ← readToken false false steps
    match t with
    | .word pieces _ => readWords steps (pieces :: done)
    | .newline | .semicolon => return done.reverse
    | t => unexpected t

/-- Reads the patterns of a case, the first of which is a token read before. A token that is no word
counts as an empty one. -/
def readPatterns (t : Token) : Nat → Read (List (List Piece))
  | 0 => refuse "too long"
  | steps + 1 => do
    let word := match t with
      | .word pieces _ => pieces
      | .keyword w => [Piece.text false w.toList]
      | _ => []
    let t ← readToken false false steps
    match t with
    | .pipe => return word :: (← readPatterns (← readToken false false steps) steps)
    | .closeParen => return [word]
    | t => expected t "\")\""

/-- Reads the cases of a choice up to its end. -/
def readCases : Nat → Read (List (List (List Piece) × Command))
  | 0 => refuse "too long"
  | steps + 1 => do
    let t ← readToken true true steps
    if t.isKeyword "esac" then return []
    else
      let t ← match t with
        | .openParen => readToken false false steps
        | t => pure t
      let patterns ← readPatterns t steps
      let body ← readBody true steps
      let t ← readToken true true steps
      match t with
      | .endCase => return (patterns, body) :: (← readCases steps)
      | t =>
        if t.isKeyword "esac" then return [(patterns, body)] else expected t "\";;\""

/-- Reads a command. -/
def readCommand (pastLines forKeywords : Bool) : Nat → Read Command
  | 0 => refuse "too long"
  | steps + 1 => do
    let line := (← get).line
    let t ← readToken pastLines forKeywords steps
    let closed (w : String) (c : Command) : Read Command := do
      readKeyword w steps
      return .group line c (← readRedirects steps)
    match t with
    | .openParen =>
      let body ← readBody false steps
      let t ← readToken false false steps
      match t with
      | .closeParen => return .subshell line body (← readRedirects steps)
      | t => expected t "\")\""
    | .keyword "\x7b" =>
      let body ← readBody false steps
      closed "\x7d" body
    | .keyword "if" =>
      let c ← readBranch steps
      closed "fi" c
    | .keyword "while" =>
      let condition ← readBody false steps
      readKeyword "do" steps
      let body ← readBody false steps
      closed "done" (.loop false condition body)
    | .keyword "until" =>
      let condition ← readBody false steps
      readKeyword "do" steps
      let body ← readBody false steps
      closed "done" (.loop true condition body)
    | .keyword "for" =>
      let t ← readToken false false steps
      let name? := match t with
        | .word pieces isQuoted => nameOf? pieces isQuoted
        | _ => none
      match name? with
      | none => refuse "Bad for loop variable"
      | some name =>
        let t ← readToken true true steps
        let words ←
          if t.isKeyword "in" then readWords steps []
          else do
            match t with
            | .semicolon => pure ()
            | t => putBack t
            pure [[Piece.parameter true ['@'] .plain []]]
        let t ← readToken true true steps
        if !t.isKeyword "do" then expected t "\"do\""
        else
          let body ← readBody false steps
          closed "done" (.each line name words body)
    | .keyword "case" =>
      let t ← readToken false false steps
      match t with
      | .word pieces _ =>
        let t ← readToken true true steps
        if !t.isKeyword "in" then expected t "\"in\""
        else
          let cases ← readCases steps
          return .group line (.choose line pieces cases) (← readRedirects steps)
      | t => expected t "word"
    | .word pieces isQuoted =>
      putBack (.word pieces isQuoted)
      readSimple (← get).line steps [] [] []
    | .redirect stream kind =>
      putBack (.redirect stream kind)
      readSimple (← get).line steps [] [] []
    | t => unexpected t

/-- Reads the commands after a pipe. -/
def readPipes : Nat → Read (List Command)
  | 0 => refuse "too long"
  | steps + 1 => do
    let t ← readToken false false steps
    match t with
    | .pipe =>
      let c ← readCommand true true steps
      return c :: (← readPipes steps)
    | t =>
      putBack t
      return []

/-- Reads commands joined by pipes. -/
def readPipeline (pastLines forKeywords : Bool) : Nat → Read Command
  | 0 => refuse "too long"
  | steps + 1 => do
    let t ← readToken pastLines forKeywords steps
    let isNegated := t.isKeyword "!"
    if !isNegated then putBack t
    let first ← readCommand false isNegated steps
    let more ← readPipes steps
    let c := if more.isEmpty then first else .pipeline (first :: more)
    return if isNegated then .negation c else c

/-- Reads pipelines joined by what decides whether they run, after the first of them. -/
def readJoined (first : Command) : Nat → Read Command
  | 0 => refuse "too long"
  | steps + 1 => do
    let t ← readToken false false steps
    match t with
    | .both => readJoined (.both first (← readPipeline true true steps)) steps
    | .either => readJoined (.either first (← readPipeline true true steps)) steps
    | t =>
      putBack t
      return first

/-- Reads a list of commands. One at the outermost level ends with its line; any other ends before a
token that closes it, and may be empty only where that is allowed. -/
def readList (isOutermost allowEmpty : Bool) : Nat → Read (List Command)
  | 0 => refuse "too long"
  | steps + 1 => do
    let t ← readToken (!isOutermost) true steps
    match t with
    | .newline =>
      readDocuments steps
      return []
    | .finish =>
      readDocuments steps
      putBack .finish
      return []
    | t =>
      putBack t
      if allowEmpty && t.endsList then return []
      else
        let first ← readPipeline false false steps
        let c ← readJoined first steps
        let t ← readToken false false steps
        let c := match t with
          | .ampersand => Command.background c
          | _ => c
        match t with
        | .ampersand | .semicolon => return c :: (← readList isOutermost (!isOutermost) steps)
        | .newline =>
          putBack .newline
          return c :: (← readList isOutermost (!isOutermost) steps)
        | .finish =>
          readDocuments steps
          putBack .finish
          return [c]
        | t =>
          if isOutermost then unexpected t
          else
            putBack t
            return [c]
end

/-- Reads the commands of a line, and of the lines they go on over. -/
def readLine (steps : Nat) : Read (List Command) := readList true false steps

/-- Steps enough to read a script of so many characters. -/
def readingSteps (length : Nat) : Nat := 16 * length + 64

/-- Whether a script has been read to its end. -/
def Source.isOver (s : Source) : Bool :=
  match s.ahead with
  | some .finish => true
  | _ => s.rest.isEmpty

end MailFormula.Shell
