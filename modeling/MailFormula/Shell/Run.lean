import MailFormula.Shell.Arithmetic
import MailFormula.Shell.Field
import MailFormula.Shell.Tool.Programs
/-!
# Running scripts

Putting values, outputs and numbers into words, and running commands. Both are one recursion, since
a word can hold commands. `steps` bounds how deep commands are nested and how often loops run.
-/

namespace MailFormula.Shell

open MailFormula.Text

/-- The separators that words are cut at, if no others are set. -/
def blankSeparators : Octets := [' ', '\t', '\n']

/-- The variables that a shell starts with. -/
def firstVariables : List (Octets × Octets) :=
  [("IFS".toList, blankSeparators), ("OPTIND".toList, ['1']), ("PS2".toList, "> ".toList),
    ("PS4".toList, "+ ".toList)]

/-- The separators that words are cut at. -/
def Machine.separators (m : Machine) : Octets := (m.valueOf? "IFS".toList).getD blankSeparators

/-- The value of a parameter with one value. -/
def Machine.parameter? (m : Machine) (name : Octets) : Option Octets :=
  match name with
  | ['?'] => some (decimalText m.status)
  | ['#'] => some (decimalText m.arguments.length)
  | ['0'] => some "sh".toList
  | ['-'] => some []
  | ['$'] => some ['1']
  | ['!'] => none
  | ['@'] | ['*'] => some (List.intercalate m.separators.head?.toList m.arguments)
  | name =>
    if name.all isAsciiDigit then
      if decimalValue name == 0 then some "sh".toList else m.arguments[decimalValue name - 1]?
    else m.valueOf? name

/-- All arguments in a word. -/
def Machine.argumentItems (m : Machine) (isQuoted isApart : Bool) : List Item :=
  let separator := m.separators.head?.toList
  let item (arg : Octets) : List Item :=
    if isQuoted then .mark :: itemsOf .quoted arg else itemsOf .inserted arg
  if isQuoted && !isApart then
    .mark :: itemsOf .quoted (List.intercalate separator m.arguments)
  else List.intercalate [.gap] (m.arguments.map item)

/-- Whether a word is nothing but all arguments in quotes, and there are none. -/
def Machine.isNoArgument (m : Machine) (pieces : List Piece) : Bool :=
  m.arguments.isEmpty &&
    pieces.any (fun
      | .parameter true ['@'] _ _ => true
      | _ => false) &&
    pieces.all (fun
      | .parameter true ['@'] .plain _ => true
      | .text true [] => true
      | _ => false)

/-- An output without the ends of lines at its end, and without zeros. -/
def trimOutput (cs : Octets) : Octets :=
  ((cs.filter (· ≠ '\x00')).reverse.dropWhile (· = '\n')).reverse

/-- Opens the file of a redirection. -/
def openRedirect (stream : Nat) (mode : OpenMode) (name : Octets) : Run Bool := do
  let m ← get
  let path := decodeLossy (toBytes name)
  let refuse (verb : String) (fault : FileFault) : Run Bool := do
    let reason := match fault with
      | .notFound | .notDirectory =>
        if mode == .read then "No such file" else "Directory nonexistent"
      | fault => fault.reason
    tell (("cannot " ++ verb ++ " ").toList ++ name ++ (": " ++ reason).toList)
    return false
  if path == "/dev/null" then
    set (m.openStream stream .void)
    return true
  else if mode == .read then
    match m.files.locate path with
    | .error fault => refuse "open" fault
    | .ok place =>
      match m.files.node place with
      | .missing => refuse "open" .notFound
      | .directory =>
        set (m.openStream stream .directory)
        return true
      | .file _ =>
        set (m.openStream stream (.file place 0 .read))
        return true
  else
    match m.files.locateToWrite path with
    | .error fault => refuse "create" fault
    | .ok place =>
      match m.files.node place with
      | .directory => refuse "create" .isDirectory
      | node =>
        let files :=
          if mode == .write || node == .missing then m.files.put place (.text "") else m.files
        set { m.openStream stream (.file place 0 mode) with files }
        return true

/-- Leads a stream to where another one goes, or closes it. -/
def copyStream (stream : Nat) (source : Octets) : Run Bool := do
  let m ← get
  match source with
  | ['-'] =>
    set (m.closeStream stream)
    return true
  | [d] =>
    if !isAsciiDigit d then fail "Syntax error: Bad fd number".toList
    else
      match m.slots.lookup (digitValue d) with
      | some i =>
        set { m with slots := (stream, i) :: m.slots.filter (fun e => e.1 ≠ stream) }
        return true
      | none =>
        tell (d :: ": Bad file descriptor".toList)
        return false
  | _ => fail "Syntax error: Bad fd number".toList

/-- Runs something, after which the numbers of streams lead to where they did before. -/
def keepingStreams {α : Type} (body : Run α) : Run α := do
  let slots := (← get).slots
  let restore : Run Unit := modify fun m => { m with slots }
  try
    let a ← body
    restore
    return a
  catch halt =>
    restore
    throw halt

/-- Sets the status. -/
def setStatus (n : Nat) : Run Unit := modify fun m => { m with status := n }

mutual
/-- Puts everything into the pieces of a word. A text without quotes counts as put in, if it stands
inside something that is. -/
def expand (isInside : Bool) : Nat → List Piece → Run (List Item)
  | 0, _ => throw .exhausted
  | _ + 1, [] => return []
  | steps + 1, piece :: rest => do
    let items ← expandPiece isInside steps piece
    return items ++ (← expand isInside steps rest)

/-- Puts in what a piece of a word stands for. -/
def expandPiece (isInside : Bool) : Nat → Piece → Run (List Item)
  | 0, _ => throw .exhausted
  | steps + 1, piece => do
    let origin (isQuoted : Bool) : Origin := if isQuoted then .quoted else .inserted
    match piece with
    | .text true cs => return .mark :: itemsOf .quoted cs
    | .text false cs => return itemsOf (if isInside then .inserted else .literal) cs
    | .output isQuoted body =>
      let status := (← get).status
      let text ← gather (runList steps body)
      modify fun m => { m with outputStatus := m.status, status }
      return itemsOf (origin isQuoted) (trimOutput text)
    | .arithmetic isQuoted word =>
      let text := textOf (← expand false steps word)
      let m ← get
      match evaluateArithmetic m.bindings text with
      | .ok (n, bindings) =>
        set { m with bindings }
        return itemsOf (origin isQuoted) (integerText n)
      | .error (.expression message) =>
        fail (("arithmetic expression: " ++ message ++ ": \"").toList ++ text ++ ['"'])
      | .error (.illegalNumber value) => fail ("Illegal number: ".toList ++ value)
    | .parameter isQuoted name form word =>
      let m ← get
      let value? := m.parameter? name
      let present (emptyToo : Bool) : Bool := value?.any (fun v => !emptyToo || !v.isEmpty)
      let value : List Item :=
        if name == ['@'] then m.argumentItems isQuoted true
        else if name == ['*'] then m.argumentItems isQuoted false
        else itemsOf (origin isQuoted) (value?.getD [])
      let inner : Run (List Item) := expand (!isQuoted) steps word
      match form with
      | .plain => return value
      | .length => return itemsOf (origin isQuoted) (decimalText (value?.getD []).length)
      | .orElse emptyToo => if present emptyToo then return value else inner
      | .ifSet emptyToo => if present emptyToo then inner else return []
      | .demand emptyToo =>
        if present emptyToo then return value
        else
          let message := textOf (← inner)
          let message :=
            if !word.isEmpty then message
            else if emptyToo then "parameter not set or null".toList
            else "parameter not set".toList
          fail (name ++ ": ".toList ++ message)
      | .assign emptyToo =>
        if present emptyToo then return value
        else
          let text := textOf (← inner)
          if !isName name then fail (name ++ ": bad variable name".toList)
          modify fun m => m.assign name text
          return itemsOf (origin isQuoted) text
      | .trim atEnd longest =>
        match value? with
        | none => return []
        | some text =>
          let pattern := patternOf (patternChars (← expand false steps word))
          return itemsOf (origin isQuoted) (trimBy pattern atEnd longest text)
      | .bad => fail "Bad substitution".toList

/-- The arguments that words stand for. -/
def expandWords : Nat → List (List Piece) → Run (List Octets)
  | 0, _ => throw .exhausted
  | _ + 1, [] => return []
  | steps + 1, word :: words => do
    let items ← expand false steps word
    let m ← get
    let fields := if m.isNoArgument word then [] else fieldsOf m.separators items
    let args := fields.flatMap (argumentsOf m.files)
    return args ++ (← expandWords steps words)

/-- Opens the streams of redirections; says whether that could be done. -/
def redirect : Nat → List Redirect → Run Bool
  | 0, _ => throw .exhausted
  | _ + 1, [] => return true
  | steps + 1, r :: rest => do
    let isDone ←
      match r with
      | .file stream mode name => do
        openRedirect stream mode (textOf (← expand false steps name))
      | .copy stream source => do copyStream stream (textOf (← expand false steps source))
      | .document stream id => do
        let text := textOf (← expand false steps (((← get).documents.lookup id).getD []))
        modify fun m => m.openStream stream (.source text)
        pure true
    if isDone then redirect steps rest else return false

/-- Makes assignments. -/
def assignAll : Nat → List (Octets × List Piece) → Run Unit
  | 0, _ => throw .exhausted
  | _ + 1, [] => return
  | steps + 1, (name, word) :: rest => do
    let value := textOf (← expand false steps word)
    modify fun m => m.assign name value
    assignAll steps rest

/-- Runs a command by its name with its arguments, its streams being open. -/
def runNamed : Nat → Octets → List Octets → Run Unit
  | 0, _, _ => throw .exhausted
  | steps + 1, name, args => do
    let m ← get
    match m.functions.lookup name with
    | some body =>
      set { m with arguments := args }
      runCommand steps body
      modify fun after => { after with arguments := m.arguments }
    | none =>
      if isTool name && areTooLong (name :: args) then
        tell (name ++ ": Argument list too long".toList)
        setStatus 126
      else
        match ← runProgram name args with
        | some status => setStatus status
        | none =>
          let path := decodeLossy (toBytes name)
          let isThere := name.contains '/' &&
            match m.files.locate path with
            | .ok place => m.files.node place != .missing
            | .error _ => false
          -- An empty name and two dots are those of directories.
          if isThere || name.isEmpty || name == ['.', '.'] then
            tell (name ++ ": Permission denied".toList)
            setStatus 126
          else
            tell (name ++ ": not found".toList)
            setStatus 127

/-- Runs a command. -/
def runCommand : Nat → Command → Run Unit
  | 0, _ => throw .exhausted
  | steps + 1, c => do
    match c with
    | .simple line assignments words redirects =>
      modify fun m => { m with line, outputStatus := 0 }
      let args ← expandWords steps words
      match args with
      | [] =>
        let isDone ← keepingStreams do
          let isDone ← redirect steps redirects
          if isDone then assignAll steps assignments
          pure isDone
        modify fun m => { m with status := if isDone then m.outputStatus else 2 }
      | name :: args =>
        let isSpecial := isSpecialBuiltin name
        let isDone ← keepingStreams do
          let isDone ← redirect steps redirects
          if isDone then
            let bindings := (← get).bindings
            assignAll steps assignments
            runNamed steps name args
            if !isSpecial && !assignments.isEmpty then
              modify fun m => { m with bindings }
          pure isDone
        if !isDone then
          setStatus 2
          if isSpecial then throw (.exit 2)
    | .pipeline commands => runPipes steps commands
    | .negation body =>
      runCommand steps body
      modify fun m => { m with status := if m.status == 0 then 1 else 0 }
    | .both first second =>
      runCommand steps first
      if (← get).status == 0 then runCommand steps second
    | .either first second =>
      runCommand steps first
      if (← get).status != 0 then runCommand steps second
    | .sequence commands => runList steps commands
    | .background body =>
      apart do
        modify fun m => m.openStream 0 .void
        runCommand steps body
      setStatus 0
    | .subshell line body redirects =>
      modify fun m => { m with line }
      apart do
        if ← redirect steps redirects then runCommand steps body else setStatus 2
    | .group line body redirects =>
      if redirects.isEmpty then runCommand steps body
      else
        modify fun m => { m with line }
        keepingStreams do
          if ← redirect steps redirects then runCommand steps body else setStatus 2
    | .branch condition yes no =>
      runCommand steps condition
      if (← get).status == 0 then runCommand steps yes
      else
        match no with
        | some no => runCommand steps no
        | none => setStatus 0
    | .loop isUntil condition body => runLoop isUntil condition body 0 steps
    | .each line name words body =>
      modify fun m => { m with line }
      let args ← expandWords steps words
      if args.isEmpty then setStatus 0 else runEach name body steps args
    | .choose line word cases =>
      modify fun m => { m with line }
      let text := textOf (← expand false steps word)
      runCases text steps cases
    | .define name body =>
      modify fun m => { m with functions := (name, body) :: m.functions }
      setStatus 0

/-- Runs commands one after another. -/
def runList : Nat → List Command → Run Unit
  | 0, _ => throw .exhausted
  | _ + 1, [] => return
  | steps + 1, c :: cs => do
    runCommand steps c
    runList steps cs

/-- Runs commands each on the output of the one before, each in a shell of its own. -/
def runPipes : Nat → List Command → Run Unit
  | 0, _ => throw .exhausted
  | _ + 1, [] => return
  | steps + 1, [c] => apart (runCommand steps c)
  | steps + 1, c :: cs => do
    let before ← get
    let text ← gather (runCommand steps c)
    modify fun m => { m.openStream 0 (.source text) with status := before.status }
    runPipes steps cs
    modify fun m => { m with slots := before.slots }

/-- Runs a loop. Its status is that of its body. -/
def runLoop (isUntil : Bool) (condition body : Command) (status : Nat) : Nat → Run Unit
  | 0 => throw .exhausted
  | steps + 1 => do
    runCommand steps condition
    if ((← get).status == 0) == isUntil then setStatus status
    else
      runCommand steps body
      runLoop isUntil condition body (← get).status steps

/-- Runs a loop over arguments. -/
def runEach (name : Octets) (body : Command) : Nat → List Octets → Run Unit
  | 0, _ => throw .exhausted
  | _ + 1, [] => return
  | steps + 1, arg :: args => do
    modify fun m => m.assign name arg
    runCommand steps body
    runEach name body steps args

/-- Runs the first case of which a pattern matches. -/
def runCases (text : Octets) : Nat → List (List (List Piece) × Command) → Run Unit
  | 0, _ => throw .exhausted
  | _ + 1, [] => setStatus 0
  | steps + 1, (patterns, body) :: rest => do
    if ← anyMatches text steps patterns then
      match body with
      | .sequence [] => setStatus 0
      | body => runCommand steps body
    else runCases text steps rest

/-- Whether some pattern matches a text. -/
def anyMatches (text : Octets) : Nat → List (List Piece) → Run Bool
  | 0, _ => throw .exhausted
  | _ + 1, [] => return false
  | steps + 1, word :: rest => do
    let pattern := patternOf (patternChars (← expand false steps word))
    if matchesAll pattern text then return true else anyMatches text steps rest
end

/-- Runs the lines of a script, each once it is read, with so many steps to read a line and to run
it. A line that is refused ends the script. -/
def runLines (reading steps : Nat) : Nat → Source → Run Unit
  | 0, _ => return
  | lines + 1, source => do
    if source.isOver then return
    else
      match (readLine reading).run source with
      | .error refusal =>
        modify fun m => { m with line := refusal.line }
        fail refusal.message.toList
      | .ok (commands, source) =>
        modify fun m => { m with documents := source.documents }
        runList steps commands
        runLines reading steps lines source

end MailFormula.Shell
