import MailFormula.Shell.Machine
import MailFormula.Shell.Printf
import MailFormula.Shell.Tool.Cat
import MailFormula.Shell.Tool.Tr
import MailFormula.Shell.Tool.Wc
/-!
# Programs

The tools as programs: they read and write the streams and files of a shell, tell of faults, and end
with a status.
-/

namespace MailFormula.Shell

open MailFormula.Text

/-- The file that a program names, open for reading. -/
def openInput (name : Octets) : Run (Except FileFault Stream) := do
  let files := (← get).files
  let path := decodeLossy (toBytes name)
  if path == "/dev/null" then return .ok .void
  else
    match files.locate path with
    | .error fault => return .error fault
    | .ok place =>
      match files.node place with
      | .file _ => return .ok (.file place 0 .read)
      | .directory => return .ok .directory
      | .missing => return .error .notFound

/-- A fault of a tool in a line. -/
def toolFault (tool : String) (subject : Octets) (reason : String) : Octets :=
  (tool ++ ": ").toList ++ subject ++ (": " ++ reason ++ "\n").toList

/-- Writes the output of a tool; gives the status that it ends with. -/
def putTool (tool : String) (cs : Octets) (status : Nat) : Run Nat := do
  if cs.isEmpty then return status
  else if ← write 1 cs then return status
  else
    complain (toolFault tool "write error".toList ReadFault.isClosed.text)
    return 1

/-- Whether what is read now would be written into the file it comes from. -/
def feedsItself (input : Stream) : Run Bool := do
  let m ← get
  match input, m.stream? 1 with
  | .file place offset _, some (.file target _ _) =>
    return place == target && offset < (m.contentAt place).length
  | _, _ => return false

/-- What is left in an open file. -/
def restOf (input : Stream) : Run (Except ReadFault Octets) := do
  match input with
  | .source rest => return .ok rest
  | .file place offset mode =>
    if mode == .write || mode == .append then return .error .isClosed
    else return .ok (((← get).contentAt place).drop offset)
  | .directory => return .error .isDirectory
  | .void => return .ok []
  | .sink _ => return .error .isClosed

/-- Copies files to the output, as its options ask. -/
def catFiles (o : CatOptions) (isPlain : Bool) : Cat.State → Nat → List Octets → Run Nat
  | _, status, [] => return status
  | s, status, name :: names => do
    let opened ←
      if name == ['-'] then pure (.ok ((← get).stream? 0))
      else do pure ((← openInput name).map some)
    match opened with
    | .error fault =>
      complain (toolFault "cat" (quotedName name) fault.reason)
      catFiles o isPlain s 1 names
    | .ok none =>
      complain (toolFault "cat" ['-'] ReadFault.isClosed.text)
      catFiles o isPlain s 1 names
    | .ok (some input) =>
      if ← feedsItself input then
        complain (toolFault "cat" (quotedName name) "input file is output file")
        catFiles o isPlain s 1 names
      else
        let text ← if name == ['-'] then readAll 0 else restOf input
        match text with
        | .error fault =>
          complain (toolFault "cat" (quotedName name) fault.text)
          catFiles o isPlain s 1 names
        | .ok text =>
          let (shown, s) :=
            if isPlain then (text, s)
            else
              let (back, s) := Cat.render o s [] text
              (back.reverse, s)
          let written ← putTool "cat" shown 0
          -- A tool that cannot write goes no further.
          if written != 0 then return written else catFiles o isPlain s status names

/-- Copies files, or the input. -/
def runCat (args : List Octets) : Run Nat := do
  match Cat.table.read {} args with
  | .error message =>
    complain (Cat.table.refusal message)
    return 1
  | .ok a =>
    let o := Cat.optionsOf a
    let isPlain :=
      !(o.number || o.numberFilled || o.squeeze || o.showEnds || o.showTabs || o.showOdd)
    let names := if a.operands.isEmpty then [['-']] else a.operands
    if ((← get).stream? 1).isNone then
      complain (toolFault "cat" "standard output".toList ReadFault.isClosed.text)
      return 1
    let status ← catFiles o isPlain {} 0 names
    if names.contains ['-'] && ((← get).stream? 0).isNone then
      complain (toolFault "cat" "closing standard input".toList ReadFault.isClosed.text)
      return 1
    else return status

/-- Tells of a fault of `tr`. -/
def tellTr (message : Octets) : Run Unit := complain ("tr: ".toList ++ message ++ ['\n'])

/-- Reads a set of `tr`, and tells what is to be said about it. -/
def readTrSet (cs : Octets) : Run (Option (List SetPart)) := do
  let (result, warnings) := Tr.readSet cs
  for w in warnings do
    tellTr w
  match result with
  | .ok parts => return some parts
  | .error message =>
    tellTr message
    return none

/-- Replaces, deletes or squeezes characters of the input. -/
def runTr (args : List Octets) : Run Nat := do
  match Tr.table.read {} args with
  | .error message =>
    complain (Tr.table.refusal message)
    return 1
  | .ok a =>
    let o := Tr.optionsOf a
    let least := if o.delete == o.squeeze then 2 else 1
    let most := if o.delete && !o.squeeze then 1 else 2
    let hint := "\nTry 'tr --help' for more information.".toList
    match a.operands with
    | [] =>
      tellTr ("missing operand".toList ++ hint)
      return 1
    | first :: rest =>
      if a.operands.length < least then
        let why :=
          if o.squeeze then
            "Two strings must be given when both deleting and squeezing repeats."
          else "Two strings must be given when translating."
        tellTr ("missing operand after ".toList ++ quoted first ++ '\n' :: why.toList ++ hint)
        return 1
      else if most < a.operands.length then
        let why :=
          if a.operands.length == 2 then
            "\nOnly one string may be given when deleting without squeezing repeats."
          else ""
        tellTr ("extra operand ".toList ++ quoted (a.operands.getD most []) ++ why.toList ++ hint)
        return 1
      else
        match ← readTrSet first with
        | none => return 1
        | some first =>
          let second? ←
            match rest with
            | [] => pure (some none)
            | second :: _ => do pure ((← readTrSet second).map some)
          match second? with
          | none => return 1
          | some second =>
            match Tr.job o first second with
            | .refused message =>
              tellTr message
              return 1
            | .work f =>
              match ← readAll 0 with
              | .error fault =>
                tellTr ("read error: ".toList ++ fault.text.toList)
                return 1
              | .ok text =>
                putTool "tr" (f text) 0

/-- An input of `wc`: its name, the stream if it can be opened, and its size if that is known. -/
structure WcInput where
  name : Option Octets
  stream : Except FileFault Stream
  size : Option (Option Nat)

/-- The inputs that the operands of `wc` name. -/
def wcInputs (operands : List Octets) : Run (List WcInput) := do
  let m ← get
  let sizeOf (s : Stream) : Option Nat := match s with
    | .file place _ _ => some (m.contentAt place).length
    | _ => none
  let input (name : Option Octets) : WcInput :=
    match m.stream? 0 with
    | some s => { name, stream := .ok s, size := some (sizeOf s) }
    | none => { name, stream := .ok (.sink []), size := none }
  if operands.isEmpty then return [input none]
  else
    operands.mapM fun name => do
      if name == ['-'] then return input (some name)
      else
        match ← openInput name with
        | .ok s => return { name := some name, stream := .ok s, size := some (sizeOf s) }
        | .error fault => return { name := some name, stream := .error fault, size := none }

/-- Counts the inputs of `wc` one by one and prints the counts of each if asked to; gives the sum,
the status, and whether all could be printed. -/
def wcEach (columns : Wc.Columns) (width : Nat) (isShown : Bool) :
    Wc.Counts → Nat → Bool → List WcInput → Run (Wc.Counts × Nat × Bool)
  | sum, status, isWritten, [] => return (sum, status, isWritten)
  | sum, status, isWritten, i :: rest => do
    let isInput := i.name.isNone || i.name == some ['-']
    match i.stream with
    | .error fault =>
      if i.name == some [] then complain "wc: invalid zero-length file name\n".toList
      else complain (toolFault "wc" (quotedName (i.name.getD [])) fault.reason)
      wcEach columns width isShown sum 1 isWritten rest
    | .ok s =>
      let text ← if isInput then readAll 0 else restOf s
      let subject := match i.name with
        | none => quotedName "standard input".toList
        | some name => quotedName name
      let (counts, status) ←
        match text with
        | .ok text => pure (Wc.count text, status)
        | .error fault => do
          complain (toolFault "wc" subject fault.text)
          pure ({}, 1)
      let shown := i.name.map (fun n => if n.contains '\n' then quotedName n else n)
      let line := Wc.countLine width (columns.select counts) shown
      let isWritten ← if isShown then do pure ((← write 1 line) && isWritten) else pure isWritten
      wcEach columns width isShown (sum.add counts) status isWritten rest

/-- Counts lines, words and bytes. -/
def runWc (args : List Octets) : Run Nat := do
  match Wc.table.read {} args with
  | .error message =>
    complain (Wc.table.refusal message)
    return 1
  | .ok a =>
    let columns := Wc.columnsOf a
    match (a.value? 'T').map (fun w => (w, Wc.total? w)) with
    | some (w, none) =>
      complain (Wc.table.refusal ("invalid argument ".toList ++ quoted w ++
        (" for '--total'\nValid arguments are:\n  - 'auto'\n  - 'always'\n  - 'only'\n" ++
          "  - 'never'").toList))
      return 1
    | total =>
      let total := (total.bind Prod.snd).getD .auto
      let inputs ← wcInputs a.operands
      let isSingle := inputs.length == 1 && (columns.select {}).length == 1
      let width :=
        if isSingle || total == .only then 1 else Wc.widthFor (inputs.filterMap WcInput.size)
      let (sum, status, isWritten) ← wcEach columns width (total != .only) {} 0 true inputs
      let showsSum : Bool := match total with
        | .auto => 1 < inputs.length
        | .always | .only => true
        | .never => false
      let name := if total == .only then none else some "total".toList
      let sumLine := if showsSum then Wc.countLine width (columns.select sum) name else []
      let readsInput := inputs.any (fun i => i.name.isNone || i.name == some ['-'])
      let status ← if readsInput && ((← get).stream? 0).isNone then do
          complain (toolFault "wc" ['-'] ReadFault.isClosed.text)
          pure 1
        else pure status
      let isWritten := (← write 1 sumLine) || sumLine.isEmpty && isWritten
      if isWritten then return status
      else
        complain (toolFault "wc" "write error".toList ReadFault.isClosed.text)
        return 1

/-- Tells of a fault of a command that the shell does itself. -/
def tellBuiltin (name : String) (message : Octets) : Run Unit :=
  tell ((name ++ ": ").toList ++ message)

/-- Writes the output of a command that the shell does itself. -/
def putBuiltin (name : String) (cs : Octets) (status : Nat) : Run Nat := do
  if cs.isEmpty then return status
  else if ← write 1 cs then return status
  else
    tellBuiltin name ((name ++ ": I/O error").toList)
    return 1

/-- Prints arguments in a format. -/
def runPrintf (args : List Octets) : Run Nat := do
  let usage : Run Nat := do
    tellBuiltin "printf" "usage: printf format [arg ...]".toList
    return 2
  let print (format : Octets) (args : List Octets) : Run Nat := do
    let (output, faults, status) := printf format args
    for fault in faults do
      tellBuiltin "printf" fault
    putBuiltin "printf" output status
  match args with
  | [] => usage
  | ['-', '-'] :: rest =>
    match rest with
    | [] => usage
    | format :: args => print format args
  | ('-' :: c :: _) :: _ => do
    tellBuiltin "printf" ("Illegal option -".toList ++ [c])
    return 2
  | format :: args => print format args

/-- Ends the shell with a status. -/
def runExit (args : List Octets) : Run Nat := do
  match args with
  | [] => throw (.exit (← get).status)
  | arg :: _ =>
    if !arg.isEmpty && arg.all isAsciiDigit && decimalValue arg < Nat.pow 2 31 then
      throw (.exit (decimalValue arg % 256))
    else
      tellBuiltin "exit" ("Illegal number: ".toList ++ arg)
      throw (.exit 2)

/-- Runs a command by its name, unless there is none of that name. -/
def runProgram (name : Octets) (args : List Octets) : Run (Option Nat) :=
  match asText name with
  | "cat" => some <$> runCat args
  | "tr" => some <$> runTr args
  | "wc" => some <$> runWc args
  | "echo" => some <$> putBuiltin "echo" (echo args) 0
  | "printf" => some <$> runPrintf args
  | "true" | ":" => return some 0
  | "false" => return some 1
  | "exit" => some <$> runExit args
  | _ => return none

/-- Whether a command is a program, and nothing that the shell does itself. -/
def isTool (name : Octets) : Bool := ["cat", "tr", "wc"].contains (asText name)

/-- Whether arguments are too long to be handed to a program: one of them, or all together with
their addresses. -/
def areTooLong (args : List Octets) : Bool :=
  args.any (fun a => argumentLimit ≤ a.length) ||
    Nat.pow 2 21 < args.foldl (fun size a => size + a.length + 9) 0

/-- Whether a command is so much part of the shell that a fault in its redirections ends the
shell. -/
def isSpecialBuiltin (name : Octets) : Bool := [":", "exit"].contains (asText name)

end MailFormula.Shell
