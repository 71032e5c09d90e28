import MailFormula.CommandLine.Output
import MailFormula.Formula.Balance
/-!
# The interactive loop

Formulas are typed one after the other and evaluated in one session. A formula may run over several
lines: lines are gathered until the text is complete, and an empty line ends the waiting. A line
that starts with a colon while nothing is gathered is a command to the loop itself.

One line is one step (`Repl.takeLine`), so the loop can be driven line by line or run on a whole
input (`Repl.run`).
-/

namespace MailFormula.CommandLine

open MailFormula.Text

/-- The state between two lines. -/
structure Repl where
  options : SessionOptions
  session : Session
  /-- The number of the formula that comes next. -/
  count : Nat := 1
  /-- The lines gathered so far. -/
  buffer : List Char := []

/-- A command to the loop. -/
inductive ReplCommand where
  | help
  | quit
  | clear
deriving DecidableEq, Repr

/-- The command that a line gives; letter case does not matter. -/
def ReplCommand.find? (line : String) : Option ReplCommand :=
  let w := asciiLower line
  if w == ":help" || w == ":h" then some help
  else if w == ":quit" || w == ":q" then some quit
  else if w == ":clear" || w == ":c" then some clear
  else none

/-- How the loop goes on after a line. -/
inductive Next where
  | more (r : Repl)
  | quit (r : Repl)
  /-- It cannot go on. The files are left as they are. -/
  | fault (fault : CommandFault) (files : FileTree)

namespace Repl

/-- What the loop starts with. -/
def banner : String :=
  programName ++ " REPL v" ++ version ++ "\n" ++
  "Type :help for help, :quit to exit, :clear to reset the state\n\n"

/-- The help of the loop. -/
def helpText : String :=
  "REPL commands:\n" ++
  "  :help, :h     Show this help\n" ++
  "  :quit, :q     Exit the REPL\n" ++
  "  :clear, :c    Forget all functions and variables\n" ++
  "\n" ++
  "Enter macros such as @Add(1, 2) to evaluate them.\n" ++
  "A macro may span lines until its parentheses balance.\n"

/-- What asks for the next line. -/
def prompt (r : Repl) : String :=
  if r.buffer.isEmpty then "macro[" ++ toString r.count ++ "]> " else "    -> "

/-- Evaluates what was typed in the session of the loop. -/
def evaluate (patience : Nat) (r : Repl) (text : List Char) : Output × Repl :=
  let r := { r with count := r.count + 1, buffer := [] }
  match Formula.parseChars text with
  | .error e => (.tell (.parseError e), r)
  | .ok f =>
    match r.session.value patience f with
    | (outcome, session) =>
      (complaintsOf session ++ (report session outcome).1,
        { r with session := { session with complaints := [] } })

/-- Forgets functions and variables: the profile is saved and the session is opened again. -/
def clear (r : Repl) : Output × Next :=
  match saveProfile r.session with
  | .error fault => ({}, .fault fault r.session.files)
  | .ok files =>
    match openSession r.session.clock files r.options with
    | .error fault => ({}, .fault fault files)
    | .ok session => (.print "Context cleared.\n", .more { r with session })

/-- Obeys a line that starts with a colon. -/
def obey (r : Repl) (line : String) : Output × Next :=
  match ReplCommand.find? line with
  | some .help => (.print helpText, .more r)
  | some .quit => ({}, .quit r)
  | some .clear => r.clear
  | none =>
    (.print ("Unknown command: " ++ line ++ ". Type :help for available commands.\n"), .more r)

/-- Takes a line. -/
def takeLine (patience : Nat) (r : Repl) (line : List Char) : Output × Next :=
  let line := trimChars line
  if r.buffer.isEmpty && line.head? == some ':' then r.obey (String.ofList line)
  else
    let text := if r.buffer.isEmpty then line else r.buffer ++ '\n' :: line
    if !(Lexeme.isComplete text || line.isEmpty) then ({}, .more { r with buffer := text })
    else if text.all isBlank then ({}, .more { r with buffer := [] })
    else
      let (output, r) := r.evaluate patience text
      (output, .more r)

/-- Ends the loop: the profile is saved. -/
def finish (r : Repl) : Ending :=
  match saveProfile r.session with
  | .ok files => { files }
  | .error fault => .ofFault fault r.session.files

/-- Runs the loop on lines. The end of the lines ends it too. -/
def runLines (patience : Nat) (r : Repl) : List (List Char) → Ending
  | [] => r.finish.after (.print (r.prompt ++ "\n"))
  | line :: lines =>
    match r.takeLine patience line with
    | (output, .more r') => (runLines patience r' lines).after (.print r.prompt ++ output)
    | (output, .quit r') => r'.finish.after (.print r.prompt ++ output)
    | (output, .fault fault files) =>
      (Ending.ofFault fault files).after (.print r.prompt ++ output)

/-- Runs the loop on an input. -/
def run (patience : Nat) (clock : Time.Timestamp) (files : FileTree) (options : SessionOptions)
    (input : String) : Ending :=
  let rest :=
    match openSession clock files options with
    | .error fault => Ending.ofFault fault files
    | .ok session => runLines patience { options, session } (inclusiveLines input.toList)
  rest.after (.print banner)

end Repl

end MailFormula.CommandLine
