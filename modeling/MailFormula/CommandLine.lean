import MailFormula.CommandLine.Repl
/-!
# The command line

Runs a command line on files and an input: what it prints and tells, the status that it ends with
and the files after it.

A command that evaluates a formula goes in a fixed order. The formula is read before the session is
opened, and the profile is saved before the outcome is reported, so a profile that cannot be saved
hides the value.
-/

namespace MailFormula.CommandLine

/-- What a command runs on: how long loops may run, the time of day, the files and the input. -/
structure Host where
  patience : Nat
  clock : Time.Timestamp := Time.Timestamp.epoch
  files : FileTree := {}
  input : String := ""

/-- The text of a formula, from the file of that name if it is one. -/
def formulaText (files : FileTree) (formula : String) (isFile : Bool) :
    Except CommandFault String :=
  if isFile then readFile files formula else .ok formula

/-- Evaluates a formula in a session, saves the profile and reports the outcome. -/
def evaluateIn (patience : Nat) (s : Session) (f : Formula) : Ending :=
  match s.value patience f with
  | (outcome, s') =>
    let ending : Ending :=
      match saveProfile s' with
      | .error fault => .ofFault fault s'.files
      | .ok files =>
        let (output, status) := report s' outcome
        { output, status, files }
    ending.after (complaintsOf s')

/-- What the check of a formula prints: its canonical text and how much of a message it needs. -/
def checkText (f : Formula) : String := f.toText ++ "\nneeds: " ++ f.hint.name ++ "\n"

/-- The names of all built-ins, one on a line. -/
def functionList : String := String.join (Signature.names.map (fun n => "@" ++ n ++ "\n"))

/-- Runs something on a formula, once that is read. -/
def withFormula (host : Host) (formula : String) (isFile : Bool) (run : Formula → Ending) :
    Ending :=
  match formulaText host.files formula isFile with
  | .error fault => .ofFault fault host.files
  | .ok text =>
    match Formula.parse text with
    | .error e =>
      { output := .tell (.parseError e), status := failureStatus, files := host.files }
    | .ok f => run f

/-- Runs a command. -/
def Command.run (host : Host) : Command → Ending
  | eval formula isFile options =>
    withFormula host formula isFile fun f =>
      match openSession host.clock host.files options with
      | .error fault => .ofFault fault host.files
      | .ok session => evaluateIn host.patience session f
  | check formula isFile =>
    withFormula host formula isFile fun f =>
      { output := .print (checkText f), files := host.files }
  | functions => { output := .print functionList, files := host.files }
  | repl options => Repl.run host.patience host.clock host.files options host.input

/-- Runs a command line. -/
def run (host : Host) (words : List String) : Ending :=
  match readWords words with
  | .ok (.run command) => command.run host
  | .ok (.help topic) => { output := .print topic.text, files := host.files }
  | .ok .version =>
    { output := .print (programName ++ " " ++ version ++ "\n"), files := host.files }
  | .error why =>
    { output := .tell (.refusal why), status := refusalStatus, files := host.files }

end MailFormula.CommandLine
