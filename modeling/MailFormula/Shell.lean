import MailFormula.Shell.Run
/-!
# The shell

Runs a script on files and an input. What is left of it is what it prints, what it tells of faults,
and the files as it leaves them.
-/

namespace MailFormula.Shell

open MailFormula.Text

/-- What a script leaves behind. -/
structure Outcome where
  output : String
  complaints : String
  files : FileTree

/-- How often loops of a script may run, and how deep its commands may be nested. -/
def patience : Nat := 100000

/-- The text that was written into a stream. -/
def Machine.written (m : Machine) (index : Nat) : String :=
  match m.streams[index]? with
  | some (.sink written) => decodeLossy (toBytes written.reverse.flatten)
  | _ => ""

/-- Runs a script. Without an input it reads nothing. -/
def run (files : FileTree) (script : String) (input : Option String) : Outcome :=
  let source := octets script
  let stdin : Stream := match input with
    | some text => .source (octets text)
    | none => .void
  let start : Machine :=
    { files, streams := #[stdin, .sink [], .sink []], slots := [(0, 0), (1, 1), (2, 2)]
      bindings := firstVariables }
  let size := source.length
  let lines := runLines (readingSteps size) patience (size + 1) { rest := source }
  let (_, m) := lines.run.run start
  { output := m.written 1, complaints := m.written 2, files := m.files }

end MailFormula.Shell
