import MailFormula.CommandLine.Help
import MailFormula.CommandLine.Setup
/-!
# Output of a command

What a command prints, what it tells the user besides, and the status that it ends with.
-/

namespace MailFormula.CommandLine

/-- Something that a command tells the user besides what it prints. -/
inductive Notice where
  | refusal (why : Refusal)
  | parseError (error : ParseError)
  | stop (stop : Stop)
  | fault (fault : CommandFault)
  /-- What a shell command has said about its faults. -/
  | complaint (text : String)
deriving DecidableEq, Repr

/-- Why a formula has no value, in a line. -/
def stopLine : Stop → String
  | .failure f => "error[" ++ f.code.suffix ++ "]: " ++ f.message ++ "\n"
  | .signal s => "stopped: " ++ s.message ++ "\n"
  | .unfinished => "stopped: " ++ Stop.unfinished.message ++ "\n"

/-- A notice in words. -/
def Notice.text : Notice → String
  | refusal why => why.message
  | parseError e => "error[parse]: " ++ e.message ++ " at byte " ++ toString e.offset ++ "\n"
  | stop s => stopLine s
  | fault f => "Error: " ++ f.message ++ "\n"
  | complaint text => text

/-- What a command prints and tells. -/
structure Output where
  printed : String := ""
  notices : List Notice := []
deriving DecidableEq, Repr

namespace Output

/-- Printed text. -/
def print (text : String) : Output := { printed := text }

/-- A notice. -/
def tell (notice : Notice) : Output := { notices := [notice] }

instance : Append Output where
  append a b := { printed := a.printed ++ b.printed, notices := a.notices ++ b.notices }

end Output

/-- How a command ends: its output, its status and the files after it. -/
structure Ending where
  output : Output := {}
  status : UInt32 := 0
  files : FileTree

namespace Ending

/-- The same ending with more output before it. -/
def after (earlier : Output) (e : Ending) : Ending := { e with output := earlier ++ e.output }

end Ending

/-- What the shell commands of a session have said about their faults, in order. -/
def complaintsOf (s : Session) : Output :=
  { notices := s.complaints.reverse.map .complaint }

/-- The status after a failure. -/
def failureStatus : UInt32 := 1

/-- The status after a prompt was dismissed. -/
def cancelStatus : UInt32 := 2

/-- The status after words that are no command. -/
def refusalStatus : UInt32 := 2

/-- The ending of a command that cannot go on. -/
def Ending.ofFault (fault : CommandFault) (files : FileTree) : Ending :=
  { output := .tell (.fault fault), status := failureStatus, files }

/-- The outcome of a formula: its value is printed, a request to exit says nothing, and all else is
told. -/
def report (s : Session) : Except Stop Value → Output × UInt32
  | .ok v => (.print (v.text s.isLive ++ "\n"), 0)
  | .error (.signal .exit) => ({}, 0)
  | .error (.signal .cancel) => (.tell (.stop (.signal .cancel)), cancelStatus)
  | .error stop => (.tell (.stop stop), failureStatus)

end MailFormula.CommandLine
