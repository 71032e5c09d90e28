import MailFormula.CommandLine.Arguments
/-!
# Help

The help texts of the program and of its commands. Each is a line about the subject, the usage, and
then tables: commands, arguments and options, with what they mean in a second column.
-/

namespace MailFormula.CommandLine

/-- The name that the program is called by. -/
def programName : String := "mailmacro"

/-- The version of the program. -/
def version : String := "0.1.0"

/-- Blanks. -/
def blanks (n : Nat) : String := String.ofList (List.replicate n ' ')

/-- A table under a title: names in a column as wide as the longest, and what they mean. -/
def table (title : String) (rows : List (String × String)) : String :=
  let width := (rows.map (fun r => r.1.length)).foldl max 0
  let line (r : String × String) : String :=
    "  " ++ r.1 ++ blanks (width - r.1.length + 2) ++ r.2 ++ "\n"
  if rows.isEmpty then "" else "\n" ++ title ++ ":\n" ++ String.join (rows.map line)

namespace Verb

/-- What a command does. -/
def summary : Verb → String
  | eval => "Evaluate a macro and print its value"
  | check => "Parse a macro and print its canonical form"
  | functions => "List all built-in function names"
  | repl => "Evaluate macros interactively in one persistent context"

/-- The usage of a command. -/
def usage (v : Verb) : String :=
  programName ++ " " ++ v.word ++
    (if v.hasSession || v.takesFormula then " [OPTIONS]" else "") ++
    (if v.takesFormula then " <MACRO>" else "")

/-- What the formula of a command stands for. -/
def formulaRows (v : Verb) : List (String × String) :=
  match v with
  | eval => [("<MACRO>", "The macro text, or a path to it with \x60--file\x60")]
  | check => [("<MACRO>", "")]
  | _ => []

/-- The options of a command. -/
def optionRows (v : Verb) : List (String × String) :=
  (match v with
    | eval => [("-f, --file", "Read the macro from the file named by MACRO")]
    | check => [("-f, --file", "")]
    | _ => []) ++
  (if v.hasSession then
    [("-m, " ++ Setting.message.usage,
        "RFC 822 message files loaded into the \x60Inbox\x60 folder, in order"),
      ("    " ++ Setting.focus.usage,
        "Index of the context message among the loaded files [default: 0]"),
      ("-c, " ++ Setting.config.usage, "YAML engine configuration"),
      ("    --modify", "Allow macros to change message flags")]
    else []) ++
  [("-h, --help", "Print help")]

end Verb

/-- What the command for help does. -/
def helpSummary : String := "Print this message or the help of the given subcommand(s)"

namespace Topic

/-- The usage of what help is asked about. -/
def usage : Topic → String
  | program => programName ++ " <COMMAND>"
  | command verb => verb.usage
  | help => programName ++ " help [COMMAND]..."

/-- What help is asked about, in a line. -/
def summary : Topic → String
  | program => "Evaluate mail-client macros against RFC 822 messages."
  | command verb => verb.summary
  | help => helpSummary

/-- The tables of a help text. -/
def tables : Topic → String
  | program =>
    table "Commands" (Verb.all.map (fun v => (v.word, v.summary)) ++ [("help", helpSummary)]) ++
      table "Options" [("-h, --help", "Print help"), ("-V, --version", "Print version")]
  | command verb => table "Arguments" verb.formulaRows ++ table "Options" verb.optionRows
  | help => table "Arguments" [("[COMMAND]...", "Print help for the subcommand(s)")]

/-- A help text. -/
def text (t : Topic) : String :=
  t.summary ++ "\n\nUsage: " ++ t.usage ++ "\n" ++ t.tables

end Topic

/-- Where more can be learnt. -/
def hint : String := "\n\nFor more information, try '--help'.\n"

/-- A refusal in words. -/
def Refusal.message : Refusal → String
  | usage => "error: the arguments do not fit\n\nUsage: " ++ Topic.program.usage ++ hint
  | missingValue setting =>
    "error: a value is required for '" ++ setting.usage ++ "' but none was supplied" ++ hint
  | badNumber setting text fault =>
    "error: invalid value '" ++ text ++ "' for '" ++ setting.usage ++ "': " ++ fault.message ++ hint

end MailFormula.CommandLine
