import MailFormula.Text.Lines
/-!
# Consoles

Prompts on a plain terminal: a text is asked for on one line and read from the next line of the
input, and a message is only printed. The state is the input that is left and what was printed.
-/

namespace MailFormula

open MailFormula.Text

/-- A terminal: the characters that are still to be read and the text printed so far. -/
structure Console where
  input : List Char := []
  printed : String := ""
deriving DecidableEq, Repr

namespace Console

/-- Prints a text. -/
def print (c : Console) (text : String) : Console := { c with printed := c.printed ++ text }

/-- The next line with its line feed, if any input is left. -/
def readLine (c : Console) : Option (List Char × Console) :=
  match inclusiveLines c.input with
  | [] => none
  | line :: rest => some (line, { c with input := rest.flatten })

/-- A line without the carriage returns and line feeds at its end. -/
def answerOf (line : List Char) : List Char :=
  (line.reverse.dropWhile (fun c => c == '\r' || c == '\n')).reverse

/-- Asks for a text and offers a default, which an empty answer takes. The end of the input
dismisses the prompt. -/
def ask (c : Console) (message default : String) : Option String × Console :=
  let offer := if default.isEmpty then "" else " [" ++ default ++ "]"
  let shown := c.print (message ++ offer ++ ": ")
  match shown.readLine with
  | none => (none, shown)
  | some (line, after) =>
    match answerOf line with
    | [] => (some default, after)
    | answer => (some (String.ofList answer), after)

/-- Prints a message. The only button is the first. -/
def display (c : Console) (text : String) : Option UInt32 × Console :=
  (some 1, c.print (text ++ "\n"))

end Console

end MailFormula
