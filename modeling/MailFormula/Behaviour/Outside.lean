import MailFormula.Behaviour.Control
import MailFormula.Behaviour.Text
import MailFormula.Time.HeaderDate
/-!
# The outside

Commands, files, settings, prompts and the time.
-/

namespace MailFormula.Behaviour

open MailFormula.Text MailFormula.Time

/-- An argument that may be missing, as a text. -/
def textOr (args : List Value) (index : Nat) (default : String) (live : MessageKey → Bool) :
    String :=
  (args[index]?.map (Value.text live)).getD default

/-- What a shell command prints. A command with a zero in it cannot be given to the shell, nor can
one that is too long. -/
def execute (args : List Value) : Action Value :=
  match args with
  | command :: _ => .look fun view =>
    let command := command.text view.live
    let input := args[1]?.map (Value.text view.live)
    if command.toList.contains '\x00' then
      .failAtWith .fail 1 "nul byte found in provided data"
    else if argumentLimit ≤ command.utf8ByteSize then
      .failAtWith .fail 1 "Argument list too long (os error 7)"
    else .request (.execute command input) fun output => .done (.string output)
  | _ => .failWith .invalidArgSize

/-- The text of a file. -/
def load : List Value → Action Value
  | [path] => .look fun view =>
    let path := resolvePath view.includeDir (path.text view.live)
    match view.files.read path with
    | .ok text => .done (.string text)
    | .error fault => .failAtWith .fail 1 (fileDetail path fault)
  | _ => .failWith .invalidArgSize

/-- Writes a file. -/
def save : List Value → Action Value
  | [path, text] => .look fun view =>
    let path := resolvePath view.includeDir (path.text view.live)
    .request (.write path (text.text view.live)) fun
      | .ok () => .done (.boolean true)
      | .error fault => .failAtWith .fail 1 (fileDetail path fault)
  | _ => .failWith .invalidArgSize

/-- A setting, or what to take when there is none. -/
def profile (args : List Value) : Action Value :=
  match args with
  | sec :: key :: _ => .look fun view =>
    let found := view.profile.getText (sec.text view.live) (key.text view.live)
    .done (.string (found.getD (textOr args 2 "" view.live)))
  | _ => .failWith .invalidArgSize

/-- Keeps a setting, and gives its value. -/
def setProfile : List Value → Action Value
  | [sec, key, v] => .look fun view =>
    .request (.setProfile (sec.text view.live) (key.text view.live) (v.text view.live))
      fun _ => .done v
  | _ => .failWith .invalidArgSize

/-- Asks the user for a text. -/
def inputBox (args : List Value) : Action Value :=
  match args with
  | message :: _ => do
    let view ← Action.view
    let answer ← Action.ask
      (.askText (message.text view.live) (textOr args 1 "" view.live) (truthOr args 2 false))
    let text ← Action.orFail answer
    .done (.string text)
  | _ => .failWith .invalidArgSize

/-- Shows the user a message, and gives the button that was pressed. -/
def messageBox (args : List Value) : Action Value :=
  match args with
  | message :: _ => do
    let view ← Action.view
    let answer ← Action.ask (.askButton (message.text view.live) (numberOr args 1 0))
    let button ← Action.orFail answer
    .done (.number button)
  | _ => .failWith .invalidArgSize

/-- The time. -/
def now : List Value → Action Value
  | [] => .look fun view => .done (.time view.clock)
  | _ => .failWith .invalidArgSize

/-- The time that a value gives: a time, or a text as in a header. -/
def timeOf (v : Value) (live : MessageKey → Bool) : Action Timestamp :=
  let fromText : Action Timestamp :=
    match HeaderDate.read (trim (v.text live)) with
    | .ok t => .done t
    | .error fault => .failAtWith .invalidArgValue 1 fault.message
  match v with
  | .time t => .done t
  | .string _ => fromText
  | .field _ _ => fromText
  | _ => .failAt .invalidArgType 1

/-- A time in a format. -/
def formatDate : List Value → Action Value
  | [time, format] => do
    let view ← Action.view
    let t ← timeOf time view.live
    match Format.read (format.text view.live) with
    | some items => .done (.string (Format.write t items))
    | none => .failAt .invalidArgValue 2
  | _ => .failWith .invalidArgSize

end MailFormula.Behaviour
