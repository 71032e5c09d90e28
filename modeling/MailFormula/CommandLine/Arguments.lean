import MailFormula.Text.Ascii
import MailFormula.Text.Lines
/-!
# Arguments

What the words of a command line ask for. The first word names a command; the words after it are
switches, settings with a value, and the formula.

A setting takes its value from the same word, after an equals sign, or from the next word. In the
second case the value is looked at only when the setting is settled, which is when the next switch,
setting or formula is accepted, or at the end. So of two faults the earlier one is reported, except
that a word that is not understood at all comes before the value in front of it.
-/

namespace MailFormula.CommandLine

open MailFormula.Text

/-! ## What can be asked for -/

/-- Where the session of a command comes from. -/
structure SessionOptions where
  /-- Message files, in order. -/
  messages : List String := []
  /-- Which of the messages is the one at hand. -/
  focus : Nat := 0
  config : Option String := none
  /-- Whether formulas may change flags. -/
  modify : Bool := false
deriving DecidableEq, Repr

/-- A command. The formula is given as it is, or by the file that holds it. -/
inductive Command where
  | eval (formula : String) (isFile : Bool) (options : SessionOptions)
  | check (formula : String) (isFile : Bool)
  | functions
  | repl (options : SessionOptions)
deriving DecidableEq, Repr

/-- The name of a command. -/
inductive Verb where
  | eval
  | check
  | functions
  | repl
deriving DecidableEq, Repr

/-- An option without a value. -/
inductive Switch where
  | file
  | modify
  | help
deriving DecidableEq, Repr

/-- An option with a value. -/
inductive Setting where
  | message
  | focus
  | config
deriving DecidableEq, Repr

namespace Verb

/-- All commands, in the order of the overview. -/
def all : List Verb := [eval, check, functions, repl]

/-- The word for a command. -/
def word : Verb → String
  | eval => "eval"
  | check => "check"
  | functions => "functions"
  | repl => "repl"

/-- The command that a word names. -/
def find? (w : String) : Option Verb := all.find? (fun v => v.word == w)

/-- Whether a command has a session. -/
def hasSession : Verb → Bool
  | eval | repl => true
  | check | functions => false

/-- Whether a command works on a formula. -/
def takesFormula : Verb → Bool
  | eval | check => true
  | functions | repl => false

/-- The switches of a command. -/
def switches (v : Verb) : List Switch :=
  (if v.takesFormula then [.file] else []) ++ (if v.hasSession then [.modify] else []) ++ [.help]

/-- The settings of a command. -/
def settings (v : Verb) : List Setting := if v.hasSession then [.message, .focus, .config] else []

end Verb

namespace Switch

/-- The long name. -/
def name : Switch → String
  | file => "file"
  | modify => "modify"
  | help => "help"

/-- The letter, if there is one. -/
def letter? : Switch → Option Char
  | file => some 'f'
  | modify => none
  | help => some 'h'

end Switch

namespace Setting

/-- The long name. -/
def name : Setting → String
  | message => "message"
  | focus => "focus"
  | config => "config"

/-- The letter, if there is one. -/
def letter? : Setting → Option Char
  | message => some 'm'
  | focus => none
  | config => some 'c'

/-- The long name with a word for the value. -/
def usage (s : Setting) : String :=
  "--" ++ s.name ++ (if s = focus then " <FOCUS>" else " <FILE>")

end Setting

/-! ## Numbers -/

/-- Why a text is no number of 64 bits. -/
inductive NumberFault where
  | empty
  | badDigit
  | tooLarge
deriving DecidableEq, Repr

/-- A fault in words. -/
def NumberFault.message : NumberFault → String
  | empty => "cannot parse integer from empty string"
  | badDigit => "invalid digit found in string"
  | tooLarge => "number too large to fit in target type"

/-- Reads digits from left to right; the first character that makes the number impossible decides
why. -/
def readDigits (n : Nat) : List Char → Except NumberFault Nat
  | [] => .ok n
  | c :: cs =>
    if !isAsciiDigit c then .error .badDigit
    else if UInt64.size ≤ n * 10 + digitValue c then .error .tooLarge
    else readDigits (n * 10 + digitValue c) cs

/-- The number of 64 bits that a text writes; a plus sign may stand before it. -/
def readIndex (text : String) : Except NumberFault Nat :=
  match text.toList with
  | [] => .error .empty
  | ['+'] => .error .badDigit
  | '+' :: cs => readDigits 0 cs
  | cs => readDigits 0 cs

/-! ## Words -/

/-- Why words are no command. -/
inductive Refusal where
  /-- The words do not fit the command. -/
  | usage
  /-- A setting lacks its value. -/
  | missingValue (setting : Setting)
  /-- The value of a setting is no number. -/
  | badNumber (setting : Setting) (text : String) (fault : NumberFault)
deriving DecidableEq, Repr

/-- What ends the reading of words early. -/
inductive Halt where
  | refuse (why : Refusal)
  | help
deriving DecidableEq, Repr

/-- What was read so far. -/
structure Gathered where
  formula : Option String := none
  switches : List Switch := []
  messages : List String := []
  focus : Option Nat := none
  config : Option String := none
  /-- The setting that is not settled yet, and its value once that was read. -/
  pending : Option (Setting × Option String) := none
  /-- From here on words are no options. -/
  verbatim : Bool := false
deriving DecidableEq, Repr

namespace Gathered

/-- Refuses the words. -/
def refuse {α : Type} (why : Refusal) : Except Halt α := .error (.refuse why)

/-- Takes the value of a setting. Only messages may be given more than once. -/
def put (g : Gathered) (setting : Setting) (value : String) : Except Halt Gathered :=
  match setting with
  | .message =>
    if value.isEmpty then refuse (.missingValue setting)
    else .ok { g with messages := g.messages ++ [value] }
  | .focus =>
    if g.focus.isSome then refuse .usage
    else
      match readIndex value with
      | .ok n => .ok { g with focus := some n }
      | .error fault => refuse (.badNumber setting value fault)
  | .config =>
    if g.config.isSome then refuse .usage
    else if value.isEmpty then refuse (.missingValue setting)
    else .ok { g with config := some value }

/-- Settles the setting that is pending. -/
def settle (g : Gathered) : Except Halt Gathered :=
  match g.pending with
  | none => .ok g
  | some (setting, none) => refuse (.missingValue setting)
  | some (setting, some value) => { g with pending := none }.put setting value

/-- Takes a switch. -/
def turnOn (g : Gathered) (switch : Switch) : Except Halt Gathered := do
  let g ← g.settle
  if switch = .help then .error .help
  else if g.switches.contains switch then refuse .usage
  else .ok { g with switches := g.switches ++ [switch] }

/-- Takes a setting whose value is in the same word, if it is. -/
def begin (g : Gathered) (setting : Setting) (value : Option String) : Except Halt Gathered := do
  let g ← g.settle
  match value with
  | some v => g.put setting v
  | none => .ok { g with pending := some (setting, none) }

/-- Takes a word that is no option. -/
def takeWord (verb : Verb) (g : Gathered) (word : String) : Except Halt Gathered :=
  if verb.takesFormula && g.formula.isNone then do
    let g ← g.settle
    .ok { g with formula := some word }
  else refuse .usage

/-- Takes a long option, without its dashes. -/
def takeLong (verb : Verb) (g : Gathered) (body : List Char) : Except Halt Gathered :=
  let (name, value) :=
    match splitOnce '=' body with
    | some (name, value) => (String.ofList name, some (String.ofList value))
    | none => (String.ofList body, none)
  match verb.settings.find? (fun s => s.name == name) with
  | some setting => g.begin setting value
  | none =>
    match verb.switches.find? (fun s => s.name == name), value with
    | some switch, none => g.turnOn switch
    | _, _ => refuse .usage

/-- Takes letters, without their dash: switches, and at the end a setting with its value. -/
def takeLetters (verb : Verb) (g : Gathered) : List Char → Except Halt Gathered
  | [] => .ok g
  | c :: cs =>
    match verb.switches.find? (fun s => s.letter? == some c) with
    | some switch => do
      let g ← g.turnOn switch
      takeLetters verb g cs
    | none =>
      match verb.settings.find? (fun s => s.letter? == some c) with
      | none => refuse .usage
      | some setting =>
        match cs with
        | [] => g.begin setting none
        | '=' :: value => g.begin setting (some (String.ofList value))
        | value => g.begin setting (some (String.ofList value))

/-- Takes a word. -/
def take (verb : Verb) (g : Gathered) (word : String) : Except Halt Gathered :=
  if g.verbatim then takeWord verb g word
  else
    match word.toList with
    | ['-', '-'] => .ok { g with verbatim := true }
    | '-' :: '-' :: body => g.takeLong verb body
    | '-' :: c :: cs => g.takeLetters verb (c :: cs)
    | _ =>
      match g.pending with
      | some (setting, none) => .ok { g with pending := some (setting, some word) }
      | _ => takeWord verb g word

/-- The session options among what was read. -/
def options (g : Gathered) : SessionOptions :=
  { messages := g.messages
    focus := g.focus.getD 0
    config := g.config
    modify := g.switches.contains .modify }

/-- The command, once all words are read. -/
def command (verb : Verb) (g : Gathered) : Except Halt Command := do
  let g ← g.settle
  let isFile := g.switches.contains .file
  match verb, g.formula with
  | .eval, some formula => .ok (.eval formula isFile g.options)
  | .check, some formula => .ok (.check formula isFile)
  | .eval, none | .check, none => refuse .usage
  | .functions, _ => .ok .functions
  | .repl, _ => .ok (.repl g.options)

end Gathered

/-! ## Command lines -/

/-- What help is asked about. -/
inductive Topic where
  | program
  | command (verb : Verb)
  | help
deriving DecidableEq, Repr

/-- What a command line asks for. -/
inductive Invocation where
  | run (command : Command)
  | help (topic : Topic)
  | version
deriving DecidableEq, Repr

/-- The words after a command. -/
def readCommand (verb : Verb) (words : List String) : Except Refusal Invocation :=
  match words.foldlM (Gathered.take verb) {} >>= Gathered.command verb with
  | .ok command => .ok (.run command)
  | .error .help => .ok (.help (.command verb))
  | .error (.refuse why) => .error why

/-- The words after the word for help. -/
def readTopic : List String → Except Refusal Invocation
  | [] => .ok (.help .program)
  | [w] =>
    match Verb.find? w with
    | some verb => .ok (.help (.command verb))
    | none => if w == "help" then .ok (.help .help) else .error .usage
  | _ => .error .usage

/-- Reads a command line. -/
def readWords : List String → Except Refusal Invocation
  | [] => .error .usage
  | w :: rest =>
    match Verb.find? w with
    | some verb => readCommand verb rest
    | none =>
      if w == "help" then readTopic rest
      else
        match w.toList with
        | '-' :: 'h' :: _ => .ok (.help .program)
        | '-' :: 'V' :: _ => .ok .version
        | _ =>
          if w == "--help" then .ok (.help .program)
          else if w == "--version" then .ok .version
          else .error .usage

end MailFormula.CommandLine
