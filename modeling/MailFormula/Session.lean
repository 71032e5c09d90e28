import MailFormula.Context
import MailFormula.Dialog
import MailFormula.Files
import MailFormula.Formula.Basic
import MailFormula.Profile
import MailFormula.Scope
/-!
# Sessions

A session is everything that evaluating a formula can read or change. Part of it belongs to the
formulas: functions, variables, captures, the last signal and the depth of the calls that are open.
The rest is the world around them: the messages, the settings, the files, the prompts.

A session also keeps the contexts that are open. The innermost is the one that formulas see; the
messages of all of them are held, so that they stay readable even when no folder lists them any
more.
-/

namespace MailFormula

open MailFormula.Time

/-- Bounds on evaluation. -/
structure Limits where
  /-- How deep calls may be nested. -/
  maxDepth : Nat := 256
  /-- How often a loop may run its body; without a bound, as often as it likes. -/
  maxIterations : Option Nat := none
deriving DecidableEq, Repr

/-- The state of a session. -/
structure Session where
  limits : Limits := {}
  /-- The directory that relative paths start from. -/
  includeDir : Option String := none
  functions : Table Formula := {}
  scope : Scope := {}
  /-- The groups of the last match, the whole match first. -/
  captures : List String := []
  /-- The last signal raised. -/
  signal : Option Signal := none
  /-- How many calls are open. -/
  depth : Nat := 0
  context : Context := {}
  /-- The contexts around the current one, innermost first. -/
  enclosing : List Context := []
  store : Store := {}
  profile : Profile := { name := "default" }
  files : FileTree := {}
  /-- The way to the user, if there is one. -/
  dialog : Option Dialog := none
  /-- Failures that nobody caught. -/
  reported : List Failure := []
  /-- What commands have said about faults, last first. -/
  complaints : List String := []
  clock : Timestamp := Timestamp.epoch

namespace Session

/-- Whether a message can still be read: the store keeps it, or an open context holds it. -/
def isLive (s : Session) (key : MessageKey) : Bool :=
  s.store.catalog.keeps key ||
    (s.context :: s.enclosing).any (fun c => c.holder == some key)

/-- The live messages of a list, in order. -/
def liveOnly (s : Session) (list : List MessageRef) : List MessageRef :=
  list.filter (fun m => s.isLive m.key)

/-- The position of the argument that a name stands for, if it is a number: digits, a plus sign
before them if there is one, and no more than 64 bits. -/
def argumentPosition? (name : String) : Option Nat :=
  let digits := match name.toList with
    | '+' :: digits => digits
    | digits => digits
  if !digits.isEmpty && digits.all Text.isAsciiDigit &&
      Text.decimalValue digits < UInt64.size then
    some (Text.decimalValue digits)
  else none

/-- The value of a variable, or of a positional argument when the name is a number. An unbound name
is the empty text. -/
def valueOf (s : Session) (name : String) : Value :=
  let found := match argumentPosition? name with
    | some index => s.scope.argument? index
    | none => s.scope.get? name
  found.getD (.string "")

/-- Goes on in the context of a message. -/
def openChild (s : Session) (key : MessageKey) : Session :=
  { s with
    context := s.context.child s.store.catalog key
    enclosing := s.context :: s.enclosing }

/-- Goes back to the context around the current one. -/
def closeChild (s : Session) : Session :=
  match s.enclosing with
  | c :: rest => { s with context := c, enclosing := rest }
  | [] => s

/-- Starts a call: one level deeper. -/
def enter (s : Session) : Session := { s with depth := s.depth + 1 }

/-- Ends a call. -/
def leave (s : Session) : Session := { s with depth := s.depth - 1 }

/-- The failure of a call beyond the depth that is allowed. -/
def tooDeep (s : Session) : Failure :=
  { code := .fail
    detail := some ("recursion limit of " ++ toString s.limits.maxDepth ++ " exceeded") }

/-- Starts a call if the depth allows it. -/
def tryEnter (s : Session) : Except Failure Session :=
  if s.depth + 1 ≤ s.limits.maxDepth then .ok s.enter else .error s.tooDeep

end Session

end MailFormula
