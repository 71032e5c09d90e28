import MailFormula.Action
import MailFormula.Formula.Parser
/-!
# Control

Choice, sequence, loops, recovery, definitions, formulas read at run time, and visits to messages.
Those that decide which of their arguments to evaluate take the arguments as formulas.
-/

namespace MailFormula.Behaviour

open MailFormula.Text

/-! ## Choice -/

/-- The branch after the first true condition, else the last argument. -/
def firstTrue : List Formula → Action Value
  | [] => .failWith .invalidArgSize
  | [otherwise] => .evaluate otherwise
  | condition :: branch :: rest => do
    if (← Action.evaluate condition).truth then Action.evaluate branch else firstTrue rest

/-- Conditions and branches in turn, and what to do otherwise. -/
def choose (args : List Formula) : Action Value :=
  if args.length < 3 || args.length % 2 = 0 then .failWith .invalidArgSize else firstTrue args

/-- Whether all arguments are true; the first that is not settles it. -/
def conjunction : List Formula → Action Value
  | [] => .done (.boolean true)
  | f :: rest => do
    if (← Action.evaluate f).truth then conjunction rest else .done (.boolean false)

/-- Whether an argument is true; the first that is settles it. -/
def disjunction : List Formula → Action Value
  | [] => .done (.boolean false)
  | f :: rest => do
    if (← Action.evaluate f).truth then .done (.boolean true) else disjunction rest

/-- The opposite of a truth value. -/
def negation : List Value → Action Value
  | [v] => .done (.boolean (!v.truth))
  | _ => .failWith .invalidArgSize

/-! ## Sequence and recovery -/

/-- The last of the values. -/
def progn (args : List Value) : Action Value :=
  match args.getLast? with
  | some v => .done v
  | none => .failWith .invalidArgSize

/-- A loop; its value is that of the condition that ended it. -/
def loop : List Formula → Action Value
  | [condition, body] => do
    match ← Action.ask (.loop condition body) with
    | .ok v => .done v
    | .error bound =>
      .fail { code := .fail
              detail := some ("iteration limit of " ++ toString bound ++ " exceeded") }
  | _ => .failWith .invalidArgSize

/-- A formula, or another one if it fails. -/
def recover : List Formula → Action Value
  | [f, fallback] => do
    match ← Action.ask (.attempt f) with
    | .ok v => .done v
    | .error _ => Action.evaluate fallback
  | _ => .failWith .invalidArgSize

/-- The end of the whole run. -/
def exit : List Value → Action Value
  | [] => .request .exit (fun e => nomatch e)
  | _ => .failWith .invalidArgSize

/-! ## Definitions and formulas read at run time -/

/-- Defines a function; its body is kept unevaluated. -/
def defun : List Formula → Action Value
  | [name, body] => do
    let value ← Action.evaluate name
    let view ← Action.view
    let name := trim (value.text view.live)
    if name.isEmpty then .failAt .invalidArgValue 1
    else do
      let _ ← Action.ask (.define name body)
      .done (.boolean true)
  | _ => .failWith .invalidArgSize

/-- Evaluates the formula that a text writes. -/
def evaluateText (text : String) : Action Value :=
  match Formula.parse text with
  | .ok f => .evaluate f
  | .error e => .failAtWith .fail 1 e.message

/-- Evaluates a text. -/
def eval : List Value → Action Value
  | [v] => .look fun view => evaluateText (v.text view.live)
  | _ => .failWith .invalidArgSize

/-- What to say about a path that cannot be used. -/
def fileDetail (path : String) (fault : FileFault) : String := path ++ ": " ++ fault.message

/-- Evaluates the text of a file. -/
def includeFile : List Value → Action Value
  | [v] => .look fun view =>
    let path := resolvePath view.includeDir (v.text view.live)
    match view.files.read path with
    | .ok text => evaluateText text
    | .error fault => .failAtWith .fail 1 (fileDetail path fault)
  | _ => .failWith .invalidArgSize

/-! ## Visits -/

/-- The live messages of a list that a formula gives as first argument. -/
def messagesOf (list : Formula) : Action (List MessageRef) := do
  match ← Action.evaluate list with
  | .messages refs => .look fun view => .done (refs.filter (fun m => view.live m.key))
  | _ => .failAt .invalidArgType 1

/-- Evaluates a body for every message in turn. -/
def visitAll (body : Formula) : List MessageRef → Action Value
  | [] => .done (.boolean true)
  | m :: rest => do
    let _ ← Action.ask (.visit m.key body none)
    visitAll body rest

/-- A body for every message of a list. -/
def forEach : List Formula → Action Value
  | [list, body] => do visitAll body (← messagesOf list)
  | _ => .failWith .invalidArgSize

/-- Evaluates a body for one message after another until it is true. -/
def visitUntil (body : Formula) (found : Option Formula) : List MessageRef → Action Value
  | [] => .done (.boolean false)
  | m :: rest => do
    match ← Action.ask (.visit m.key body found) with
    | some v => .done v
    | none => visitUntil body found rest

/-- The first message of a list for which a body is true. -/
def findEach : List Formula → Action Value
  | [list, body] => do visitUntil body none (← messagesOf list)
  | [list, body, found] => do visitUntil body (some found) (← messagesOf list)
  | _ => .failWith .invalidArgSize

end MailFormula.Behaviour
