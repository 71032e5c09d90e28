import MailFormula.Behaviour
import MailFormula.Shell
/-!
# Evaluation

The value of a formula in a session. Every call goes one level deeper, and only so many levels are
allowed; the levels that are left are what evaluation recurses on. Function bodies and texts read at
run time are no parts of the formula at hand, so nothing else gets smaller.

A loop runs within a bound. If the session sets one, reaching it is a failure. If not, the bound is
the patience of the caller, and reaching it leaves the evaluation unfinished.
-/

namespace MailFormula

/-! ## What a request does -/

/-- Evaluates a body as long as a condition is true, at most `rounds` times. Nothing when the
condition is still true after that, else the value of the condition. -/
def iterate (evaluate : Formula → Run Value) (condition body : Formula) :
    Nat → Run (Option Value)
  | 0, s =>
    match evaluate condition s with
    | (.ok v, s') => (.ok (if v.truth then none else some v), s')
    | (.error e, s') => (.error e, s')
  | rounds + 1, s =>
    match evaluate condition s with
    | (.ok v, s') =>
      if v.truth then
        match evaluate body s' with
        | (.ok _, s'') => iterate evaluate condition body rounds s''
        | (.error e, s'') => (.error e, s'')
      else (.ok (some v), s')
    | (.error e, s') => (.error e, s')

/-- A loop within the bound that the session sets, else within the patience of the caller. -/
def loopWithin (patience : Nat) (evaluate : Formula → Run Value) (condition body : Formula) :
    Run (Except Nat Value) := fun s =>
  match s.limits.maxIterations with
  | some bound =>
    match iterate evaluate condition body bound s with
    | (.ok (some v), s') => (.ok (.ok v), s')
    | (.ok none, s') => (.ok (.error bound), s')
    | (.error e, s') => (.error e, s')
  | none =>
    match iterate evaluate condition body patience s with
    | (.ok (some v), s') => (.ok (.ok v), s')
    | (.ok none, s') => (.error .unfinished, s')
    | (.error e, s') => (.error e, s')

/-- Evaluates a body for a message: in a context bound to it and in a frame of its own. -/
def visit (evaluate : Formula → Run Value) (key : MessageKey) (body : Formula)
    (found : Option Formula) : Run (Option Value) := fun s =>
  let inside := { s.openChild key with scope := s.scope.push none }
  let back (s' : Session) : Session :=
    { s' with scope := s'.scope.pop, context := s.context, enclosing := s.enclosing }
  match evaluate body inside with
  | (.error e, s') => (.error e, back s')
  | (.ok v, s') =>
    if v.truth then
      match found with
      | none => (.ok (some v), back s')
      | some f =>
        match evaluate f s' with
        | (.ok w, s'') => (.ok (some w), back s'')
        | (.error e, s'') => (.error e, back s'')
    else (.ok none, back s')

/-- Raises a signal. -/
def raise {α : Type} (signal : Signal) : Run α := fun s =>
  (.error (.signal signal), { s with signal := some signal })

/-- Sets or clears a flag of the message at hand, if that is permitted. -/
def mark (flag : Flag) (on : Bool) : Run (Except ErrorCode Unit) := fun s =>
  if !s.context.permissions.modify then (.ok (.error .notModifiable), s)
  else
    match s.context.holder with
    | none => (.ok (.error .noContextMessage), s)
    | some key =>
      match s.store.setFlags key (if on then flag.bit else 0) flag.bit with
      | (true, store) => (.ok (.ok ()), { s with store })
      | (false, _) => (.ok (.error .fail), s)

/-- Shows a prompt, if that is permitted. Dismissing it cancels the run. -/
def prompt {α : Type} (shown : Dialog → Option α × Dialog) : Run (Except ErrorCode α) := fun s =>
  if !s.context.permissions.prompts then (.ok (.error .noUi), s)
  else if !s.context.permissions.promptThread then (.ok (.error .invalidThread), s)
  else
    match s.dialog with
    | none => (.ok (.error .noUi), s)
    | some dialog =>
      match shown dialog with
      | (some answer, dialog) => (.ok (.ok answer), { s with dialog := some dialog })
      | (none, dialog) => raise .cancel { s with dialog := some dialog }

/-- Does what a request asks for. -/
def perform (patience : Nat) (evaluate : Formula → Run Value) : (r : Request) → Run r.Reply
  | .evaluate f => evaluate f
  | .attempt f => fun s =>
    match evaluate f s with
    | (.ok v, s') => (.ok (.ok v), s')
    | (.error (.failure failure), s') => (.ok (.error failure), s')
    | (.error e, s') => (.error e, s')
  | .loop condition body => loopWithin patience evaluate condition body
  | .visit key body found => visit evaluate key body found
  | .define name body => fun s => (.ok (), { s with functions := s.functions.put name body })
  | .assign name v isGlobal => fun s =>
    (.ok (), { s with scope := if isGlobal then s.scope.setGlobal name v else s.scope.set name v })
  | .capture groups => fun s => (.ok (), { s with captures := groups })
  | .content hint => fun s =>
    match s.context.content s.store hint with
    | (r, context, store) => (.ok r, { s with context, store })
  | .mark flag on => mark flag on
  | .askText message default multiline => prompt (fun d => d.ask message default multiline)
  | .askButton text kind => prompt (fun d => d.display text kind)
  | .exit => raise .exit
  | .execute command input => fun s =>
    let r := Shell.run s.files command input
    (.ok r.output, { s with files := r.files, complaints := r.complaints :: s.complaints })
  | .write path text => fun s =>
    match s.files.write path text with
    | .ok files => (.ok (.ok ()), { s with files })
    | .error fault => (.ok (.error fault), s)
  | .setProfile sec key text => fun s =>
    (.ok (), { s with profile := s.profile.setText sec key text })

/-! ## Calls -/

/-- Evaluates arguments from left to right; the first that stops ends it. -/
def evalArgs (evaluate : Formula → Run Value) : List Formula → Run (List Value)
  | [], s => (.ok [], s)
  | f :: rest, s =>
    match evaluate f s with
    | (.error e, s') => (.error e, s')
    | (.ok v, s') =>
      match evalArgs evaluate rest s' with
      | (.error e, s'') => (.error e, s'')
      | (.ok vs, s'') => (.ok (v :: vs), s'')

/-- The failure of a call with a wrong number of arguments. -/
def wrongCount (name : String) (count : Nat) : Failure :=
  { code := .invalidArgSize
    function := some name
    detail := some ("got " ++ toString count ++ " argument(s)") }

/-- A call of a built-in. The number of arguments is checked before any of them is touched. -/
def callBuiltin (patience : Nat) (evaluate : Formula → Run Value) (sig : Signature)
    (name : String) (args : List Formula) : Run Value := fun s =>
  if !sig.arity.accepts args.length then (.error (.failure (wrongCount name args.length)), s)
  else if sig.builtin.isLazy then
    (sig.builtin.onFormulas args).run (perform patience evaluate) name s
  else
    match evalArgs evaluate args s with
    | (.error e, s') => (.error e, s')
    | (.ok vs, s') => (sig.builtin.onValues vs).run (perform patience evaluate) name s'

/-- A call of a function that the session defines: its body, in a frame with the arguments. -/
def callUser (evaluate : Formula → Run Value) (name : String) (args : List Formula) :
    Run Value := fun s =>
  match s.functions.get? name with
  | none => (.error (.failure { code := .unknownFunction, function := some name }), s)
  | some body =>
    match evalArgs evaluate args s with
    | (.error e, s') => (.error e, s')
    | (.ok vs, s') =>
      match evaluate body { s' with scope := s'.scope.push (some (.string name :: vs)) } with
      | (r, s'') => (r, { s'' with scope := s''.scope.pop })

/-- A call, whatever its name means. -/
def call (patience : Nat) (evaluate : Formula → Run Value) (name : String) (args : List Formula) :
    Run Value :=
  match Signature.find? name with
  | some sig => callBuiltin patience evaluate sig name args
  | none => callUser evaluate name args

/-! ## Formulas -/

/-- A header field of the message at hand. -/
def fieldValue (name : String) : Run Value := fun s =>
  match s.context.content s.store .header with
  | (.ok handle, context, store) =>
    (.ok (.field name (handle.part.field name)), { s with context, store })
  | (.error code, context, store) =>
    (.error (.failure { code, function := some ("%" ++ name) }), { s with context, store })

/-- The value of a formula, with so many levels of calls left. -/
def eval (patience : Nat) (levels : Nat) (f : Formula) (s : Session) : Outcome Value :=
  match f with
  | .text t => (.ok (.string t), s)
  | .number n => (.ok (.number n), s)
  | .regex r => (.ok (.regex r), s)
  | .field name => fieldValue name s
  | .var name => (.ok (s.valueOf name), s)
  | .call name args =>
    match levels with
    | 0 => (.error (.failure { s.tooDeep with function := some name }), s)
    | below + 1 =>
      match call patience (eval patience below) name args s.enter with
      | (r, s') => (r, s'.leave)

namespace Session

/-- The value of a formula in a session. -/
def evaluate (patience : Nat) (f : Formula) (s : Session) : Outcome Value :=
  eval patience (s.limits.maxDepth - s.depth) f s

/-- Runs a formula by itself: the last signal is forgotten first, and a failure that nobody caught
is reported. -/
def value (patience : Nat) (f : Formula) (s : Session) : Outcome Value :=
  match evaluate patience f { s with signal := none } with
  | (.error (.failure e), s') =>
    (.error (.failure e), { s' with reported := s'.reported ++ [e] })
  | outcome => outcome

/-- Whether a formula is true; one that stops is not. -/
def holds (patience : Nat) (f : Formula) (s : Session) : Bool × Session :=
  match s.value patience f with
  | (.ok v, s') => (v.truth, s')
  | (.error _, s') => (false, s')

end Session

end MailFormula
