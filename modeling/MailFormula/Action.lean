import MailFormula.Session
/-!
# Actions

What a built-in does, as data. An action looks at the session, asks for something to be done, and
goes on with the answer, until it ends with a result or fails. It cannot touch the session by
itself: everything it changes goes through a request, and what it reads goes through a view that
shows neither limits nor counters. So a fact that holds for every request holds for every built-in.

A failure of an action names no function. Whoever runs the action for a call puts the name in.
-/

namespace MailFormula

open MailFormula.Time

/-- What an action can see. -/
structure View where
  catalog : Catalog
  /-- Whether a message can still be read. -/
  live : MessageKey → Bool
  /-- The message at hand. -/
  message : Option (MessageKey × Message)
  /-- The flags of the message at hand. -/
  flags : UInt32
  selected : List MessageRef
  folder : Option FolderPlace
  account : Option Nat
  scope : Scope
  captures : List String
  profile : Profile
  files : FileTree
  includeDir : Option String
  clock : Timestamp

/-- What a session shows. -/
def Session.view (s : Session) : View :=
  let catalog := s.store.catalog
  { catalog
    live := s.isLive
    message := s.context.message? catalog
    flags := ((s.context.holder.bind s.store.status?).map Status.flags).getD 0
    selected := s.context.selected
    folder := s.context.folder? catalog
    account := s.context.account? catalog
    scope := s.scope
    captures := s.captures
    profile := s.profile
    files := s.files
    includeDir := s.includeDir
    clock := s.clock }

/-- What an action can ask for. -/
inductive Request where
  /-- Evaluate a formula here. -/
  | evaluate (f : Formula)
  /-- Evaluate a formula and take its failure as an answer. -/
  | attempt (f : Formula)
  /-- Evaluate a body again and again, as long as a condition is true. -/
  | loop (condition body : Formula)
  /-- Evaluate a body for a message, in a context and a frame of its own; if it is true, the answer
  is its value, or that of another formula evaluated there. -/
  | visit (key : MessageKey) (body : Formula) (found : Option Formula)
  /-- Define a function. -/
  | define (name : String) (body : Formula)
  /-- Bind a variable. -/
  | assign (name : String) (v : Value) (isGlobal : Bool)
  /-- Keep the groups of a match. -/
  | capture (groups : List String)
  /-- The content of the message at hand. -/
  | content (hint : Hint)
  /-- Set or clear a flag of the message at hand. -/
  | mark (flag : Flag) (on : Bool)
  /-- Ask the user for a text. -/
  | askText (message default : String) (multiline : Bool)
  /-- Show the user a message. -/
  | askButton (text : String) (kind : UInt32)
  /-- End the whole run. -/
  | exit
  /-- Run a shell command. -/
  | execute (command : String) (input : Option String)
  /-- Write a file. -/
  | write (path text : String)
  /-- Keep a setting. -/
  | setProfile (sec key text : String)

/-- The answer to a request. -/
def Request.Reply : Request → Type
  | evaluate _ => Value
  | attempt _ => Except Failure Value
  -- The bound that stopped the loop, or the value of the condition that ended it.
  | loop _ _ => Except Nat Value
  | visit _ _ _ => Option Value
  | define _ _ => Unit
  | assign _ _ _ => Unit
  | capture _ => Unit
  | content _ => Except ErrorCode PartHandle
  | mark _ _ => Except ErrorCode Unit
  | askText _ _ _ => Except ErrorCode String
  | askButton _ _ => Except ErrorCode UInt32
  | exit => Empty
  | execute _ _ => String
  | write _ _ => Except FileFault Unit
  | setProfile _ _ _ => Unit

/-- What went wrong in an action, without the name of the function. -/
structure Fault where
  code : ErrorCode
  /-- The argument at fault, counted from 1. -/
  argument : Option Nat := none
  detail : Option String := none
deriving DecidableEq, Repr

/-- The failure of a call that a fault stands for. -/
def Fault.inCall (f : Fault) (name : String) : Failure :=
  { code := f.code, function := some name, argument := f.argument, detail := f.detail }

/-- A program of a built-in. -/
inductive Action (α : Type) where
  | done (a : α)
  | fail (f : Fault)
  /-- Look at the session and go on. -/
  | look (next : View → Action α)
  /-- Ask for something and go on with the answer. -/
  | request (r : Request) (next : r.Reply → Action α)

namespace Action

variable {α β : Type}

/-- One action after another. -/
def bind : Action α → (α → Action β) → Action β
  | done a, k => k a
  | fail f, _ => fail f
  | look next, k => look (fun v => (next v).bind k)
  | request r next, k => request r (fun a => (next a).bind k)

instance : Monad Action where
  pure := done
  bind := bind

/-- Asks for something. -/
def ask (r : Request) : Action r.Reply := request r done

/-- The view. -/
def view : Action View := look done

/-- Fails with a code. -/
def failWith (code : ErrorCode) : Action α := fail { code }

/-- Fails with a code because of an argument. -/
def failAt (code : ErrorCode) (argument : Nat) : Action α :=
  fail { code, argument := some argument }

/-- Fails with a code and more to say, because of an argument. -/
def failAtWith (code : ErrorCode) (argument : Nat) (detail : String) : Action α :=
  fail { code, argument := some argument, detail := some detail }

/-- Goes on with a result, or fails with its code. -/
def orFail : Except ErrorCode α → Action α
  | .ok a => done a
  | .error code => failWith code

/-- Evaluates a formula. -/
def evaluate (f : Formula) : Action Value := ask (.evaluate f)

/-- The content of the message at hand. -/
def content (hint : Hint) : Action PartHandle := do
  orFail (← ask (.content hint))

end Action

/-! ## Running -/

/-- What a computation on a session leaves: a result or the reason it stopped, and the session. -/
abbrev Outcome (α : Type) := Except Stop α × Session

/-- A computation on a session. -/
abbrev Run (α : Type) := Session → Outcome α

/-- Runs the action of a call, given what to do for a request. A request that stops ends the
action. -/
def Action.run {α : Type} (perform : (r : Request) → Run r.Reply) (name : String) :
    Action α → Run α
  | .done a, s => (.ok a, s)
  | .fail f, s => (.error (.failure (f.inCall name)), s)
  | .look next, s => (next s.view).run perform name s
  | .request r next, s =>
    match perform r s with
    | (.ok a, s') => (next a).run perform name s'
    | (.error e, s') => (.error e, s')

end MailFormula
