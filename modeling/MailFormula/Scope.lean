import MailFormula.Table
import MailFormula.Value
/-!
# Scopes

Variables live in frames. Calling a function of the user opens a frame that also holds the
arguments of the call; visiting a message opens a frame without arguments. A variable is read from
the innermost frame that binds it, and after all frames from the globals. Writing follows the same
way: a name that some frame binds is overwritten there, and a new name goes to the innermost frame.
-/

namespace MailFormula

/-- One level of variables. -/
structure Frame where
  /-- The positional arguments of a call, its name first. -/
  args : Option (List Value) := none
  vars : Table Value := {}

/-- The frames, innermost first, and the globals below them. -/
structure Scope where
  frames : List Frame := [{}]
  globals : Table Value := {}

namespace Scope

/-- The value of a variable. -/
def get? (s : Scope) (name : String) : Option Value :=
  s.frames.findSome? (fun f => f.vars.get? name) <|> s.globals.get? name

/-- A positional argument of the innermost frame that has arguments. -/
def argument? (s : Scope) (index : Nat) : Option Value :=
  (s.frames.findSome? Frame.args).bind (fun args => args[index]?)

/-- Overwrites a variable in the innermost frame that binds it, if any does. -/
def overwrite (name : String) (v : Value) : List Frame → Option (List Frame)
  | [] => none
  | f :: fs =>
    if f.vars.contains name then some ({ f with vars := f.vars.put name v } :: fs)
    else (overwrite name v fs).map (f :: ·)

/-- Binds a global. -/
def setGlobal (s : Scope) (name : String) (v : Value) : Scope :=
  { s with globals := s.globals.put name v }

/-- Binds a variable where it is bound already, else in the innermost frame. -/
def set (s : Scope) (name : String) (v : Value) : Scope :=
  match overwrite name v s.frames with
  | some frames => { s with frames }
  | none =>
    match s.frames with
    | f :: fs => { s with frames := { f with vars := f.vars.put name v } :: fs }
    | [] => s.setGlobal name v

/-- Opens a frame. -/
def push (s : Scope) (args : Option (List Value)) : Scope :=
  { s with frames := { args } :: s.frames }

/-- Drops the innermost frame. -/
def pop (s : Scope) : Scope := { s with frames := s.frames.tail }

@[simp] theorem pop_push (s : Scope) (args : Option (List Value)) : (s.push args).pop = s := rfl

end Scope

end MailFormula
