/-!
# Failures and signals

An evaluation that gives no value stops for one of two reasons. A failure says what went wrong and
where, and a formula can catch it. A signal, raised by the user or by the formula itself, ends the
whole run and nothing catches it.

A third reason is no outcome of a formula: a loop without a limit may still be running when the
patience of the one who waits for it is at an end.
-/

namespace MailFormula

/-- What went wrong. -/
inductive ErrorCode where
  | invalidArgSize
  | invalidArgType
  | invalidArgValue
  | noContextMessage
  | noContextAccount
  | getMessage
  | invalidPart
  | unknownAccount
  | unknownFunction
  | notModifiable
  | invalidThread
  | noUi
  | fail
deriving DecidableEq, Repr

namespace ErrorCode

/-- The short name of a code. -/
def suffix : ErrorCode → String
  | invalidArgSize => "invalid_arg_size"
  | invalidArgType => "invalid_arg_type"
  | invalidArgValue => "invalid_arg_value"
  | noContextMessage => "no_context_message"
  | noContextAccount => "no_context_account"
  | getMessage => "get_message"
  | invalidPart => "invalid_part"
  | unknownAccount => "unknown_account"
  | unknownFunction => "unknown_function"
  | notModifiable => "not_modifiable"
  | invalidThread => "invalid_thread"
  | noUi => "no_ui"
  | fail => "fail"

/-- A code in words. -/
def description : ErrorCode → String
  | invalidArgSize => "invalid number of arguments"
  | invalidArgType => "invalid argument type"
  | invalidArgValue => "invalid argument value"
  | noContextMessage => "no message in context"
  | noContextAccount => "no account in context"
  | getMessage => "failed to get message"
  | invalidPart => "invalid part"
  | unknownAccount => "unknown account"
  | unknownFunction => "unknown function"
  | notModifiable => "message is not modifiable"
  | invalidThread => "must be called on the UI thread"
  | noUi => "no user interface available"
  | fail => "failed"

/-- The full diagnostic code. -/
def diagnostic (c : ErrorCode) : String := "mailmacro::eval::" ++ c.suffix

end ErrorCode

/-- A failure: its code, the function it happened in as written, the argument at fault counted
from 1, and what else there is to say. -/
structure Failure where
  code : ErrorCode
  function : Option String := none
  argument : Option Nat := none
  detail : Option String := none
deriving DecidableEq, Repr

/-- A failure in words. -/
def Failure.message (f : Failure) : String :=
  f.code.description ++
    (match f.function with
      | some name => " in @" ++ name
      | none => "") ++
    (match f.argument with
      | some n => " (argument " ++ toString n ++ ")"
      | none => "") ++
    (match f.detail with
      | some text => ": " ++ text
      | none => "")

/-- A request to end the whole run. -/
inductive Signal where
  /-- The user dismissed a prompt. -/
  | cancel
  /-- The formula asked to exit. -/
  | exit
deriving DecidableEq, Repr

/-- A signal in words. -/
def Signal.message : Signal → String
  | cancel => "cancelled by user"
  | exit => "exit requested"

/-- Why an evaluation gave no value. -/
inductive Stop where
  | failure (f : Failure)
  | signal (s : Signal)
  /-- Patience ran out while a loop without a limit was still running. -/
  | unfinished
deriving DecidableEq, Repr

namespace Stop

/-- The signal of a stop, if it is one. -/
def signal? : Stop → Option Signal
  | failure _ => none
  | signal s => some s
  | unfinished => none

/-- A stop in words. -/
def message : Stop → String
  | failure f => f.message
  | signal s => s.message
  | unfinished => "still running"

end Stop

end MailFormula
