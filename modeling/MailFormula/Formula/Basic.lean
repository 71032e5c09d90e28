import MailFormula.Formula.Builtin
import MailFormula.Regex
/-!
# Formulas

A formula is a tree of literals, header fields, variables and calls. Which function a call means
is settled by its name alone: a name of a built-in, in any case, always means the built-in, and
every other name means a function that the session defines.
-/

namespace MailFormula

/-- A formula. -/
inductive Formula where
  /-- A text literal. -/
  | text (s : String)
  /-- A number literal. -/
  | number (n : UInt32)
  /-- A regular expression literal. -/
  | regex (r : Regex)
  /-- A header field of the message at hand. -/
  | field (name : String)
  /-- A variable, or a positional argument when the name is a number. -/
  | var (name : String)
  /-- A call, with the name as written. -/
  | call (name : String) (args : List Formula)

namespace Formula

/-- The hint of the function that a name means. -/
def ownHint (name : String) : Hint :=
  match Signature.find? name with
  | some s => s.hint
  | none => .none

mutual
/-- The largest part of the message that any node of the formula asks for. -/
def hint : Formula → Hint
  | text _ => .none
  | number _ => .none
  | regex _ => .none
  | field _ => .header
  | var _ => .none
  | call name args => (ownHint name).max (hints args)

/-- The largest hint of several formulas. -/
def hints : List Formula → Hint
  | [] => .none
  | f :: fs => f.hint.max (hints fs)
end

end Formula

end MailFormula
