import MailFormula.Behaviour.Text
import MailFormula.Formula.Parser
import MailFormula.Regex.Replace
/-!
# Patterns

Searching with regular expressions. A pattern is a regular expression, or a text that is compiled
on the spot and then ignores case. Every match that is found leaves its groups behind, where `Group`
reads them.
-/

namespace MailFormula.Behaviour

/-- The regular expression that a value stands for. -/
def regexOf (argument : Nat) (caseSensitive : Bool) (v : Value) (live : MessageKey → Bool) :
    Action Regex :=
  let compile : Action Regex :=
    match Regex.compile? (v.text live) (if caseSensitive then "" else "i") with
    | some r => .done r
    | none => .failAtWith .invalidArgValue argument Regex.faultText
  match v with
  | .regex r => .done r
  | .string _ => compile
  | .field _ _ => compile
  | _ => .failAt .invalidArgType argument

/-- Compiles a pattern. -/
def regex (args : List Value) : Action Value :=
  match args with
  | pattern :: _ => do
    let view ← Action.view
    let r ← regexOf 1 (truthOr args 1 false) pattern view.live
    .done (.regex r)
  | _ => .failWith .invalidArgSize

/-- The position of the first match at or after a start, by any matcher. -/
def findWith (matcher : Nat → Option Regex.Match) (text : Array Char) (start : Nat) :
    Action Value :=
  match matcher (min start text.size) with
  | some m =>
    .request (.capture (m.texts text)) fun _ => .done (.number (positionNumber m.whole.start))
  | none => .done (.number notFound)

/-- The position of the first match. -/
def regexFind (args : List Value) : Action Value :=
  match args with
  | text :: pattern :: _ => do
    let view ← Action.view
    let r ← regexOf 2 false pattern view.live
    let chars := (text.text view.live).toList.toArray
    findWith (r.matchFrom chars) chars (numberOr args 2 0).toNat
  | _ => .failWith .invalidArgSize

/-- Whether there is a match. -/
def regexMatch : List Value → Action Value
  | [text, pattern] => do
    let view ← Action.view
    let r ← regexOf 2 false pattern view.live
    let chars := (text.text view.live).toList.toArray
    match r.matchFrom chars 0 with
    | some m => .request (.capture (m.texts chars)) fun _ => .done (.boolean true)
    | none => .done (.boolean false)
  | _ => .failWith .invalidArgSize

/-- Replaces matches, by any matcher. -/
def replaceWith (matcher : Nat → Option Regex.Match) (text : Array Char)
    (template : List Char) (everywhere : Bool) : Action Value :=
  let (result, groups?) := Regex.replaceMatches matcher text template everywhere
  let value := Value.string (String.ofList result)
  match groups? with
  | some groups => .request (.capture groups) fun _ => .done value
  | none => .done value

/-- Replaces the first match or all of them. -/
def regexReplace (args : List Value) : Action Value :=
  match args with
  | text :: pattern :: template :: _ => do
    let view ← Action.view
    let r ← regexOf 2 false pattern view.live
    let chars := (text.text view.live).toList.toArray
    replaceWith (r.matchFrom chars) chars (template.text view.live).toList (truthOr args 3 false)
  | _ => .failWith .invalidArgSize

/-- A group of the last match; a group that is not there is empty. -/
def group : List Value → Action Value
  | [index] => .look fun view => .done (.string (view.captures.getD index.toNumber.toNat ""))
  | _ => .failWith .invalidArgSize

end MailFormula.Behaviour
