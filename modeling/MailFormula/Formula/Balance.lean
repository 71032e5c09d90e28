import MailFormula.Formula.Lexeme
import MailFormula.Text.Blank
/-!
# Complete texts

While a formula is typed line by line, something has to say when it is finished. A text counts as
complete when its parentheses balance outside literals and comments and no literal is open. The
scan is the one that finds open strings, with a count of parentheses beside it
(`balance_fst`).
-/

namespace MailFormula.Lexeme

open MailFormula.Text

/-- Scans a text for literals and comments and counts parentheses outside them: one up for each
that opens, one down for each that closes. -/
def balance : ScanState → Int → List Char → ScanState × Int
  | state, depth, [] => (state, depth)
  | .plain, depth, c :: cs =>
    if c == '\'' || c == '"' || c == '/' then balance (.quoted c) depth cs
    else if c == '#' then balance .comment depth cs
    else if c == '(' then balance .plain (depth + 1) cs
    else if c == ')' then balance .plain (depth - 1) cs
    else balance .plain depth cs
  | .comment, depth, c :: cs =>
    if c == '\n' then balance .plain depth cs else balance .comment depth cs
  | .quoted close, depth, c :: cs =>
    if c == '\\' then
      match cs with
      | [] => (.quoted close, depth)
      | _ :: ds => balance (.quoted close) depth ds
    else if c == close then balance .plain depth cs
    else balance (.quoted close) depth cs

/-- Whether a text is complete: something is written, no literal is open, and no parenthesis waits
for its partner. -/
def isComplete (cs : List Char) : Bool :=
  match trimChars cs with
  | [] => false
  | trimmed =>
    match balance .plain 0 trimmed with
    | (.quoted _, _) => false
    | (_, depth) => depth ≤ 0

/-! ## Small lemmas -/

/-- Counting parentheses does not change where the scan stands. -/
theorem balance_fst (state : ScanState) (depth : Int) (cs : List Char) :
    (balance state depth cs).1 = scan state cs := by
  fun_induction balance state depth cs with
  | case1 => rw [scan.eq_def]
  | _ => rw [scan.eq_def]; simp_all

end MailFormula.Lexeme
