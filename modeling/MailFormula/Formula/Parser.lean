import MailFormula.Formula.Draft
import MailFormula.Formula.Printer
import MailFormula.Text.Blank
/-!
# Reading formulas

The second stage of reading turns a draft into a formula: numbers must fit into 32 bits and
regular expressions must compile. The leftmost literal that does not is the one reported.

Offsets count bytes of UTF-8 from the start of the text.
-/

namespace MailFormula

open MailFormula.Lexeme MailFormula.Text

namespace Text

/-- The number of bytes that characters take in UTF-8. -/
def byteLength (cs : List Char) : Nat :=
  cs.foldr (fun c n => c.utf8Size + n) 0

end Text

/-- Why a text is no formula. -/
inductive ParseFault where
  /-- There is nothing but blanks. -/
  | blank
  /-- A string literal is still open at the end. -/
  | openString
  /-- One of these was expected. -/
  | expected (what : List Expected)
  /-- A number literal needs more than 32 bits. -/
  | largeNumber
  /-- A regular expression literal does not compile. -/
  | badRegex
deriving DecidableEq, Repr

/-- A fault with the stretch of the text that it concerns, in bytes. -/
structure ParseError where
  fault : ParseFault
  offset : Nat
  length : Nat
deriving DecidableEq, Repr

/-- What stands for the fault of a regular expression; which fault it is, is not recorded. -/
def Regex.faultText : String := "<regex error>"

namespace ParseFault

/-- A list in words: with commas, and `or` before the last. -/
def listed : List String → String
  | [] => ""
  | [a] => a
  | [a, b] => a ++ " or " ++ b
  | names => String.intercalate ", " names.dropLast ++ ", or " ++ names.getLast?.getD ""

/-- The fault in words. -/
def message : ParseFault → String
  | blank => "empty macro"
  | openString => "unterminated string"
  | expected what =>
    "syntax error: expected " ++
      listed ((Expected.all.filter (fun e => what.contains e)).map Expected.label)
  | largeNumber => "number does not fit in 32 bits"
  | badRegex => "invalid regular expression: " ++ Regex.faultText

end ParseFault

/-- The fault in words. -/
def ParseError.message (e : ParseError) : String := e.fault.message

/-- A literal that cannot be read: its fault, its characters and the text after it. -/
structure BadLiteral where
  fault : ParseFault
  written : List Char
  after : List Char
deriving Repr

mutual
/-- The formula of a draft, or its leftmost bad literal. -/
def Draft.build : Draft → Except BadLiteral Formula
  | .text body => .ok (.text (String.ofList (unescapeString body)))
  | .number digits after =>
    if decimalValue digits < UInt32.size then .ok (.number (UInt32.ofNat (decimalValue digits)))
    else .error ⟨.largeNumber, digits, after⟩
  | .regex body flags after =>
    match Regex.compile? (String.ofList (unescapePattern body)) (String.ofList flags) with
    | some r => .ok (.regex r)
    | none => .error ⟨.badRegex, '/' :: body ++ '/' :: flags, after⟩
  | .field name => .ok (.field (String.ofList name))
  | .var name => .ok (.var (String.ofList name))
  | .call name args =>
    match Draft.buildAll args with
    | .ok fs => .ok (.call (String.ofList name) fs)
    | .error e => .error e

/-- The formulas of several drafts, or the leftmost bad literal among them. -/
def Draft.buildAll : List Draft → Except BadLiteral (List Formula)
  | [] => .ok []
  | d :: ds =>
    match d.build with
    | .error e => .error e
    | .ok f =>
      match Draft.buildAll ds with
      | .error e => .error e
      | .ok fs => .ok (f :: fs)
end

/-- The report of a text that does not match the grammar. -/
def ParseError.ofNotes (text : List Char) (notes : Notes) : ParseError :=
  let fault :=
    if text.all isBlank then .blank
    else if hasOpenString text then .openString
    else .expected notes.expected
  ⟨fault, byteLength text - byteLength notes.rest, 0⟩

/-- The report of a bad literal. -/
def ParseError.ofLiteral (text : List Char) (bad : BadLiteral) : ParseError :=
  ⟨bad.fault, byteLength text - byteLength bad.after - byteLength bad.written,
    byteLength bad.written⟩

/-- Reads a formula from characters. -/
def Formula.parseChars (text : List Char) : Except ParseError Formula :=
  match Draft.read text with
  | .error notes => .error (.ofNotes text notes)
  | .ok draft =>
    match draft.build with
    | .error bad => .error (.ofLiteral text bad)
    | .ok f => .ok f

/-- Reads a formula. -/
def Formula.parse (text : String) : Except ParseError Formula :=
  Formula.parseChars text.toList

/-- A reader of many formulas that remembers the last failure until it is taken. -/
structure FormulaReader where
  lastError : Option ParseError := none
deriving Repr

namespace FormulaReader

/-- Reads one formula; a failure is remembered. -/
def read (r : FormulaReader) (text : String) : Option Formula × FormulaReader :=
  match Formula.parse text with
  | .ok f => (some f, r)
  | .error e => (none, ⟨some e⟩)

/-- Hands out the remembered failure and forgets it. -/
def take (r : FormulaReader) : Option ParseError × FormulaReader :=
  (r.lastError, ⟨none⟩)

end FormulaReader

end MailFormula
