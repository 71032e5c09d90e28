import MailFormula.Formula.Lexeme
/-!
# Drafts

The first stage of reading a formula: the text is matched against the grammar and gives a draft,
a tree whose literals still stand as they were written. Whether a number fits and a regular
expression compiles is the second stage's business, so a draft keeps, for these two literals,
the text that follows them; together with the whole text it says where they stood.

The grammar is predictive: the first character decides what an expression must be. What makes
the stage interesting is the account of a failure. Reading notes, for each place where something
was expected and did not follow, what it was, and keeps the notes of the furthest such place. Since
reading never goes back behind what it has accepted, that is the place it came to last. A place is
named by the text that is left there.
-/

namespace MailFormula

open MailFormula.Lexeme MailFormula.Text

/-- A formula as written, its literals unread. -/
inductive Draft where
  /-- A string by the body between its quotes. -/
  | text (body : List Char)
  /-- A number by its digits, and the text after them. -/
  | number (digits after : List Char)
  /-- A regular expression by its body and flags, and the text after them. -/
  | regex (body flags after : List Char)
  | field (name : List Char)
  | var (name : List Char)
  | call (name : List Char) (args : List Draft)
deriving Repr

/-- What a reader can expect at a place, in the order in which an account lists them. -/
inductive Expected where
  | ending
  | formula
  | call
  | callName
  | name
  | field
  | fieldName
  | var
  | varName
  | string
  | number
  | regex
deriving DecidableEq, Repr

namespace Expected

/-- Everything that can be expected, in order. -/
def all : List Expected :=
  [ending, formula, call, callName, name, field, fieldName, var, varName, string, number, regex]

/-- How an account calls it. -/
def label : Expected → String
  | ending => "EOI"
  | formula => "macro_text"
  | call => "call"
  | callName => "call_name"
  | name => "name"
  | field => "field"
  | fieldName => "field_name"
  | var => "variable"
  | varName => "var_name"
  | string => "string"
  | number => "number"
  | regex => "regex"

end Expected

/-- What was expected at the furthest place where reading was stuck. -/
structure Notes where
  rest : List Char
  expected : List Expected
deriving Repr

/-- A step of reading: what was read and the text after it, if it could be read, and the account
of what was expected on the way. -/
structure Reading (α : Type) where
  result : Option (α × List Char)
  notes : Notes

namespace Draft

/-- Everything an expression can begin with, in the order it is tried. -/
def starts : List Expected := [.callName, .field, .var, .string, .regex, .number]

/-- The alternatives that are tried before and not after one of them succeeds. -/
def startsBefore (e : Expected) : List Expected := starts.takeWhile (· != e)

/-- Reads arguments after the first, each after a comma, up to the closing parenthesis. The account
is that of the last argument that was tried. -/
def readMore (one : List Char → Reading Draft) :
    Nat → List Draft → Notes → List Char → Reading (List Draft)
  | 0, _, notes, _ => ⟨none, notes⟩
  | rounds + 1, args, notes, cs =>
    match skip cs with
    | ',' :: rest =>
      let next := one (skip rest)
      match next.result with
      | some (arg, after) => readMore one rounds (arg :: args) next.notes after
      | none => ⟨none, next.notes⟩
    | ')' :: rest => ⟨some (args.reverse, rest), notes⟩
    | _ => ⟨none, notes⟩

/-- Reads the arguments of a call, from after its opening parenthesis. -/
def readArgs (one : List Char → Reading Draft) (rounds : Nat) (cs : List Char) :
    Reading (List Draft) :=
  let first := one (skip cs)
  match first.result with
  | some (arg, after) => readMore one rounds [arg] first.notes after
  | none =>
    match skip cs with
    | ')' :: rest => ⟨some ([], rest), first.notes⟩
    | _ => ⟨none, first.notes⟩

/-- Reads a name of at least one character. -/
def readName (isChar : Char → Bool) (cs : List Char) : Option (List Char × List Char) :=
  match cs.takeWhile isChar with
  | [] => none
  | name => some (name, cs.dropWhile isChar)

/-- Reads one expression at the start of the text. Each call inside a call takes one level, and each
argument of a call one round, so the length of the text is always enough for both. -/
def readOne (rounds : Nat) : Nat → List Char → Reading Draft
  | levels, cs =>
    match cs with
    | [] => ⟨none, ⟨cs, starts⟩⟩
    | c :: rest =>
      if c == '@' then
        match rest with
        | d :: _ =>
          if isNameStart d then
            match levels with
            | 0 => ⟨none, ⟨cs, starts⟩⟩
            | levels + 1 =>
              let name := rest.takeWhile isNameChar
              match skip (rest.dropWhile isNameChar) with
              | '(' :: inner =>
                let args := readArgs (readOne rounds levels) rounds inner
                match args.result with
                | some (args', after) => ⟨some (call name args', after), args.notes⟩
                | none => ⟨none, args.notes⟩
              | _ => ⟨none, ⟨cs, Expected.call :: starts.drop 1⟩⟩
          else ⟨none, ⟨rest, [.name]⟩⟩
        | [] => ⟨none, ⟨rest, [.name]⟩⟩
      else if c == '%' then
        match readName isNameChar rest with
        | some (name, after) => ⟨some (field name, after), ⟨cs, startsBefore .field⟩⟩
        | none => ⟨none, ⟨rest, [.fieldName]⟩⟩
      else if c == '$' then
        match readName isVarChar rest with
        | some (name, after) => ⟨some (var name, after), ⟨cs, startsBefore .var⟩⟩
        | none => ⟨none, ⟨rest, [.varName]⟩⟩
      else if c == '\'' || c == '"' then
        match readString c rest with
        | some (body, after) => ⟨some (text body, after), ⟨cs, startsBefore .string⟩⟩
        | none => ⟨none, ⟨cs, starts⟩⟩
      else if c == '/' then
        match readPattern rest with
        | some (body, after) =>
          ⟨some (regex body (after.takeWhile isFlagChar) (after.dropWhile isFlagChar),
            after.dropWhile isFlagChar), ⟨cs, startsBefore .regex⟩⟩
        | none => ⟨none, ⟨cs, starts⟩⟩
      else if isAsciiDigit c then
        ⟨some (number (cs.takeWhile isAsciiDigit) (cs.dropWhile isAsciiDigit),
          cs.dropWhile isAsciiDigit), ⟨cs, startsBefore .number⟩⟩
      else ⟨none, ⟨cs, starts⟩⟩

/-- The place where a whole text is stuck and what was expected there. When that is the very start,
the account is of the formula as a whole. -/
def account (text : List Char) (notes : Notes) : Notes :=
  if notes.rest.length < text.length then notes else ⟨text, [.formula]⟩

/-- Reads a whole text: one expression, with blanks and comments around it. -/
def read (text : List Char) : Except Notes Draft :=
  let reading := readOne text.length text.length (skip text)
  match reading.result with
  | some (draft, after) =>
    match skip after with
    | [] => .ok draft
    | rest => .error ⟨rest, [.ending]⟩
  | none => .error (account text reading.notes)

end Draft

end MailFormula
