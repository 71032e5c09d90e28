import MailFormula.Text.Ascii
/-!
# Lexemes

The smallest pieces of a formula's text, over the list of its characters: what may be skipped
between two tokens, what a name is made of, where a quoted literal ends, and what its escapes
stand for.

A quoted body is a run of ordinary characters and of pairs of a backslash with any character, up
to the closing mark. Two kinds differ in one point: a regular expression may not run over the end
of a line, unless a backslash stands before it.
-/

namespace MailFormula.Lexeme

open MailFormula.Text

/-- A blank between two tokens. -/
def isSpace (c : Char) : Bool :=
  c == ' ' || c == '\t' || c == '\r' || c == '\n'

/-- Skips blanks and comments. A comment runs from a number sign to the end of its line. -/
def skipFrom (inComment : Bool) : List Char → List Char
  | [] => []
  | c :: cs =>
    if inComment then skipFrom (c != '\n') cs
    else if isSpace c then skipFrom false cs
    else if c == '#' then skipFrom true cs
    else c :: cs

/-- Skips the blanks and comments before a token. -/
def skip (cs : List Char) : List Char := skipFrom false cs

/-- A character that may begin the name of a function. -/
def isNameStart (c : Char) : Bool := isAsciiAlpha c || c == '_'

/-- A character of the name of a function or of a field. -/
def isNameChar (c : Char) : Bool := isAsciiAlphanumeric c || c == '_' || c == '-'

/-- A character of the name of a variable. -/
def isVarChar (c : Char) : Bool := isAsciiAlphanumeric c || c == '_'

/-- A flag letter of a regular expression. -/
def isFlagChar (c : Char) : Bool := c == 'i' || c == 'm' || c == 's' || c == 'x'

/-- The characters up to the closing mark and the rest after it; `none` when the text ends
first, or when a character ends the literal that `stops` forbids. -/
def readQuoted (close : Char) (stops : Char → Bool) : List Char → Option (List Char × List Char)
  | [] => none
  | c :: cs =>
    if c == close then some ([], cs)
    else if c == '\\' then
      match cs with
      | [] => none
      | d :: ds => (readQuoted close stops ds).map fun (body, rest) => (c :: d :: body, rest)
    else if stops c then none
    else (readQuoted close stops cs).map fun (body, rest) => (c :: body, rest)

/-- The body of a string literal and what follows its closing quote. -/
def readString (quote : Char) (cs : List Char) : Option (List Char × List Char) :=
  readQuoted quote (fun _ => false) cs

/-- The body of a regular expression literal and what follows its closing slash. -/
def readPattern (cs : List Char) : Option (List Char × List Char) :=
  readQuoted '/' (· == '\n') cs

/-- What the body of a string literal stands for. An escape without a meaning of its own stands
for itself, backslash included. -/
def unescapeString : List Char → List Char
  | [] => []
  | c :: cs =>
    if c == '\\' then
      match cs with
      | [] => ['\\']
      | d :: ds =>
        if d == 'n' then '\n' :: unescapeString ds
        else if d == 'r' then '\r' :: unescapeString ds
        else if d == 't' then '\t' :: unescapeString ds
        else if d == '\\' || d == '\'' || d == '"' then d :: unescapeString ds
        else '\\' :: d :: unescapeString ds
    else c :: unescapeString cs

/-- What the body of a regular expression literal stands for: an escaped slash is a slash, and
every other escape belongs to the pattern. -/
def unescapePattern : List Char → List Char
  | [] => []
  | c :: cs =>
    if c == '\\' then
      match cs with
      | [] => ['\\']
      | d :: ds => if d == '/' then '/' :: unescapePattern ds else '\\' :: d :: unescapePattern ds
    else c :: unescapePattern cs

/-- The body of a string literal that stands for these characters. -/
def escapeString : List Char → List Char
  | [] => []
  | c :: cs =>
    if c == '\\' then '\\' :: '\\' :: escapeString cs
    else if c == '\'' then '\\' :: '\'' :: escapeString cs
    else if c == '\n' then '\\' :: 'n' :: escapeString cs
    else if c == '\r' then '\\' :: 'r' :: escapeString cs
    else if c == '\t' then '\\' :: 't' :: escapeString cs
    else c :: escapeString cs

/-- The body of a regular expression literal for a pattern: bare slashes are escaped, and a
backslash keeps the character after it. -/
def escapePattern : List Char → List Char
  | [] => []
  | c :: cs =>
    if c == '\\' then
      match cs with
      | [] => ['\\']
      | d :: ds => '\\' :: d :: escapePattern ds
    else if c == '/' then '\\' :: '/' :: escapePattern cs
    else c :: escapePattern cs

/-- Where a scan over a text stands: outside literals, in a comment, or inside a literal with
this closing mark. -/
inductive ScanState where
  | plain
  | comment
  | quoted (close : Char)
deriving DecidableEq, Repr

/-- Scans a text for literals and comments without reading a formula. -/
def scan : ScanState → List Char → ScanState
  | state, [] => state
  | .plain, c :: cs =>
    if c == '\'' || c == '"' || c == '/' then scan (.quoted c) cs
    else if c == '#' then scan .comment cs
    else scan .plain cs
  | .comment, c :: cs => if c == '\n' then scan .plain cs else scan .comment cs
  | .quoted close, c :: cs =>
    if c == '\\' then
      match cs with
      | [] => .quoted close
      | _ :: ds => scan (.quoted close) ds
    else if c == close then scan .plain cs
    else scan (.quoted close) cs

/-- Whether a string literal is still open at the end of a text. -/
def hasOpenString (cs : List Char) : Bool :=
  match scan .plain cs with
  | .quoted close => close == '\'' || close == '"'
  | _ => false

end MailFormula.Lexeme
