import MailFormula.Shell.Script
/-!
# The text of a script

A script is read from its start, one command at a time, and what the next characters mean depends on
the command under way. This module holds the state of the reader, the tokens, and the words in which
a script is refused. A backslash before the end of a line joins the next line to it.
-/

namespace MailFormula.Shell

open MailFormula.Text

/-- What a redirection asks for, before its target is read. -/
inductive RedirectKind where
  | file (mode : OpenMode)
  | copy
  | document (stripTabs : Bool)
deriving DecidableEq, Repr

/-- A token of a script. -/
inductive Token where
  | word (pieces : List Piece) (isQuoted : Bool)
  | keyword (name : String)
  | redirect (stream : Nat) (kind : RedirectKind)
  | newline
  | finish
  | semicolon
  | ampersand
  | both
  | either
  | pipe
  | openParen
  | closeParen
  | endCase

/-- The words with a meaning of their own. -/
def keywords : List String :=
  ["!", "case", "do", "done", "elif", "else", "esac", "fi", "for", "if", "in", "then", "until",
    "while", "\x7b", "\x7d"]

/-- A token in the words of a refusal. -/
def Token.name : Token → String
  | word _ _ => "word"
  | keyword w => "\"" ++ w ++ "\""
  | redirect _ _ => "redirection"
  | newline => "newline"
  | finish => "end of file"
  | semicolon => "\";\""
  | ampersand => "\"&\""
  | both => "\"&&\""
  | either => "\"||\""
  | pipe => "\"|\""
  | openParen => "\"(\""
  | closeParen => "\")\""
  | endCase => "\";;\""

/-- Whether a token is this keyword. -/
def Token.isKeyword (w : String) : Token → Bool
  | keyword v => v == w
  | _ => false

/-- Whether a list of commands ends before a token. -/
def Token.endsList : Token → Bool
  | finish | closeParen | endCase => true
  | keyword w => ["do", "done", "elif", "else", "esac", "fi", "then", "\x7d"].contains w
  | _ => false

/-- The token as a keyword, if it is written as one and nothing in it is quoted. -/
def Token.asKeyword : Token → Token
  | word [.text false cs] false =>
    if keywords.contains (asText cs) then .keyword (asText cs) else .word [.text false cs] false
  | t => t

/-- A document that a redirection has announced: its number, the line that ends it, whether its text
stands for itself, and whether tabs are dropped at the start of its lines. -/
structure PendingDocument where
  id : Nat
  mark : Octets
  isLiteral : Bool
  stripTabs : Bool

/-- How far a script has been read. -/
structure Source where
  rest : Octets
  line : Nat := 1
  /-- A token that has been read and put back. -/
  ahead : Option Token := none
  /-- The documents that start after this line. -/
  pending : List PendingDocument := []
  /-- The documents read, by their numbers. -/
  documents : List (Nat × List Piece) := []
  /-- How many documents have been announced. -/
  count : Nat := 0

/-- Why a text is no script, and on which line that shows. -/
structure Refusal where
  line : Nat
  message : String

/-- Reading a part of a script. -/
abbrev Read := StateT Source (Except Refusal)

/-- Refuses the script. -/
def refuse {α : Type} (message : String) : Read α := do
  throw { line := (← get).line, message := "Syntax error: " ++ message }

/-- Refuses a token. -/
def unexpected {α : Type} (t : Token) : Read α := refuse (t.name ++ " unexpected")

/-- Refuses a token where another one is needed. -/
def expected {α : Type} (t : Token) (wanted : String) : Read α :=
  refuse (t.name ++ " unexpected (expecting " ++ wanted ++ ")")

/-- Drops the joints between lines that stand here, and counts the lines. -/
def dropJoints (line : Nat) : Octets → Nat × Octets
  | '\\' :: '\n' :: rest => dropJoints (line + 1) rest
  | cs => (line, cs)

/-- Goes to the next character. -/
def settle : Read Unit :=
  modify fun s =>
    let (line, rest) := dropJoints s.line s.rest
    { s with line, rest }

/-- The next character. -/
def peek : Read (Option Char) := do
  settle
  return (← get).rest.head?

/-- Passes so many characters, none of which ends a line. -/
def skip (n : Nat) : Read Unit := modify fun s => { s with rest := s.rest.drop n }

/-- Passes the next character if it is this one. -/
def skipIf (c : Char) : Read Bool := do
  if (← peek) == some c then
    skip 1
    return true
  else return false

/-- Passes the end of a line. -/
def skipNewline : Read Unit := modify fun s => { s with rest := s.rest.drop 1, line := s.line + 1 }

/-- Takes characters of a kind; joints between lines may stand among them. `steps` bounds the
joints. -/
def takeKind (p : Char → Bool) : Nat → Read Octets
  | 0 => return []
  | steps + 1 => do
    settle
    let cs := (← get).rest.takeWhile p
    if cs.isEmpty then return []
    else
      skip cs.length
      return cs ++ (← takeKind p steps)

/-- Takes a run of characters of a kind, without looking for joints inside it. -/
def takeRun (p : Char → Bool) : Read Octets := do
  let cs := (← get).rest.takeWhile p
  skip cs.length
  return cs

/-- Puts a token back. -/
def putBack (t : Token) : Read Unit := modify fun s => { s with ahead := some t }

/-! ## Documents -/

/-- The line that a text starts with, and the rest after its end, if it has one. -/
def firstLine (cs : Octets) : Octets × Option Octets :=
  let line := cs.takeWhile (· ≠ '\n')
  match cs.drop line.length with
  | [] => (line, none)
  | _ :: rest => (line, some rest)

/-- Whether a line is joined to the next one: it ends with an odd number of backslashes. -/
def isJoined (line : Octets) : Bool := (line.reverse.takeWhile (· = '\\')).length % 2 == 1

/-- Takes the lines up to the mark of a document. A line that is joined to the one before is never
the mark. Gives the text, how many lines were passed, and the rest; `steps` bounds the lines. -/
def takeDocument (d : PendingDocument) (joined : Bool) : Nat → Octets → Octets × Nat × Octets
  | 0, cs => ([], 0, cs)
  | steps + 1, cs =>
    if cs.isEmpty then ([], 0, [])
    else
      let cs := if d.stripTabs && !joined then cs.dropWhile (· = '\t') else cs
      let (line, rest) := firstLine cs
      if line == d.mark && !joined then ([], 1, rest.getD [])
      else
        match rest with
        | none => (line, 0, [])
        | some rest =>
          let (more, count, after) := takeDocument d (!d.isLiteral && isJoined line) steps rest
          (line ++ '\n' :: more, count + 1, after)

end MailFormula.Shell
