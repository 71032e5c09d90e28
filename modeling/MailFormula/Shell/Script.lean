import MailFormula.Shell.Octets
/-!
# Scripts

What a script says: commands, the words they are made of, and where their streams go. A word is a
list of pieces, because parts of it can be quoted and parts can stand for something else.
-/

namespace MailFormula.Shell

/-- What becomes of a parameter before it is put in. A flag says whether an empty value counts as
none. -/
inductive Form where
  /-- Its value. -/
  | plain
  /-- The length of its value. -/
  | length
  /-- Its value, or a word if it has none. -/
  | orElse (emptyToo : Bool)
  /-- A word, if it has a value. -/
  | ifSet (emptyToo : Bool)
  /-- Its value, which it has to have. -/
  | demand (emptyToo : Bool)
  /-- Its value, or a word that becomes its value. -/
  | assign (emptyToo : Bool)
  /-- Its value without a part that a word matches, at the start or at the end, as short or as long
  as can be. -/
  | trim (atEnd longest : Bool)
  /-- Something that cannot be put in. -/
  | bad
deriving DecidableEq, Repr

/-- How a file is opened. -/
inductive OpenMode where
  | read
  | write
  | append
  | readWrite
deriving DecidableEq, Repr

mutual
/-- A piece of a word. -/
inductive Piece where
  | text (isQuoted : Bool) (cs : Octets)
  | parameter (isQuoted : Bool) (name : Octets) (form : Form) (word : List Piece)
  | output (isQuoted : Bool) (body : List Command)
  | arithmetic (isQuoted : Bool) (word : List Piece)

/-- Where a stream of a command goes. -/
inductive Redirect where
  | file (stream : Nat) (mode : OpenMode) (name : List Piece)
  /-- To where another stream goes. -/
  | copy (stream : Nat) (source : List Piece)
  /-- From a text in the script, known by a number. -/
  | document (stream : Nat) (id : Nat)

/-- A command, and the line it stands on where faults are told with it. -/
inductive Command where
  | simple (line : Nat) (assignments : List (Octets × List Piece)) (words : List (List Piece))
      (redirects : List Redirect)
  | pipeline (commands : List Command)
  | negation (body : Command)
  | both (first second : Command)
  | either (first second : Command)
  | sequence (commands : List Command)
  | background (body : Command)
  | subshell (line : Nat) (body : Command) (redirects : List Redirect)
  | group (line : Nat) (body : Command) (redirects : List Redirect)
  | branch (condition yes : Command) (no : Option Command)
  | loop (isUntil : Bool) (condition body : Command)
  | each (line : Nat) (name : Octets) (words : List (List Piece)) (body : Command)
  | choose (line : Nat) (word : List Piece) (cases : List (List (List Piece) × Command))
  | define (name : Octets) (body : Command)
end

instance : Inhabited Piece := ⟨.text false []⟩

instance : Inhabited Command := ⟨.sequence []⟩

end MailFormula.Shell
