import MailFormula.Regex.CharSet
/-!
# Patterns

The meaning of a regular expression as a tree: sets of characters, assertions on a position,
groups, sequences, choices and repetitions. Choices and repetitions are ordered: of all matches
at the leftmost place the one is taken that prefers the earlier alternative and, in a greedy
repetition, one more round.
-/

namespace MailFormula.Regex

/-- A condition on a position between two characters. -/
inductive Look where
  /-- The start of the text. -/
  | textStart
  /-- The end of the text. -/
  | textEnd
  /-- The start of a line; with the flag, a carriage return ends a line too. -/
  | lineStart (crlf : Bool)
  /-- The end of a line; with the flag, a carriage return ends a line too. -/
  | lineEnd (crlf : Bool)
  /-- Between a word character and another; with the flag, only ASCII characters make words. -/
  | wordEdge (ascii : Bool)
  /-- Not between a word character and another. -/
  | notWordEdge (ascii : Bool)
  /-- Before a word. -/
  | wordStart (ascii : Bool)
  /-- After a word. -/
  | wordEnd (ascii : Bool)
  /-- Not after a word character. -/
  | wordStartHalf (ascii : Bool)
  /-- Not before a word character. -/
  | wordEndHalf (ascii : Bool)
deriving DecidableEq, Repr

/-- A regular expression. -/
inductive Pattern where
  /-- The empty text. -/
  | empty
  /-- One character of a set. -/
  | set (s : CharSet)
  /-- A condition on the position. -/
  | look (l : Look)
  /-- The first, then the second. -/
  | seq (p q : Pattern)
  /-- The first or else the second. -/
  | choice (p q : Pattern)
  /-- Between `least` and `most` rounds, as many as possible when greedy. -/
  | repetition (p : Pattern) (least : Nat) (most : Option Nat) (greedy : Bool)
  /-- A group whose text is remembered under its number. -/
  | group (index : Nat) (p : Pattern)
deriving DecidableEq, Repr

namespace Pattern

/-- The length of the shortest text that the pattern can match. -/
def minLength : Pattern → Nat
  | empty => 0
  | set _ => 1
  | look _ => 0
  | seq p q => p.minLength + q.minLength
  | choice p q => Nat.min p.minLength q.minLength
  | repetition p least _ _ => least * p.minLength
  | group _ p => p.minLength

/-- Whether the pattern matches the empty text only. -/
def matchesNothing : Pattern → Bool
  | empty => true
  | set _ => false
  | look _ => true
  | seq p q => p.matchesNothing && q.matchesNothing
  | choice p q => p.matchesNothing && q.matchesNothing
  | repetition p _ most _ => p.matchesNothing || most == some 0
  | group _ p => p.matchesNothing

/-- The greatest number of a group. -/
def lastGroup : Pattern → Nat
  | empty => 0
  | set _ => 0
  | look _ => 0
  | seq p q => Nat.max p.lastGroup q.lastGroup
  | choice p q => Nat.max p.lastGroup q.lastGroup
  | repetition p _ _ _ => p.lastGroup
  | group i p => Nat.max i p.lastGroup

/-- A repetition in its simplest form. A body that matches the empty text only is tried at most
once; no round at all is the empty pattern, and then the body's groups are gone; one round is
the body itself. -/
def repeated (p : Pattern) (least : Nat) (most : Option Nat) (greedy : Bool) : Pattern :=
  let least' := if p.matchesNothing then Nat.min least 1 else least
  let most' := if p.matchesNothing then some (Nat.min (most.getD 1) 1) else most
  if least' == 0 && most' == some 0 then empty
  else if least' == 1 && most' == some 1 then p
  else repetition p least' most' greedy

/-- The parts of a sequence, from left to right. -/
def parts : Pattern → List Pattern
  | empty => []
  | seq p q => p.parts ++ q.parts
  | p => [p]

/-- The alternatives of a choice, the preferred first. -/
def branches : Pattern → List Pattern
  | choice p q => p.branches ++ q.branches
  | p => [p]

/-- Patterns, none of them empty or a sequence, one after the other. -/
def join : List Pattern → Pattern
  | [] => empty
  | [p] => p
  | p :: ps => seq p (join ps)

/-- The patterns one after the other. -/
def sequence (ps : List Pattern) : Pattern := join (ps.flatMap parts)

/-- The character that a pattern stands for, if it is one character and nothing else. -/
def literal? : Pattern → Option Nat
  | set ⟨[r]⟩ => if r.lo = r.hi then some r.lo else none
  | _ => none

/-- The set of a pattern that is a set of several characters or of none. -/
def class? (p : Pattern) : Option CharSet :=
  match p with
  | set s => if p.literal?.isSome then none else some s
  | _ => none

/-- A piece of a sequence: a run of characters, or anything else. -/
inductive Piece where
  /-- Characters that follow one another. -/
  | run (codes : List Nat)
  /-- Another part. -/
  | part (p : Pattern)
deriving DecidableEq, Repr

/-- The pieces of a sequence, runs as long as possible. -/
def pieces : List Pattern → List Piece
  | [] => []
  | p :: ps =>
    match p.literal?, pieces ps with
    | some c, .run codes :: rest => .run (c :: codes) :: rest
    | some c, rest => .run [c] :: rest
    | none, rest => .part p :: rest

/-- How many parts a piece is made of. -/
def Piece.size : Piece → Nat
  | .run codes => codes.length
  | .part _ => 1

/-- The pieces at the head of both lists. -/
def commonPieces : List Piece → List Piece → List Piece
  | a :: as, b :: bs => if a = b then a :: commonPieces as bs else []
  | _, _ => []

/-- How many parts all branches begin with alike. A branch of a single piece shares nothing. -/
def sharedParts (bs : List Pattern) : Nat :=
  let cut := bs.map fun b => pieces b.parts
  match cut with
  | first :: rest =>
    if cut.all (fun ps => 2 ≤ ps.length) then
      ((rest.foldl commonPieces first).map Piece.size).foldr (· + ·) 0
    else 0
  | [] => 0

/-- Patterns as alternatives, none of them a choice and without regard to what they share. -/
def choose : List Pattern → Pattern
  | [] => empty
  | [p] => p
  | p :: ps => choice p (choose ps)

/-- Alternatives that are all single characters, or all sets, as one set. -/
def mergeSets? (bs : List Pattern) : Option Pattern :=
  if bs.length < 2 then none
  else if bs.all (fun b => b.literal?.isSome) then
    some (set (CharSet.ofRanges (bs.filterMap fun b => b.literal?.map fun c => ⟨c, c⟩)))
  else if bs.all (fun b => b.class?.isSome) then
    some (set (CharSet.ofRanges (bs.flatMap fun b => (b.class?.getD .none).ranges)))
  else none

/-- The flat alternatives `bs`. Sets are merged, and what all branches begin with is written once;
what then follows it are alternatives again, at most `rounds` times. -/
def chooseShared : Nat → List Pattern → Pattern
  | 0, bs => choose bs
  | rounds + 1, bs =>
    match mergeSets? bs with
    | some p => p
    | none =>
      match sharedParts bs with
      | 0 => choose bs
      | n =>
        let front := (bs.headD empty).parts.take n
        let tails := bs.flatMap fun b => (join (b.parts.drop n)).branches
        join (front ++ (chooseShared rounds tails).parts)

/-- The patterns as alternatives, the earlier preferred. -/
def alternatives (ps : List Pattern) : Pattern :=
  let flat := ps.flatMap branches
  chooseShared (flat.length + 1) flat

end Pattern

end MailFormula.Regex
