import MailFormula.Regex.Pattern
import MailFormula.Regex.Property
/-!
# Matching programs

A pattern is compiled into a list of instructions for a machine that runs all ways to match side
by side, one character at a time. The order of the running ways is their preference, so the first
one to reach `accept` is the match that the pattern asks for, and every way behind it is dropped.
A way is a program counter and the places where groups began and ended. At one position only the
first way to reach an instruction is kept, which bounds the work by the length of the program.

A repetition whose body can match the empty text needs care: written as a plain loop it would try
the ways through the body in the wrong order, so it becomes at least one round, made optional.
-/

namespace MailFormula.Regex

open MailFormula.Text

/-- An instruction. Targets are places in the program. -/
inductive Inst where
  /-- Consume one character of the set and go on with the next instruction. -/
  | char (table : Array CodeRange)
  /-- Go on in both places, the first preferred. -/
  | fork (first second : Nat)
  /-- Go on elsewhere. -/
  | jump (target : Nat)
  /-- Go on if the position is as required. -/
  | look (l : Look)
  /-- Remember the position. -/
  | save (slot : Nat)
  /-- The match is complete. -/
  | accept
deriving Repr

/-- The number of instructions of a repeated body of `size` instructions. -/
def repetitionSize (size : Nat) (least : Nat) : Option Nat → Nat
  | none => if least = 0 then size + 2 else least * size + 1
  | some most => least * size + (most - least) * (size + 1)

/-- The number of instructions of a pattern. -/
def instCount : Pattern → Nat
  | .empty => 0
  | .set _ => 1
  | .look _ => 1
  | .seq p q => instCount p + instCount q
  | .choice p q => instCount p + instCount q + 2
  | .repetition p least most _ => repetitionSize (instCount p) least most
  | .group _ p => instCount p + 2

/-- A fork that prefers the body when greedy and the way out otherwise. -/
def forkBy (greedy : Bool) (body out : Nat) : Inst :=
  if greedy then .fork body out else .fork out body

/-- `count` copies of a body of `size` instructions from place `base` on. -/
def copies (body : Nat → List Inst) (size : Nat) : Nat → Nat → List Inst
  | 0, _ => []
  | count + 1, base => body base ++ copies body size count (base + size)

/-- `count` nested optional copies of a body; a copy not taken leads to `out`. -/
def optionalCopies (body : Nat → List Inst) (size : Nat) (greedy : Bool) (out : Nat) :
    Nat → Nat → List Inst
  | 0, _ => []
  | count + 1, base =>
    forkBy greedy (base + 1) out :: body (base + 1) ++
      optionalCopies body size greedy out count (base + 1 + size)

/-- A repeated body from place `base` on. -/
def repetitionCode (body : Nat → List Inst) (size : Nat) (canBeEmpty : Bool) (least : Nat)
    (most : Option Nat) (greedy : Bool) (base : Nat) : List Inst :=
  match most with
  | none =>
    if least = 0 then
      if canBeEmpty then
        forkBy greedy (base + 1) (base + size + 2) :: body (base + 1) ++
          [forkBy greedy (base + 1) (base + size + 2)]
      else
        forkBy greedy (base + 1) (base + size + 2) :: body (base + 1) ++ [.jump base]
    else
      let last := base + (least - 1) * size
      copies body size least base ++ [forkBy greedy last (last + size + 1)]
  | some most =>
    let optional := base + least * size
    copies body size least base ++
      optionalCopies body size greedy (optional + (most - least) * (size + 1)) (most - least)
        optional

/-- The instructions of a pattern from place `base` on. -/
def instsOf : Pattern → Nat → List Inst
  | .empty, _ => []
  | .set s, _ => [.char s.ranges.toArray]
  | .look l, _ => [.look l]
  | .seq p q, base => instsOf p base ++ instsOf q (base + instCount p)
  | .choice p q, base =>
    let second := base + instCount p + 2
    .fork (base + 1) second :: instsOf p (base + 1) ++
      .jump (second + instCount q) :: instsOf q second
  | .repetition p least most greedy, base =>
    repetitionCode (instsOf p) (instCount p) (p.minLength == 0) least most greedy base
  | .group i p, base =>
    .save (2 * i) :: instsOf p (base + 1) ++ [.save (2 * i + 1)]

/-- A compiled pattern: its instructions and the number of its groups, the whole match
included. -/
structure Program where
  code : Array Inst
  groups : Nat
deriving Repr

/-- Compiles a pattern. -/
def Program.ofPattern (p : Pattern) : Program :=
  ⟨(instsOf p 0 ++ [Inst.accept]).toArray, p.lastGroup + 1⟩

/-! ## Running a program -/

/-- One way to match: where it stands and the positions it has remembered. -/
structure Way where
  pc : Nat
  slots : Array (Option Nat)
deriving Repr

/-- Whether an optional character is a word character. -/
def wordAt (ascii : Bool) (c : Option Char) : Bool :=
  match c with
  | none => false
  | some c => if ascii then isAsciiWordChar c else isWordChar c

/-- Whether a condition holds between two characters. -/
def Look.holds (l : Look) (before after : Option Char) : Bool :=
  match l with
  | .textStart => before.isNone
  | .textEnd => after.isNone
  | .lineStart false => before.isNone || before == some '\n'
  | .lineStart true =>
    before.isNone || before == some '\n' || (before == some '\r' && after != some '\n')
  | .lineEnd false => after.isNone || after == some '\n'
  | .lineEnd true =>
    after.isNone || after == some '\r' || (after == some '\n' && before != some '\r')
  | .wordEdge ascii => wordAt ascii before != wordAt ascii after
  | .notWordEdge ascii => wordAt ascii before == wordAt ascii after
  | .wordStart ascii => !wordAt ascii before && wordAt ascii after
  | .wordEnd ascii => wordAt ascii before && !wordAt ascii after
  | .wordStartHalf ascii => !wordAt ascii before
  | .wordEndHalf ascii => !wordAt ascii after

/-- The ways that can consume a character or accept, reached from the stack in order of
preference. `seen` marks the instructions already reached at this position, and `rounds` bounds
the work: a place pushes at most two others and only when it is first reached. -/
def follow (code : Array Inst) (pos : Nat) (before after : Option Char) :
    Nat → List Way → Array Bool → List Way → Array Bool × List Way
  | 0, _, seen, ready => (seen, ready)
  | _ + 1, [], seen, ready => (seen, ready)
  | rounds + 1, way :: stack, seen, ready =>
    if seen.getD way.pc true then follow code pos before after rounds stack seen ready
    else
      let seen := seen.setIfInBounds way.pc true
      match code[way.pc]? with
      | none => follow code pos before after rounds stack seen ready
      | some (.char _) => follow code pos before after rounds stack seen (way :: ready)
      | some .accept => follow code pos before after rounds stack seen (way :: ready)
      | some (.fork a b) =>
        follow code pos before after rounds (⟨a, way.slots⟩ :: ⟨b, way.slots⟩ :: stack) seen ready
      | some (.jump a) => follow code pos before after rounds (⟨a, way.slots⟩ :: stack) seen ready
      | some (.look l) =>
        if l.holds before after then
          follow code pos before after rounds (⟨way.pc + 1, way.slots⟩ :: stack) seen ready
        else follow code pos before after rounds stack seen ready
      | some (.save slot) =>
        follow code pos before after rounds
          (⟨way.pc + 1, way.slots.setIfInBounds slot (some pos)⟩ :: stack) seen ready

/-- Lets the ready ways consume a character, in order of preference. The first way that accepts
ends the round: its slots become the best match and the ways behind it are dropped. -/
def consume (code : Array Inst) (next : Option Char) (pos : Nat) :
    List Way → Option (Array (Option Nat)) → List Way × Option (Array (Option Nat))
  | [], best => ([], best)
  | way :: ways, best =>
    match code[way.pc]? with
    | some .accept => ([], some (way.slots.setIfInBounds 1 (some pos)))
    | some (.char table) =>
      let (moved, best) := consume code next pos ways best
      match next with
      | some c =>
        if inRanges table c then (⟨way.pc + 1, way.slots⟩ :: moved, best) else (moved, best)
      | none => (moved, best)
    | _ => consume code next pos ways best

/-- What one position makes of the ways that reach it: the ways that go on behind the next
character, and the best match so far. As long as nothing has matched, a new way starts at every
position, behind all others. -/
def visit (program : Program) (before next : Option Char) (pos : Nat) (ways : List Way)
    (best : Option (Array (Option Nat))) : List Way × Option (Array (Option Nat)) :=
  let size := program.code.size
  let fresh : Way := ⟨0, (Array.replicate (2 * program.groups) none).setIfInBounds 0 (some pos)⟩
  let seeds := if best.isNone then ways ++ [fresh] else ways
  let (_, ready) := follow program.code pos before next (2 * size + seeds.length + 1) seeds
    (Array.replicate size false) []
  consume program.code next pos ready.reverse best

/-- Runs the machine over a text from a position on. -/
def advance (program : Program) (text : Array Char) (before : Option Char) (pos : Nat)
    (ways : List Way) (best : Option (Array (Option Nat))) : Option (Array (Option Nat)) :=
  if h : pos < text.size then
    let c := text[pos]
    let (moved, best) := visit program before (some c) pos ways best
    if moved.isEmpty && best.isSome then best
    else advance program text (some c) (pos + 1) moved best
  else (visit program before none pos ways best).2
termination_by text.size - pos

/-- A stretch of a text, from one character position up to another. -/
structure Span where
  start : Nat
  stop : Nat
deriving DecidableEq, Repr

/-- A match: where it lies, and where its groups lie, group 1 first. -/
structure Match where
  whole : Span
  groups : List (Option Span)
deriving DecidableEq, Repr

/-- The span that two slots hold. -/
def spanAt (slots : Array (Option Nat)) (group : Nat) : Option Span :=
  match slots[2 * group]?, slots[2 * group + 1]? with
  | some (some a), some (some b) => some ⟨a, b⟩
  | _, _ => none

/-- The leftmost match that starts at or after a position. Characters before the position are
seen by assertions. -/
def Program.matchFrom (program : Program) (text : Array Char) (start : Nat) : Option Match :=
  if text.size < start then none
  else do
    let before := if start = 0 then none else text[start - 1]?
    let slots ← advance program text before start [] none
    let whole ← spanAt slots 0
    some ⟨whole, (List.range (program.groups - 1)).map (fun i => spanAt slots (i + 1))⟩

end MailFormula.Regex
