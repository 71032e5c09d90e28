import MailFormula.Regex.ByteRun
import MailFormula.Regex.Pattern
/-!
# The room that a pattern takes

A pattern can ask for more copies of its parts than anyone wants to run, so a pattern whose
machine would be too large is refused. The measure is the size in memory of a machine over bytes
that reads the text forward, and of one that reads it backward; each has to fit.

A machine is a list of states of fixed size, some of which also hold a list: the transitions of a
state that tells several bytes apart, or the targets of a fork. Only the sizes are computed, not the
machine. What makes this more than a sum is that the states of one character set are shared: states
with equal transitions are one state as long as a small table remembers them, and a table slot is
taken over by whatever falls on it later. Which states fall on one slot depends on the numbers of
the states, so states are numbered as they would be in the machine.

A pattern is turned into a `Plan` first, in which the byte sequences of every set are worked out, so
that a set of which there are many copies is taken apart only once.
-/

namespace MailFormula.Regex

open MailFormula.Text

/-- What has been laid out so far: the number of states, and the bytes that their lists take. -/
structure Room where
  states : Nat
  listed : Nat
deriving DecidableEq, Repr

namespace Room

/-- The size of a state without its list. -/
def stateSize : Nat := 32

/-- The size of one transition in a list. -/
def transitionSize : Nat := 8

/-- The size of one target in a list. -/
def targetSize : Nat := 4

/-- The most bytes that a machine may take. -/
def limit : Nat := 10485760

/-- The bytes taken. -/
def size (r : Room) : Nat := r.states * stateSize + r.listed

/-- Adds states whose lists take `listed` bytes together. -/
def add (r : Room) (states listed : Nat) : Room := ⟨r.states + states, r.listed + listed⟩

/-- A fork between two targets. -/
def addFork (r : Room) : Room := r.add 1 (2 * targetSize)

end Room

/-! ## Character sets -/

/-- A transition: the bytes that it takes and the state that it leads to. -/
structure Transition where
  bytes : ByteRange
  next : Nat
deriving DecidableEq, Repr

/-- One step of the hash that places states in the table. -/
def mix (h : UInt64) (n : Nat) : UInt64 := (h ^^^ n.toUInt64) * 1099511628211

/-- Where a hash starts. -/
def mixStart : UInt64 := 14695981039346656037

/-- The slot of a hash in a table of so many slots. -/
def slotOf (slots : Nat) (h : UInt64) : Nat := (h % slots.toUInt64).toNat

/-- A state that a table remembers: for which set it was made, what it leads to, and its number. -/
structure Remembered where
  turn : Nat
  key : List Transition
  id : Nat

/-- The room laid out, how many sets have been laid out, and the states that are remembered. Only
those of the current set count. -/
structure Shared where
  room : Room
  turn : Nat
  table : Array (Option Remembered)

namespace Shared

/-- Adds states whose lists take `listed` bytes together. -/
def add (s : Shared) (states listed : Nat) : Shared := { s with room := s.room.add states listed }

/-- A fork between two targets. -/
def addFork (s : Shared) : Shared := { s with room := s.room.addFork }

/-- All of it, unless the room exceeds the limit. -/
def checked (s : Shared) : Option Shared := if s.room.size ≤ Room.limit then some s else none

/-- The number of the remembered state for a key that falls on a slot. -/
def find? (s : Shared) (key : List Transition) (slot : Nat) : Option Nat :=
  match s.table[slot]? with
  | some (some known) =>
    if known.turn = s.turn && known.key = key then some known.id else none
  | _ => none

/-- The state for a key that falls on a slot: the remembered one, or a new one whose list takes
`listed` bytes. -/
def state (s : Shared) (key : List Transition) (slot listed : Nat) : Nat × Shared :=
  match s.find? key slot with
  | some id => (id, s)
  | none =>
    let id := s.room.states
    (id,
      { room := s.room.add 1 listed
        turn := s.turn
        table := s.table.setIfInBounds slot (some ⟨s.turn, key, id⟩) })

end Shared

/-- The number of slots of the table, for the machine of either direction. -/
def slotCount (backward : Bool) : Nat := if backward then 1000 else 10000

/-- The slot of a state with some transitions. -/
def forwardSlot (ts : List Transition) : Nat :=
  slotOf (slotCount false)
    (ts.foldl (fun h t => mix (mix (mix h t.bytes.lo) t.bytes.hi) t.next) mixStart)

/-- The slot of a state of the backward machine that takes some bytes and leads to a state. -/
def backwardSlot (t : Transition) : Nat :=
  slotOf (slotCount true) (mix (mix (mix mixStart t.next) t.bytes.lo) t.bytes.hi)

/-- Sequences of byte ranges as alternatives: one range to take with what may come below it, and the
other alternatives. Where nothing comes below, a sequence ends. -/
inductive ByteTree where
  | stop
  | take (bytes : ByteRange) (below others : ByteTree)

/-- Gathers neighbouring sequences that begin with the same range. -/
def gatherHeads : List (List ByteRange) → List (ByteRange × List (List ByteRange))
  | [] => []
  | [] :: rest => gatherHeads rest
  | (b :: tail) :: rest =>
    match gatherHeads rest with
    | (b', tails) :: groups =>
      if b = b' then (b, tail :: tails) :: groups else (b, [tail]) :: (b', tails) :: groups
    | [] => [(b, [tail])]

/-- The tree of some sequences of at most `depth` ranges. -/
def ByteTree.ofRuns : Nat → List (List ByteRange) → ByteTree
  | 0, _ => .stop
  | depth + 1, seqs =>
    (gatherHeads seqs).foldr (fun group others => .take group.1 (ofRuns depth group.2) others) .stop

/-- Lays out the states below some alternatives, all of which lead to `target` in the end, and gives
the transitions of the state that holds the alternatives; `done` has the first of them, backwards.
The states behind a transition come before the state that holds it. -/
def layTree (target : Nat) : ByteTree → List Transition → Shared → List Transition × Shared
  | .stop, done, s => (done.reverse, s)
  | .take bytes .stop others, done, s => layTree target others (⟨bytes, target⟩ :: done) s
  | .take bytes (.take b below more) others, done, s =>
    let (ts, s) := layTree target (.take b below more) [] s
    let (next, s) := s.state ts (forwardSlot ts) (ts.length * Room.transitionSize)
    layTree target others (⟨bytes, next⟩ :: done) s

/-- Lays out one sequence of the backward machine, its first byte nearest to the target. -/
def layBackward (target : Nat) (s : Shared) : List ByteRange → Shared
  | [] => s
  | b :: seq =>
    let key : Transition := ⟨b, target⟩
    let (next, s) := s.state [key] (backwardSlot key) 0
    layBackward next s seq

/-! ## Alternatives that are plain texts -/

/-- The texts below a place of a tree of texts: the bytes that lead on, in groups that a text
ending at this place separates, each byte with the texts behind it. -/
structure TextNode where
  done : List (List (Nat × List (List Nat)))
  current : List (Nat × List (List Nat))
deriving Repr

/-- Adds a text behind a byte of a group. -/
def addBehind (b : Nat) (text : List Nat) :
    List (Nat × List (List Nat)) → List (Nat × List (List Nat))
  | [] => [(b, [text])]
  | (b', texts) :: rest =>
    if b = b' then (b', texts ++ [text]) :: rest else (b', texts) :: addBehind b text rest

/-- Adds a text to a place. A text that ends here separates the bytes before it from those behind,
unless nothing stands between it and the last one that did. -/
def TextNode.add (n : TextNode) : List Nat → TextNode
  | [] =>
    if n.current.isEmpty && n.done.all List.isEmpty && !n.done.isEmpty then n
    else ⟨n.done ++ [n.current], []⟩
  | b :: text => { n with current := addBehind b text n.current }

/-- The room of the tree of some texts of at most `depth` bytes: every place that leads on is a
fork to its groups and, between two groups, to the end. -/
def treeRoom : Nat → List (List Nat) → Room
  | 0, _ => ⟨0, 0⟩
  | depth + 1, texts =>
    let node := texts.foldl TextNode.add ⟨[], []⟩
    let groups := node.done ++ [node.current]
    if groups.all List.isEmpty then ⟨0, 0⟩
    else
      let full := groups.filter (!·.isEmpty)
      let lists := (full.filter (fun g => 2 ≤ g.length)).map
        (fun g => g.length * Room.transitionSize)
      let below := groups.flatten.map (fun child => treeRoom depth child.2)
      below.foldl (fun r b => r.add b.states b.listed)
        ⟨full.length + 1,
          lists.foldr (· + ·) 0 + (full.length + node.done.length) * Room.targetSize⟩

/-- The bytes of a pattern that is a plain text and not empty. -/
def plainText? (p : Pattern) : Option (List Nat) :=
  match p with
  | .empty => none
  | _ => (p.parts.mapM Pattern.literal?).map (·.flatMap encodeBytes)

/-- The room of a choice between plain texts. -/
def textsRoom? (backward : Bool) (p : Pattern) : Option Room :=
  (p.branches.mapM plainText?).map fun texts =>
    treeRoom ((texts.map List.length).foldl Nat.max 0 + 1)
      (if backward then texts.map List.reverse else texts)

/-! ## Patterns -/

/-- Whether a pattern can be told to match at least one character. -/
def Pattern.surelyLong : Pattern → Bool
  | .empty => false
  | .set s => !s.isNone
  | .look _ => false
  | .seq p q => p.surelyLong || q.surelyLong
  | .choice p q => p.surelyLong && q.surelyLong
  | .repetition p least _ _ => 0 < least && p.surelyLong
  | .group _ p => p.surelyLong

/-- Whether every match starts with a condition, or ends with it when read backward. -/
def Pattern.pinnedBy (l : Look) (backward : Bool) : Pattern → Bool
  | .empty => false
  | .set _ => false
  | .look l' => l = l'
  | .seq p q =>
    if backward then q.pinnedBy l backward || (q.matchesNothing && p.pinnedBy l backward)
    else p.pinnedBy l backward || (p.matchesNothing && q.pinnedBy l backward)
  | .choice p q => p.pinnedBy l backward && q.pinnedBy l backward
  | .repetition p least _ _ => 0 < least && p.pinnedBy l backward
  | .group _ p => p.pinnedBy l backward

/-- What is to be laid out for a pattern in one direction. -/
inductive Plan where
  /-- So many states, whose lists take `listed` bytes together. -/
  | states (count listed : Nat)
  /-- A set of characters in the forward machine. -/
  | tree (t : ByteTree)
  /-- A set of characters in the backward machine. -/
  | runs (seqs : List (List ByteRange))
  | seq (first second : Plan)
  | choice (first second : Plan)
  | repetition (body : Plan) (surelyLong : Bool) (least : Nat) (most : Option Nat)

/-- The plan of a character set. A single character is one state a byte. A set of ASCII characters
is one state with a transition a range, before which the common end stands. -/
def Plan.ofSet (backward : Bool) (cs : CharSet) : Plan :=
  match (Pattern.set cs).literal? with
  | some c => .states (encodeBytes c).length 0
  | none =>
    if cs.ranges.all (fun range => range.hi < 128) then
      .states 2 (cs.ranges.length * Room.transitionSize)
    else
      let seqs := cs.ranges.flatMap byteRuns
      if backward then .runs seqs else .tree (.ofRuns 4 seqs)

/-- The plan of a pattern, which may be a branch of a choice. -/
def Plan.ofPattern (backward : Bool) : Pattern → Bool → Plan
  | .empty, _ => .states 1 0
  | .set cs, _ => .ofSet backward cs
  | .look _, _ => .states 1 0
  | .seq p q, _ =>
    if backward then .seq (ofPattern backward q false) (ofPattern backward p false)
    else .seq (ofPattern backward p false) (ofPattern backward q false)
  | .choice p q, isBranch =>
    match if isBranch then none else textsRoom? backward (.choice p q) with
    | some room => .states (room.states + 1) room.listed
    | none => .choice (ofPattern backward p false) (ofPattern backward q true)
  | .repetition p least most _, _ =>
    .repetition (ofPattern backward p false) p.surelyLong least most
  | .group _ p, _ =>
    if backward then ofPattern backward p false
    else .seq (.states 1 0) (.seq (ofPattern backward p false) (.states 1 0))

/-- Lays out `count` copies. -/
def layCopies (lay : Shared → Option Shared) : Nat → Shared → Option Shared
  | 0, s => some s
  | count + 1, s =>
    match lay s with
    | none => none
    | some s => layCopies lay count s

/-- Lays out a repeated body. -/
def layRepetition (lay : Shared → Option Shared) (surelyLong : Bool) (least : Nat) :
    Option Nat → Shared → Option Shared
  | none, s =>
    if least = 0 then
      if surelyLong then lay s.addFork else (lay s).map fun s => (s.addFork.addFork).add 1 0
    else (layCopies lay least s).map Shared.addFork
  | some most, s =>
    if least = 0 && most = 1 then (lay s.addFork).map (·.add 1 0)
    else do
      let s ← if least = 0 then some (s.add 1 0) else layCopies lay least s
      if least = most then some s
      else layCopies (fun s => lay s.addFork) (most - least) (s.add 1 0)

/-- Accounts for the end of the branch with number `branch` of a choice: a target of the fork,
and, after the second branch, the fork and the common end themselves. -/
def endBranch (branch : Option Nat) (s : Shared) : Option Shared :=
  match branch with
  | none => s.checked
  | some 1 => (s.add 2 Room.targetSize).checked
  | some _ => (s.add 0 Room.targetSize).checked

/-- Lays out a plan, which may be a branch of a choice. A set starts a new turn of the table. -/
def layPlan : Plan → Option Nat → Shared → Option Shared
  | .states count listed, branch, s => endBranch branch (s.add count listed)
  | .tree t, branch, s =>
    let target := s.room.states
    let (ts, s) := layTree target t [] ({ s with turn := s.turn + 1 }.add 1 0)
    endBranch branch (s.state ts (forwardSlot ts) (ts.length * Room.transitionSize)).2
  | .runs seqs, branch, s =>
    let target := s.room.states + 1
    let start := { s with turn := s.turn + 1 }.add 2 (seqs.length * Room.targetSize)
    endBranch branch (seqs.foldl (layBackward target) start)
  | .seq p q, branch, s => do
    let s ← layPlan p none s
    let s ← layPlan q none s
    endBranch branch s
  | .choice p q, branch, s => do
    let s ← layPlan p none s
    let s ← endBranch (some (branch.getD 0)) s
    layPlan q (some (branch.getD 0 + 1)) s
  | .repetition p surelyLong least most, branch, s => do
    let s ← layRepetition (layPlan p none) surelyLong least most s
    endBranch branch s

/-- Lays out a pattern, which may be a branch of a choice. The parts of a sequence are planned only
when they are reached, since a sequence that is too long is given up early. -/
def layPattern (backward : Bool) : Pattern → Option Nat → Shared → Option Shared
  | .seq p q, branch, s => do
    let s ← if backward then layPattern backward q none s else layPattern backward p none s
    let s ← if backward then layPattern backward p none s else layPattern backward q none s
    endBranch branch s
  | p, branch, s => layPlan (.ofPattern backward p branch.isSome) branch s

/-- Whether the machine of a pattern fits: a loop before it that skips what precedes the match,
unless the match is pinned, the pattern, the two marks of the whole match in the forward machine,
and the accepting state. -/
def machineFits (backward : Bool) (p : Pattern) : Bool :=
  let pinned := p.pinnedBy (if backward then .textEnd else .textStart) backward
  let start : Room :=
    if pinned then ⟨1, 0⟩ else (⟨2, Room.transitionSize⟩ : Room).addFork
  let shared : Shared :=
    { room := if backward then start else start.add 1 0
      turn := 0
      table := Array.replicate (slotCount backward) none }
  ((layPattern backward p none shared).bind fun s =>
    (s.add (if backward then 1 else 2) 0).checked).isSome

/-- Whether the machines of a pattern, forward and backward, are small enough. -/
def Pattern.fits (p : Pattern) : Bool :=
  machineFits false p && machineFits true p

end MailFormula.Regex
