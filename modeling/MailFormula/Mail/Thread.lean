import MailFormula.Mail.HashIndex
import MailFormula.Mail.MessageId
/-!
# Threads

A thread gathers the messages that answer each other. A message names its parent by id, and the
hash of that id picks the candidates: no candidate is no parent, a single one is the parent, and
among several the ids themselves decide.

Every message then has a root, found by following parents. References may form a cycle; a cycle
is cut at the message where the walk would enter it again, and that message becomes a root. The
thread of a message is all that shares its root, in the order of distance from the root and then
of message numbers.
-/

namespace MailFormula

/-- What threading reads of a message. -/
structure ThreadEntry where
  id : UInt32
  messageId : String
  reference : String
  idHash : UInt32
  referenceHash : UInt32
deriving DecidableEq, Repr

/-- An entry with the hashes of its own ids. -/
def ThreadEntry.ofIds (id : UInt32) (messageId reference : String) : ThreadEntry :=
  ⟨id, messageId, reference, MessageId.hash messageId, MessageId.hash reference⟩

namespace Thread

/-- The index of the hashes of all ids. -/
def idIndex (messages : List ThreadEntry) : HashIndex :=
  HashIndex.ofHashes (messages.map ThreadEntry.idHash)

/-- The other messages whose id has the hash of message `i`'s reference, in order. -/
def candidates (index : HashIndex) (i : Nat) (m : ThreadEntry) : List Nat :=
  (index.positions m.referenceHash).filter (· != i)

/-- Whether message `j` has this normalized id. -/
def hasId (messages : List ThreadEntry) (wanted : String) (j : Nat) : Bool :=
  match messages[j]? with
  | some other => MessageId.normalize other.messageId == wanted
  | none => false

/-- The parent of message `i`. -/
def parentOf (messages : List ThreadEntry) (index : HashIndex) (i : Nat) (m : ThreadEntry) :
    Option Nat :=
  if m.referenceHash == 0 then none
  else
    match candidates index i m with
    | [] => none
    | [only] => some only
    | several => several.find? (hasId messages (MessageId.normalize m.reference))

/-- The parent of every message. -/
def parents (messages : List ThreadEntry) : List (Option Nat) :=
  let index := idIndex messages
  messages.zipIdx.map (fun (m, i) => parentOf messages index i m)

/-- Where a message stands in its thread. -/
structure Place where
  root : Nat
  depth : Nat
deriving DecidableEq, Repr

/-- Gives the messages of a walk their places, the last one walked first, each one deeper than
the one before. -/
def settle (places : Array (Option Place)) (root : Nat) : Nat → List Nat → Array (Option Place)
  | _, [] => places
  | depth, node :: path =>
    settle (places.setIfInBounds node (some ⟨root, depth⟩)) root (depth + 1) path

/-- Walks from a message towards its root and settles every message on the way. `path` holds the
messages walked so far, the last one first. A walk never visits a message twice, so `rounds` of
the number of messages are enough. -/
def walk (parents : List (Option Nat)) (places : Array (Option Place)) :
    Nat → List Nat → Nat → Array (Option Place)
  | 0, _, _ => places
  | rounds + 1, path, current =>
    match places.getD current none with
    | some place => settle places place.root (place.depth + 1) path
    | none =>
      if path.contains current then
        match path with
        | last :: _ => settle places last 0 path
        | [] => places
      else
        match parents.getD current none with
        | some parent => walk parents places rounds (current :: path) parent
        | none => settle places current 0 (current :: path)

/-- The place of every message. -/
def places (parents : List (Option Nat)) : Array (Option Place) :=
  (List.range parents.length).foldl
    (fun places start =>
      if (places.getD start none).isSome then places
      else walk parents places (parents.length + 1) [] start)
    (Array.replicate parents.length none)

/-- The messages of the thread that holds message `focal`. -/
def collect (messages : List ThreadEntry) (focal : Nat) : List Nat :=
  let found := places (parents messages)
  let place (i : Nat) : Place := (found.getD i none).getD ⟨i, 0⟩
  let number (i : Nat) : UInt32 := (messages[i]?.map ThreadEntry.id).getD 0
  let members :=
    (List.range messages.length).filter (fun i => (place i).root == (place focal).root)
  members.mergeSort fun i j =>
    (place i).depth < (place j).depth ||
      ((place i).depth == (place j).depth && number i ≤ number j)

end Thread

end MailFormula
