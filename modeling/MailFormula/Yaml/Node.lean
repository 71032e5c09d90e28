import MailFormula.Yaml.Progress
/-!
# YAML: nodes

What the tokens of a document say: scalars, sequences and mappings, with their tags, and aliases.

An anchor labels a node with the number of names that were in use before it, so a name that is used
again can share its label with the next new name. An alias holds the label that its name has at that
place, and means the last node of the document with this label.
-/

namespace MailFormula.Yaml

/-- What stands before a node: the label from its anchor, and its tag. -/
structure Properties where
  label : Option Nat := none
  tag : Option String := none
deriving DecidableEq, Repr

/-- A node of a document. -/
inductive Node where
  | scalar (properties : Properties) (style : Style) (text : String)
  | sequence (properties : Properties) (items : List Node)
  | mapping (properties : Properties) (entries : List (Node × Node))
  | alias (label : Nat)

namespace Node

/-- A value that is not written. -/
def empty : Node := .scalar {} .plain ""

/-- The label of a node. -/
def label : Node → Option Nat
  | .scalar p _ _ => p.label
  | .sequence p _ => p.label
  | .mapping p _ => p.label
  | .alias _ => none

mutual
/-- The last node with a label, in the order in which nodes start. -/
def find? (label : Nat) : Node → Option Node
  | .scalar p style text =>
    if p.label == some label then some (.scalar p style text) else none
  | .sequence p items =>
    findItem? label items <|> if p.label == some label then some (.sequence p items) else none
  | .mapping p entries =>
    findEntry? label entries <|> if p.label == some label then some (.mapping p entries) else none
  | .alias _ => none

/-- The last node with a label among items. -/
def findItem? (label : Nat) : List Node → Option Node
  | [] => none
  | item :: items => findItem? label items <|> item.find? label

/-- The last node with a label among the keys and values of entries. -/
def findEntry? (label : Nat) : List (Node × Node) → Option Node
  | [] => none
  | (key, value) :: entries =>
    findEntry? label entries <|> value.find? label <|> key.find? label
end

end Node

/-- How far the tokens of a document have been read: the tokens left, what the handles of tags stand
for, the names of anchors with their labels, and how many names there are. -/
structure Outline where
  tokens : List Token
  handles : List (String × String)
  names : List (String × Nat) := []
  count : Nat := 0

namespace Outline

/-- The next token. -/
def peek? (o : Outline) : Option Token := o.tokens.head?

/-- Whether the next token is this one. -/
def sees (o : Outline) (t : Token) : Bool := o.peek? == some t

/-- Whether the next token is one of these. -/
def seesAny (o : Outline) (ts : List Token) : Bool := o.peek?.any ts.contains

/-- Passes the next token. -/
def next (o : Outline) : Outline := { o with tokens := o.tokens.drop 1 }

/-- Gives a label to the node that follows an anchor. -/
def defineAnchor (o : Outline) (name : String) : Outline :=
  { o with
    names := (name, o.count) :: o.names
    count := if (o.names.lookup name).isSome then o.count else o.count + 1 }

/-- What a tag stands for. A tag without a handle is written in full. -/
def resolveTag (o : Outline) (handle suffix : String) : Option String :=
  if handle.isEmpty then some suffix else (o.handles.lookup handle).map (· ++ suffix)

/-- Reads an optional anchor. -/
def readAnchor (o : Outline) : Option Nat × Outline :=
  match o.peek? with
  | some (.anchor name) => (some o.count, (o.defineAnchor name).next)
  | _ => (none, o)

/-- Reads an optional tag. -/
def readTag (o : Outline) : Option (Option String × Outline) :=
  match o.peek? with
  | some (.tag handle suffix) => (o.resolveTag handle suffix).map (fun t => (some t, o.next))
  | _ => some (none, o)

/-- Reads an anchor and a tag, in any order. -/
def readProperties (o : Outline) : Option (Properties × Outline) := do
  let (before, o) := o.readAnchor
  let (tag, o) ← o.readTag
  let (after, o) := if before.isNone && tag.isSome then o.readAnchor else (none, o)
  some ({ label := before <|> after, tag }, o)

/-- The properties of a scalar that is written: a lone exclamation mark is no tag there. -/
def ofScalar (p : Properties) : Properties :=
  if p.tag == some "!" then { p with tag := none } else p

mutual
/-- Reads a node. `inBlock` says whether a block may start here, `afterKey` whether the items of a
sequence may stand in the column of a key. `steps` bounds the tokens. -/
def readNode (inBlock afterKey : Bool) : Nat → Outline → Option (Node × Outline)
  | 0, _ => none
  | steps + 1, o =>
    match o.peek? with
    | some (.alias name) => (o.names.lookup name).map (fun label => (.alias label, o.next))
    | _ => do
      let (p, o) ← o.readProperties
      match o.peek? with
      | some (.scalar style text) => some (.scalar (ofScalar p) style text, o.next)
      | some .flowSequenceStart =>
        let (items, o) ← readFlowItems true steps o.next
        some (.sequence p items, o)
      | some .flowMappingStart =>
        let (entries, o) ← readFlowEntries true steps o.next
        some (.mapping p entries, o)
      | t =>
        if afterKey && t == some .blockEntry then
          let (items, o) ← readItems [.blockEntry, .key, .value, .blockEnd] steps o
          some (.sequence p items, o)
        else if inBlock && t == some .blockSequenceStart then
          let (items, o) ← readItems [.blockEntry, .blockEnd] steps o.next
          if o.sees .blockEnd then some (.sequence p items, o.next) else none
        else if inBlock && t == some .blockMappingStart then
          let (entries, o) ← readEntries steps o.next
          some (.mapping p entries, o)
        else if p.label.isSome || p.tag.isSome then some (.scalar p .plain "", o)
        else none

/-- Reads the items after dashes. An item is missing before one of `ends`. -/
def readItems (ends : List Token) : Nat → Outline → Option (List Node × Outline)
  | 0, _ => none
  | steps + 1, o =>
    if !o.sees .blockEntry then some ([], o)
    else do
      let o := o.next
      let (item, o) ← if o.seesAny ends then some (Node.empty, o) else readNode true false steps o
      let (items, o) ← readItems ends steps o
      some (item :: items, o)

/-- Reads the entries of a mapping up to its end. -/
def readEntries : Nat → Outline → Option (List (Node × Node) × Outline)
  | 0, _ => none
  | steps + 1, o =>
    if o.sees .blockEnd then some ([], o.next)
    else if !o.sees .key then none
    else do
      let (key, o) ← readPart steps o.next
      let (value, o) ← if o.sees .value then readPart steps o.next else some (.empty, o)
      let (entries, o) ← readEntries steps o
      some ((key, value) :: entries, o)

/-- Reads a key or a value of a mapping; it may be missing. -/
def readPart : Nat → Outline → Option (Node × Outline)
  | 0, _ => none
  | steps + 1, o =>
    if o.seesAny [.key, .value, .blockEnd] then some (.empty, o) else readNode true true steps o

/-- Reads the items of a sequence in brackets up to its end. Between items stands a comma, and an
item may be a single entry of a mapping. -/
def readFlowItems (isFirst : Bool) : Nat → Outline → Option (List Node × Outline)
  | 0, _ => none
  | steps + 1, o =>
    if o.sees .flowSequenceEnd then some ([], o.next)
    else if !isFirst && !o.sees .flowEntry then none
    else do
      let o := if isFirst then o else o.next
      if o.sees .flowSequenceEnd then some ([], o.next)
      else
        let (item, o) ←
          if o.sees .key then readPair steps o.next else readNode false false steps o
        let (items, o) ← readFlowItems false steps o
        some (item :: items, o)

/-- Reads a single entry inside a sequence in brackets. A missing key takes the token after it
along. -/
def readPair : Nat → Outline → Option (Node × Outline)
  | 0, _ => none
  | steps + 1, o => do
    let (key, o) ←
      if o.seesAny [.value, .flowEntry, .flowSequenceEnd] then some (Node.empty, o.next)
      else readNode false false steps o
    let (value, o) ← readFlowValue .flowSequenceEnd steps o
    some (.mapping {} [(key, value)], o)

/-- Reads the entries of a mapping in brackets up to its end. Between entries stands a comma. -/
def readFlowEntries (isFirst : Bool) : Nat → Outline → Option (List (Node × Node) × Outline)
  | 0, _ => none
  | steps + 1, o =>
    if o.sees .flowMappingEnd then some ([], o.next)
    else if !isFirst && !o.sees .flowEntry then none
    else do
      let o := if isFirst then o else o.next
      if o.sees .flowMappingEnd then some ([], o.next)
      else
        let (entry, o) ←
          if !o.sees .key then do
            let (key, o) ← readNode false false steps o
            some ((key, Node.empty), o)
          else do
            let o := o.next
            let (key, o) ←
              if o.seesAny [.value, .flowEntry, .flowMappingEnd] then some (Node.empty, o)
              else readNode false false steps o
            let (value, o) ← readFlowValue .flowMappingEnd steps o
            some ((key, value), o)
        let (entries, o) ← readFlowEntries false steps o
        some (entry :: entries, o)

/-- Reads a value inside brackets with this end; it may be missing. -/
def readFlowValue (close : Token) : Nat → Outline → Option (Node × Outline)
  | 0, _ => none
  | steps + 1, o =>
    if !o.sees .value then some (.empty, o)
    else
      let o := o.next
      if o.seesAny [.flowEntry, close] then some (.empty, o) else readNode false false steps o
end

end Outline

end MailFormula.Yaml
