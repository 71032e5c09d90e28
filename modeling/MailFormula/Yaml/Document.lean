import MailFormula.Yaml.Node
/-!
# YAML: documents

A text holds at most one document. Before it may stand directives: which version of YAML it is
written in, and what the handles of its tags stand for. A document that starts without a mark has
none.
-/

namespace MailFormula.Yaml

/-- What a YAML text holds. -/
inductive Content where
  /-- No document at all. -/
  | nothing
  | document (root : Node)

/-- What the handles stand for that need no directive. -/
def defaultHandles : List (String × String) := [("!", "!"), ("!!", "tag:yaml.org,2002:")]

/-- Reads the directives before a document: at most one of the version, and one for each handle.
Gives the handles and the tokens left. -/
def readDirectives (versioned : Bool) (handles : List (String × String)) :
    List Token → Option (List (String × String) × List Token)
  | .versionDirective major minor :: ts =>
    if versioned || major != 1 || (minor != 1 && minor != 2) then none
    else readDirectives true handles ts
  | .tagDirective handle lead :: ts =>
    if (handles.lookup handle).isSome then none
    else readDirectives versioned ((handle, lead) :: handles) ts
  | ts => some (handles ++ defaultHandles, ts)

/-- Reads the content of a document; after a mark it may be missing. -/
def readContent (isMarked : Bool) (handles : List (String × String)) (ts : List Token) :
    Option (Node × List Token) :=
  let isMissing : Bool := match ts with
    | [] => true
    | .versionDirective .. :: _ => true
    | .tagDirective .. :: _ => true
    | t :: _ => t == .documentStart || t == .documentEnd
  if isMarked && isMissing then some (.empty, ts)
  else do
    let (node, o) ← Outline.readNode true false (4 * ts.length + 4) { tokens := ts, handles }
    some (node, o.tokens)

/-- Reads the document that tokens write; after it only marks of its end may come. -/
def readDocument (ts : List Token) : Option Content := do
  let (handles, rest) ← readDirectives false [] ts
  let (node, rest) ←
    match rest with
    | .documentStart :: rest => readContent true handles rest
    | rest => if rest.length == ts.length then readContent false handles rest else none
  if rest.all (· == .documentEnd) then some (.document node) else none

/-- Whether a character may stand in a text: no controls but tabs and line ends. -/
def isAllowed (c : Char) : Bool :=
  let n := c.toNat
  n == 9 || n == 10 || n == 13 || (0x20 ≤ n && n ≤ 0x7E) || n == 0x85 ||
    (0xA0 ≤ n && n ≠ 0xFFFE && n ≠ 0xFFFF)

/-- Reads a YAML text. -/
def read (text : String) : Option Content := do
  let chars := text.toList
  guard (chars.all isAllowed)
  match ← tokens? chars with
  | [] => some .nothing
  | ts => readDocument ts

end MailFormula.Yaml
