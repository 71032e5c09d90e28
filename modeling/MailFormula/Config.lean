import MailFormula.Files
import MailFormula.Session
import MailFormula.Yaml.Document
/-!
# Configuration

Limits, the directory for includes and the file of the profile, as a YAML mapping. Whatever is
missing has its default, and unknown keys are skipped; a key that is known may stand only once.
-/

namespace MailFormula

open MailFormula.Text MailFormula.Yaml

/-- A configuration. -/
structure Config where
  limits : Limits := {}
  includeDir : Option String := none
  profile : Option String := none
deriving DecidableEq, Repr

namespace Config

/-- Whether the text of a plain scalar means nothing. -/
def isNull (text : String) : Bool := ["", "~", "null", "Null", "NULL"].contains text

/-- The number that digits of a base write, if they are some. -/
def numberIn (base : Nat) (ds : List Char) : Option Nat :=
  let value (c : Char) : Option Nat := (hexValue? c).filter (· < base)
  if ds.isEmpty then none
  else ds.foldl (fun n c => do (← n) * base + (← value c)) (some 0)

/-- The natural number of 64 bits that a plain scalar writes: decimal without needless zeros, or
with a mark for its base. -/
def readNatural (text : String) : Option Nat :=
  let cs := match text.toList with
    | '+' :: rest => rest
    | cs => cs
  let n := match cs with
    | '0' :: 'x' :: ds => numberIn 16 ds
    | '0' :: 'o' :: ds => numberIn 8 ds
    | '0' :: 'b' :: ds => numberIn 2 ds
    | '0' :: _ :: _ => none
    | ds => numberIn 10 ds
  n.filter (· < UInt64.size)

/-- The tag of whole numbers. -/
def intTag : String := "tag:yaml.org,2002:int"

/-- The tag of the value that means nothing. -/
def nullTag : String := "tag:yaml.org,2002:null"

/-- The node that an alias means, inside a document. -/
def resolve (root : Node) : Node → Option Node
  | .alias label => root.find? label
  | node => some node

/-- A natural number: a plain scalar, or a block that keeps its lines and says that it is one. -/
def naturalOf : Node → Option Nat
  | .scalar p style text =>
    if style = .plain || (style = .literal && p.tag = some intTag) then readNatural text else none
  | _ => none

/-- A path: the text of a scalar. -/
def pathOf : Node → Option String
  | .scalar _ _ text => some text
  | _ => none

/-- Whether a node means nothing: a plain scalar that is empty or a word for it. With the tag of
this meaning it has to be such a word, and any other tag gives the scalar a meaning. -/
def meansNothing : Node → Option Bool
  | .scalar p .plain text =>
    match p.tag with
    | none => some (isNull text)
    | some tag =>
      if tag ≠ nullTag then some false
      else if isNull text && text ≠ "" then some true
      else none
  | _ => some false

/-- A value or nothing. -/
def optionalOf {α : Type} (read : Node → Option α) (node : Node) : Option (Option α) := do
  if ← meansNothing node then some none else (read node).map some

/-- The entries of a mapping, by the texts of their keys, with what their values mean. A value that
is not written is an empty mapping. -/
def entriesOf (root : Node) : Node → Option (List (String × Node))
  | .mapping _ entries =>
    entries.mapM fun (key, value) => do
      match ← resolve root key with
      | .scalar _ _ text => some (text, ← resolve root value)
      | _ => none
  | .scalar _ .plain "" => some []
  | _ => none

/-- The value of a key, or its default; a key that stands twice is refused. -/
def field {α : Type} (entries : List (String × Node)) (key : String) (default : α)
    (read : Node → Option α) : Option α :=
  match entries.filter (fun e => e.1 = key) with
  | [] => some default
  | [(_, v)] => read v
  | _ => none

/-- Limits from a mapping. -/
def limitsOf (root node : Node) : Option Limits := do
  let entries ← entriesOf root node
  let maxDepth ← field entries "max_depth" ({} : Limits).maxDepth naturalOf
  let maxIterations ← field entries "max_iterations" none (optionalOf naturalOf)
  some { maxDepth, maxIterations }

/-- A configuration from the mapping that a document is. -/
def ofDocument (root : Node) : Option Config := do
  let entries ← entriesOf root root
  let limits ← field entries "limits" {} (limitsOf root)
  let includeDir ← field entries "include_dir" none (optionalOf pathOf)
  let profile ← field entries "profile" none (optionalOf pathOf)
  some { limits, includeDir, profile }

/-- Reads a configuration; a text without a document is the default one. -/
def read (text : String) : Option Config := do
  match ← Yaml.read text with
  | .nothing => some {}
  | .document root => ofDocument root

/-- Why a configuration cannot be had. -/
inductive Fault where
  | file (path : String) (fault : FileFault)
  | invalid
deriving DecidableEq, Repr

/-- What stands for the words about an invalid configuration. -/
def faultText : String := "<yaml error>"

/-- A fault in words. -/
def Fault.message : Fault → String
  | file path fault => "failed to read config file " ++ path ++ ": " ++ fault.message
  | invalid => "invalid config: " ++ faultText

/-- Reads the configuration in a file. -/
def load (files : FileTree) (path : String) : Except Fault Config :=
  match files.read path with
  | .error fault => .error (.file path fault)
  | .ok text =>
    match read text with
    | some c => .ok c
    | none => .error .invalid

end Config

end MailFormula
