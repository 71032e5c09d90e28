import MailFormula.Shell.Machine
import MailFormula.Shell.Pattern
/-!
# Fields

What becomes of a word once everything is put in: it is cut at separators, and each field that is a
pattern is replaced by the names of the files that it matches. Only what was put in without quotes
is cut, and only what stands without quotes can be a pattern.
-/

namespace MailFormula.Shell

open MailFormula.Text

/-- How a character of a word came there. -/
inductive Origin where
  | quoted
  /-- Written in the script, without quotes. -/
  | literal
  /-- Put in, without quotes. -/
  | inserted
deriving DecidableEq, Repr

/-- A part of a word with everything put in. -/
inductive Item where
  | char (c : Char) (origin : Origin)
  /-- Quotes stood here, so there is a field even if it is empty. -/
  | mark
  /-- One argument ends here and another one starts. -/
  | gap
deriving DecidableEq, Repr

/-- The items of a text. -/
def itemsOf (origin : Origin) (cs : Octets) : List Item := cs.map (fun c => .char c origin)

/-- The text of a word that is not cut. -/
def textOf (items : List Item) : Octets :=
  items.filterMap fun
    | .char c _ => some c
    | .gap => some ' '
    | .mark => none

/-- The pattern of a word that is not cut. -/
def patternChars (items : List Item) : List PatternChar :=
  items.filterMap fun
    | .char c origin => some (c, origin != .quoted)
    | .gap => some (' ', false)
    | .mark => none

/-- A word while it is cut: the fields so far and the one under way, last first, and whether only
blanks have come since the last field. -/
structure Cutting where
  fields : List (List PatternChar) := []
  current : Option (List PatternChar) := none
  afterBlank : Bool := false

/-- Ends the field under way. -/
def Cutting.close (k : Cutting) : Cutting :=
  match k.current with
  | some f => { fields := f.reverse :: k.fields }
  | none => { k with afterBlank := false }

/-- Cuts on. Blanks among the separators never make an empty field, others do between them. -/
def Cutting.step (separators : Octets) (k : Cutting) : Item → Cutting
  | .mark => { k with current := some (k.current.getD []) }
  | .gap => k.close
  | .char c origin =>
    let keep : Cutting :=
      { k with current := some ((c, origin != .quoted) :: k.current.getD []) }
    if origin != .inserted || !separators.contains c then keep
    else if c == ' ' || c == '\t' || c == '\n' then
      if k.current.isSome then { k.close with afterBlank := true } else k
    else if k.current.isSome then k.close
    else if k.afterBlank then { k with afterBlank := false }
    else { k with fields := [] :: k.fields }

/-- The fields of a word. -/
def fieldsOf (separators : Octets) (items : List Item) : List (List PatternChar) :=
  let k := items.foldl (Cutting.step separators) {}
  k.close.fields.reverse

/-- The text of a field. -/
def fieldText (f : List PatternChar) : Octets := f.map Prod.fst

/-- Whether a field has a character that makes it a pattern. -/
def isPattern (f : List PatternChar) : Bool :=
  f.any (fun c => c.2 && (c.1 == '*' || c.1 == '?' || c.1 == '['))

/-- The pieces of a field between slashes. -/
def pathParts (f : List PatternChar) : List (List PatternChar) :=
  f.foldr
    (fun c parts =>
      if c.1 == '/' then [] :: parts
      else
        match parts with
        | part :: rest => (c :: part) :: rest
        | [] => [[c]])
    [[]]

/-- The names that a part of a path matches in a directory. Names with a dot first are matched only
if the part starts with one. -/
def matchingNames (files : FileTree) (place : FilePlace) (part : List PatternChar) :
    List Octets :=
  let pattern := patternOf part
  let showsHidden := (part.head?.map (fun c => c.1 == '.')).getD false
  let names := (files.namesIn place).map octets ++ (if showsHidden then [['.'], ['.', '.']] else [])
  names.filter (fun n => (showsHidden || n.head? != some '.') && matchesAll pattern n)

/-- The paths that parts lead to from a place, with what has been gone so far before them. -/
def matchingPaths (files : FileTree) (place : FilePlace) (gone : Octets) :
    List (List PatternChar) → List Octets
  | [] => []
  | part :: rest =>
    let goOn (name : Octets) : List Octets :=
      let next := FileTree.stepTo place (decodeLossy (toBytes name)).toList
      match rest, files.node next with
      | [], .missing => []
      | [], _ => [gone ++ name]
      | rest, .directory => matchingPaths files next (gone ++ name ++ ['/']) rest
      | _, _ => []
    if part.isEmpty then
      if rest.isEmpty then [gone] else matchingPaths files place (gone ++ ['/']) rest
    else if isPattern part then (matchingNames files place part).flatMap goOn
    else goOn (fieldText part)

/-- The order of paths. -/
def pathLe : Octets → Octets → Bool
  | [], _ => true
  | _ :: _, [] => false
  | a :: as, b :: bs => a < b || (a == b && pathLe as bs)

/-- The arguments that a field stands for: the files it matches in order, or itself. -/
def argumentsOf (files : FileTree) (f : List PatternChar) : List Octets :=
  if !isPattern f then [fieldText f]
  else
    let (start, gone, parts) : FilePlace × Octets × List (List PatternChar) :=
      match pathParts f with
      | [] :: rest => (⟨none, []⟩, ['/'], rest)
      | parts => (⟨some 0, []⟩, [], parts)
    match (matchingPaths files start gone parts).mergeSort pathLe with
    | [] => [fieldText f]
    | paths => paths

end MailFormula.Shell
