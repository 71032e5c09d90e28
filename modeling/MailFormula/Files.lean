import MailFormula.Text.Lines
import MailFormula.Text.Utf8
/-!
# Files

The files that formulas read and write: a tree around a working directory. A path is walked one
name at a time. Every name but the last has to be a directory; `.` stays, `..` goes up. The working
directory, those above it and the root are always there.
-/

namespace MailFormula

open MailFormula.Text

/-- Why a file operation fails. -/
inductive FileFault where
  | notFound
  | notDirectory
  | isDirectory
  | nameTooLong
  | nulByte
  | notText
deriving DecidableEq, Repr

/-- The reason of a fault in words. -/
def FileFault.reason : FileFault → String
  | notFound => "No such file or directory"
  | notDirectory => "Not a directory"
  | isDirectory => "Is a directory"
  | nameTooLong => "File name too long"
  | nulByte => "file name contained an unexpected NUL byte"
  | notText => "stream did not contain valid UTF-8"

/-- The number of a fault, where the system has found it. -/
def FileFault.number? : FileFault → Option Nat
  | notFound => some 2
  | notDirectory => some 20
  | isDirectory => some 21
  | nameTooLong => some 36
  | nulByte | notText => none

/-- A fault in words, with its number. -/
def FileFault.message (fault : FileFault) : String :=
  match fault.number? with
  | some n => fault.reason ++ " (os error " ++ toString n ++ ")"
  | none => fault.reason

/-- The size in bytes from which on the system does not hand a text to a program. -/
def argumentLimit : Nat := 131072

/-- A place in the tree: how many levels above the working directory, and the names from there. A
place below the root has no level. -/
structure FilePlace where
  above : Option Nat
  names : List String
deriving DecidableEq, Repr

/-- What a file holds: a text, or bytes that are none. -/
inductive FileContent where
  | text (s : String)
  | bytes (bs : List UInt8)
deriving DecidableEq, Repr

/-- The bytes of a file. -/
def FileContent.toBytes : FileContent → List UInt8
  | text s => utf8Bytes s
  | bytes bs => bs

/-- A file of these bytes. -/
def FileContent.ofBytes (bs : List UInt8) : FileContent :=
  match String.fromUTF8? (ByteArray.mk bs.toArray) with
  | some s => .text s
  | none => .bytes bs

/-- The files that there are, and the directories. -/
structure FileTree where
  files : List (FilePlace × FileContent) := []
  directories : List FilePlace := []

/-- What stands at a place. -/
inductive FileNode where
  | file (content : FileContent)
  | directory
  | missing
deriving DecidableEq, Repr

/-- The pieces of a text between slashes. -/
def pathPieces (path : List Char) : List (List Char) :=
  path.foldr
    (fun c pieces =>
      if c = '/' then [] :: pieces
      else
        match pieces with
        | piece :: rest => (c :: piece) :: rest
        | [] => [[c]])
    [[]]

/-- A path to a place. -/
def FilePlace.path (place : FilePlace) : String :=
  match place.above with
  | none => "/" ++ String.intercalate "/" place.names
  | some n => String.intercalate "/" (List.replicate n ".." ++ place.names)

namespace FileTree

/-- Adds a directory. -/
def addDirectory (t : FileTree) (place : FilePlace) : FileTree :=
  { t with directories := t.directories ++ [place] }

/-- Adds a file and the directories above it. -/
def put (t : FileTree) (place : FilePlace) (content : FileContent) : FileTree :=
  let above := (List.range place.names.length).map
    (fun n => { place with names := place.names.take n })
  { files := (place, content) :: t.files.filter (fun f => f.1 ≠ place)
    directories := t.directories ++ above.filter (fun d => !t.directories.contains d) }

/-- Adds a file with a text. -/
def add (t : FileTree) (place : FilePlace) (text : String) : FileTree := t.put place (.text text)

/-- What stands at a place. -/
def node (t : FileTree) (place : FilePlace) : FileNode :=
  if place.names = [] then .directory
  else
    match t.files.lookup place with
    | some content => .file content
    | none => if t.directories.contains place then .directory else .missing

/-- The place one level up. -/
def parent (place : FilePlace) : FilePlace :=
  match place.names, place.above with
  | [], some n => ⟨some (n + 1), []⟩
  | [], none => place
  | names, above => ⟨above, names.dropLast⟩

/-- The place that a piece of a path leads to. -/
def stepTo (place : FilePlace) (piece : List Char) : FilePlace :=
  if piece = [] || piece = ['.'] then place
  else if piece = ['.', '.'] then parent place
  else { place with names := place.names ++ [String.ofList piece] }

/-- Where a path starts, and its pieces. -/
def startOf (path : String) : FilePlace × List (List Char) :=
  (⟨if path.toList.head? = some '/' then none else some 0, []⟩, pathPieces path.toList)

/-- The tree of some files, each under its path, with the directories that the paths need. -/
def ofFiles (files : List (String × String)) : FileTree :=
  files.foldl
    (fun t f =>
      let (start, pieces) := startOf f.1
      t.add (pieces.foldl stepTo start) f.2)
    {}

/-- Walks a path from a place. Every piece needs a directory to stand in. -/
def walk (t : FileTree) (place : FilePlace) : List (List Char) → Except FileFault FilePlace
  | [] => .ok place
  | piece :: rest =>
    match t.node place with
    | .missing => .error .notFound
    | .file _ => .error .notDirectory
    | .directory =>
      if 255 < (String.ofList piece).utf8ByteSize then .error .nameTooLong
      else walk t (stepTo place piece) rest

/-- The place that a path names. -/
def locate (t : FileTree) (path : String) : Except FileFault FilePlace :=
  if path.toList.contains '\x00' then .error .nulByte
  else if path.isEmpty then .error .notFound
  else if 4096 ≤ path.utf8ByteSize then .error .nameTooLong
  else
    let (start, pieces) := startOf path
    t.walk start pieces

/-- The text of a file. -/
def read (t : FileTree) (path : String) : Except FileFault String :=
  match t.locate path with
  | .error fault => .error fault
  | .ok place =>
    match t.node place with
    | .file (.text text) => .ok text
    | .file (.bytes _) => .error .notText
    | .directory => .error .isDirectory
    | .missing => .error .notFound

/-- Whether a path ends with a slash after a name of its own. Only a directory can be meant. -/
def asksForDirectory (path : String) : Bool :=
  path.toList.getLast? = some '/' &&
    match ((pathPieces path.toList).filter (· ≠ [])).getLast? with
    | none => false
    | some name => name ≠ ['.'] && name ≠ ['.', '.']

/-- The place that a path names, for writing. Under a name with a slash after it nothing can be
written, whatever stands there; only what is wrong above the name is told first. -/
def locateToWrite (t : FileTree) (path : String) : Except FileFault FilePlace :=
  if path.toList.contains '\x00' || 4096 ≤ path.utf8ByteSize || !asksForDirectory path then
    t.locate path
  else
    let (start, pieces) := startOf path
    let names := pieces.filter (· ≠ [])
    match t.walk start (names.dropLast ++ [['.']]) with
    | .error fault => .error fault
    | .ok _ => .error .isDirectory

/-- Writes a file, new or in place of what it held. -/
def write (t : FileTree) (path text : String) : Except FileFault FileTree :=
  match t.locateToWrite path with
  | .error fault => .error fault
  | .ok place =>
    match t.node place with
    | .directory => .error .isDirectory
    | .file _ | .missing => .ok (t.add place text)

/-- The names of what stands in a directory, in order. -/
def namesIn (t : FileTree) (place : FilePlace) : List String :=
  let inside (p : FilePlace) : Option String :=
    if p.above = place.above && p.names.dropLast = place.names then p.names.getLast? else none
  let names := (t.files.map Prod.fst ++ t.directories).filterMap inside
  (names.eraseDups).mergeSort (fun a b => decide (a ≤ b))

end FileTree

/-- A path against a base directory: absolute paths stand for themselves. -/
def resolvePath (base : Option String) (path : String) : String :=
  match base with
  | none => path
  | some dir =>
    if path.toList.head? = some '/' then path
    else if dir.isEmpty then path
    else if dir.toList.getLast? = some '/' then dir ++ path
    else dir ++ "/" ++ path

/-- The name of the file that a path names, without its last extension. A name that starts with
its only dot is kept whole. -/
def fileStem (path : String) : String :=
  let pieces := (pathPieces path.toList).filter (fun p => p ≠ [] && p ≠ ['.'])
  match pieces.getLast? with
  | none => ""
  | some name =>
    if name = ['.', '.'] then ""
    else
      let ext := name.reverse.takeWhile (· ≠ '.')
      let stem := (name.reverse.drop (ext.length + 1)).reverse
      if stem = [] then String.ofList name else String.ofList stem

end MailFormula
