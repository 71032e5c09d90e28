import MailFormula.CommandLine
import Std.Time.DateTime.Timestamp
/-!
# The program

Everything that a command does is decided by `CommandLine.run`, which works on files and an input
that are given beforehand. This module brings the two together with the world: it takes over the
files that a command line names, the profile that its configuration names and the files that
formulas name by a literal; it prints, and it writes back the files that changed. The interactive
loop is driven line by line.
-/

namespace MailFormula.CommandLine

mutual
/-- The text literals of a formula. -/
def literals : Formula → List String
  | .text s => [s]
  | .call _ args => literalsOf args
  | _ => []

/-- The text literals of several formulas. -/
def literalsOf : List Formula → List String
  | [] => []
  | f :: fs => literals f ++ literalsOf fs
end

/-- Takes over what stands at a place: a file with its text, or a directory. -/
def takeOver (files : FileTree) (place : FilePlace) : IO FileTree := do
  if files.node place ≠ .missing then return files
  try
    return files.add place (← IO.FS.readFile place.path)
  catch
    | .inappropriateType _ 21 _ => return files.addDirectory place
    | _ => return files

/-- Takes over what a path names, and the directories on the way. -/
def takePath (files : FileTree) (path : String) : IO FileTree := do
  let (start, pieces) := FileTree.startOf path
  let mut place := start
  let mut tree := files
  for piece in pieces do
    place := FileTree.stepTo place piece
    tree ← takeOver tree place
  return tree

/-- The paths that a text names if it is a formula: its literals, as they are and from the
directory for includes. -/
def pathsIn (includeDir : Option String) (text : String) : List String :=
  match Formula.parse text with
  | .error _ => []
  | .ok f => (literals f).flatMap (fun path => [path, resolvePath includeDir path])

/-- Takes over the files that a formula names and those that they name in turn, some rounds deep. -/
def takeNamed (includeDir : Option String) : Nat → FileTree → List String → IO FileTree
  | 0, files, _ => return files
  | rounds + 1, files, texts => do
    let paths := texts.flatMap (pathsIn includeDir)
    let tree ← paths.foldlM takePath files
    let found := paths.filterMap (fun path => (tree.read path).toOption)
    if found.isEmpty then return tree else takeNamed includeDir rounds tree found

/-- How many files deep a formula may include others. -/
def rounds : Nat := 8

/-- Takes over the files of a session, and says where includes start from. -/
def takeSession (files : FileTree) (options : SessionOptions) :
    IO (FileTree × Option String) := do
  let tree ← (options.messages ++ options.config.toList).foldlM takePath files
  match readConfig tree options.config with
  | .error _ => return (tree, none)
  | .ok config => return (← config.profile.toList.foldlM takePath tree, config.includeDir)

/-- Takes over the files that a command names. -/
def takeCommand : Command → IO FileTree
  | .eval formula isFile options => do
    let (files, includeDir) ← takeSession {} options
    let files ← if isFile then takePath files formula else pure files
    takeNamed includeDir rounds files ((formulaText files formula isFile).toOption.toList)
  | .check formula isFile => if isFile then takePath {} formula else return {}
  | .functions => return {}
  | .repl options => return (← takeSession {} options).1

/-- Writes back the files that changed. -/
def giveBack (before after : FileTree) : IO Unit := do
  for (place, content) in after.files do
    if before.node place ≠ .file content then
      IO.FS.writeBinFile place.path (ByteArray.mk content.toBytes.toArray)

/-- Prints and tells an output. -/
def emit (output : Output) : IO Unit := do
  IO.print output.printed
  (← IO.getStdout).flush
  for notice in output.notices do
    IO.eprint notice.text

/-- Ends a command. -/
def conclude (before : FileTree) (e : Ending) : IO UInt32 := do
  giveBack before e.files
  emit e.output
  return e.status

/-- Drives the interactive loop, one line at a time. -/
partial def drive (patience : Nat) (before : FileTree) (r : Repl) : IO UInt32 := do
  emit (.print r.prompt)
  let line ← (← IO.getStdin).getLine
  if line.isEmpty then conclude before (r.finish.after (.print "\n"))
  else
    let text := String.ofList (r.buffer ++ line.toList)
    let files ← takeNamed r.session.includeDir rounds r.session.files [text]
    let r := { r with session := { r.session with files } }
    match r.takeLine patience line.toList with
    | (output, .more r') =>
      giveBack files r'.session.files
      emit output
      drive patience r'.session.files r'
    | (output, .quit r') => conclude files (r'.finish.after output)
    | (output, .fault fault after) => conclude files ((Ending.ofFault fault after).after output)

/-- Runs a command line in the world. -/
def perform (patience : Nat) (words : List String) : IO UInt32 := do
  let now ← Std.Time.Timestamp.now
  let clock : Time.Timestamp := ⟨now.toSecondsSinceUnixEpoch.val, 0, false⟩
  match readWords words with
  | .ok (.run (.repl options)) =>
    emit (.print Repl.banner)
    let files ← takeCommand (.repl options)
    match openSession clock files options with
    | .error fault => conclude files (.ofFault fault files)
    | .ok session => drive patience files { options, session }
  | .ok (.run command) =>
    let files ← takeCommand command
    conclude files (run { patience, clock, files } words)
  | _ => conclude {} (run { patience, clock } words)

end MailFormula.CommandLine

/-- The program. -/
def main (args : List String) : IO UInt32 :=
  MailFormula.CommandLine.perform 1000000000000 args
