import MailFormula.Files
import MailFormula.Json.Reader
import MailFormula.Profile
/-!
# Profiles in files

A profile is loaded from a file and saved there. A file that does not exist yet is an empty
profile, and so is one that holds JSON other than an object.
-/

namespace MailFormula.Profile

/-- Why a profile cannot be loaded. -/
inductive Fault where
  | file (fault : FileFault)
  | json (error : JsonError)
deriving DecidableEq, Repr

/-- A fault in words. -/
def Fault.message : Fault → String
  | file fault => fault.message
  | json error => error.message

/-- The sections that a JSON value holds. -/
def rootOf : JsonValue → List (String × JsonValue)
  | .object members => members
  | _ => []

/-- Loads the profile at a path. It is named for its file. -/
def load (files : FileTree) (path : String) : Except Fault Profile :=
  let named (root : List (String × JsonValue)) : Profile :=
    { name := fileStem path, path := some path, root }
  match files.read path with
  | .ok text =>
    match JsonValue.read text with
    | .ok v => .ok (named (rootOf v))
    | .error error => .error (.json error)
  | .error .notFound => .ok (named [])
  | .error fault => .error (.file fault)

/-- Saves a profile at its path, if it has one. -/
def save (p : Profile) (files : FileTree) : Except FileFault FileTree :=
  match p.path with
  | none => .ok files
  | some path => files.write path p.fileText

end MailFormula.Profile
