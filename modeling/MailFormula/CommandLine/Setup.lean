import MailFormula.CommandLine.Arguments
import MailFormula.Config
import MailFormula.Eval
import MailFormula.Profile.Storage
/-!
# Sessions of a command

The session that formulas on the command line are evaluated in. The messages of the given files go
to the folder `Inbox` of the account `Local`, all of them are selected, and one is at hand. There
are no prompts.
-/

namespace MailFormula.CommandLine

/-- Why a command cannot go on. -/
inductive CommandFault where
  | config (fault : Config.Fault)
  | unreadable (path : String) (fault : FileFault)
  | badProfile (path : String) (fault : Profile.Fault)
  | unsaved (fault : FileFault)
  | outOfRange (focus count : Nat)
deriving DecidableEq, Repr

/-- A fault in words. -/
def CommandFault.message : CommandFault → String
  | config fault => fault.message
  | unreadable path fault => "failed to read " ++ path ++ ": " ++ fault.message
  | badProfile path fault => "failed to read " ++ path ++ ": " ++ fault.message
  | unsaved fault => "failed to save profile: " ++ fault.message
  | outOfRange focus count =>
    "--focus " ++ toString focus ++ " is out of range: " ++ toString count ++ " message(s) loaded"

/-- The text of a file. -/
def readFile (files : FileTree) (path : String) : Except CommandFault String :=
  match files.read path with
  | .ok text => .ok text
  | .error fault => .error (.unreadable path fault)

/-- The configuration of a session. -/
def readConfig (files : FileTree) : Option String → Except CommandFault Config
  | none => .ok {}
  | some path =>
    match Config.load files path with
    | .ok c => .ok c
    | .error fault => .error (.config fault)

/-- The profile of a session; without a file it is kept in memory. -/
def readProfile (files : FileTree) : Option String → Except CommandFault Profile
  | none => .ok { name := "default" }
  | some path =>
    match Profile.load files path with
    | .ok p => .ok p
    | .error fault => .error (.badProfile path fault)

/-- The folder that messages go to. -/
def inbox : FolderPlace := ⟨0, 0⟩

/-- A store with the inbox in it and nothing else. -/
def emptyStore : Store := (({} : Store).addAccount "Local").addFolder 0 "Inbox"

/-- Puts messages into the inbox. -/
def fill (files : FileTree) : List String → Store → Except CommandFault Store
  | [], store => .ok store
  | path :: rest, store => do
    let text ← readFile files path
    fill files rest (((store.deliver inbox text).map Prod.snd).getD store)

/-- The message at hand: none if there are no messages, else it has to be one of them. -/
def focused (selected : List MessageRef) (focus : Nat) : Except CommandFault (Option MessageKey) :=
  if selected.isEmpty then .ok none
  else
    match selected[focus]? with
    | some m => .ok (some m.key)
    | none => .error (.outOfRange focus selected.length)

/-- Opens a session at a time of day. -/
def openSession (clock : Time.Timestamp) (files : FileTree) (options : SessionOptions) :
    Except CommandFault Session := do
  let config ← readConfig files options.config
  let profile ← readProfile files config.profile
  let store ← fill files options.messages emptyStore
  let selected := ((store.catalog.folder? inbox).map Folder.messages).getD []
  let holder ← focused selected options.focus
  .ok
    { limits := config.limits
      includeDir := config.includeDir
      context :=
        { holder, selected, account := some 0, folder := some inbox
          permissions := { modify := options.modify } }
      store, profile, files, clock }

/-- Saves the profile of a session; the files after that are the ones that count. -/
def saveProfile (s : Session) : Except CommandFault FileTree :=
  match s.profile.save s.files with
  | .ok files => .ok files
  | .error fault => .error (.unsaved fault)

end MailFormula.CommandLine
