import MailFormula.Behaviour.Text
import MailFormula.Mail.Thread
/-!
# Messages

The message at hand: its header, its parts, its place, its flags and its thread. A function that
needs a message fails when there is none.
-/

namespace MailFormula.Behaviour

/-! ## Header -/

/-- A header field. -/
def field : List Value → Action Value
  | [name] => do
    let view ← Action.view
    let name := name.text view.live
    let handle ← Action.content .header
    .done (.field name (handle.part.field name))
  | _ => .failWith .invalidArgSize

/-- The part that an argument gives, else the whole message. -/
def partOr (args : List Value) (index : Nat) (hint : Hint) : Action PartHandle :=
  match args[index]? with
  | none => Action.content hint
  | some (.part (some handle)) => .done handle
  | some (.part none) => .failAt .invalidPart (index + 1)
  | some _ => .failAt .invalidArgType (index + 1)

/-- The header block. -/
def header (args : List Value) : Action Value := do
  let handle ← partOr args 0 .header
  .done (.string handle.part.header)

/-- The mailboxes that a field or a text lists. -/
def mailboxesOf : Value → Action (List Mailbox)
  | .field _ raw => .done (fieldMailboxes raw)
  | .string text => .done (Address.readList text)
  | _ => .failAt .invalidArgType 1

/-- The addresses that a field lists. -/
def address : List Value → Action Value
  | [v] => do .done (.address ((← mailboxesOf v).map Mailbox.address))
  | _ => .failWith .invalidArgSize

/-- The names that a field lists. -/
def name : List Value → Action Value
  | [v] => do
    .done (.string (String.intercalate ", " ((← mailboxesOf v).map Mailbox.displayName)))
  | _ => .failWith .invalidArgSize

/-! ## Content -/

/-- The readable text. -/
def body (args : List Value) : Action Value := do
  let handle ← partOr args 0 .text
  .done (.string handle.part.bodyText)

/-- A child part, or the null part when there is none. -/
def part (args : List Value) : Action Value :=
  match args with
  | index :: _ => do
    let handle ← partOr args 1 .all
    .done (.part (handle.child? index.toNumber.toNat))
  | _ => .failWith .invalidArgSize

/-- The number of child parts. -/
def partCount (args : List Value) : Action Value := do
  let handle ← partOr args 0 .all
  .done (.number (positionNumber handle.part.children.length))

/-- The names of the attachments. -/
def attachment (args : List Value) : Action Value := do
  let handle ← partOr args 0 .all
  .done (.string (String.intercalate ", "
    (handle.part.attachments.map (fun p => p.fileName.getD ""))))

/-! ## Identity and place -/

/-- The message at hand. -/
def messageAtHand (view : View) : Action (MessageKey × Message) :=
  match view.message with
  | some m => .done m
  | none => .failWith .noContextMessage

/-- Something about the message at hand. -/
def ofMessage (read : Message → Value) : List Value → Action Value
  | [] => do
    let m ← messageAtHand (← Action.view)
    .done (read m.2)
  | _ => .failWith .invalidArgSize

/-- The folder at hand. -/
def folderAtHand (view : View) : Action Folder :=
  match view.folder.bind view.catalog.folder? with
  | some f => .done f
  | none => .failWith .noContextMessage

/-- The account at hand. -/
def accountAtHand (view : View) : Action Account :=
  match view.account.bind view.catalog.account? with
  | some a => .done a
  | none => .failWith .noContextAccount

/-- The name of the folder, or its path. -/
def folder (args : List Value) : Action Value := do
  let f ← folderAtHand (← Action.view)
  .done (.string (if truthOr args 0 false then f.fullName else f.name))

/-- The name of the account. -/
def account : List Value → Action Value
  | [] => do
    let a ← accountAtHand (← Action.view)
    .done (.string a.name)
  | _ => .failWith .invalidArgSize

/-! ## Lists -/

/-- The messages of a folder: the one named, in the account at hand, else the folder at hand. -/
def messages : List Value → Action Value
  | [] => do
    let f ← folderAtHand (← Action.view)
    .done (.messages f.messages)
  | [name] => do
    let view ← Action.view
    let a ← accountAtHand view
    match (a.findFolder? (name.text view.live)).bind (a.folders[·]?) with
    | some f => .done (.messages f.messages)
    | none => .failAt .invalidArgValue 1
  | _ => .failWith .invalidArgSize

/-- The selected messages. -/
def selected : List Value → Action Value
  | [] => .look fun view => .done (.messages view.selected)
  | _ => .failWith .invalidArgSize

/-- What threading needs to know of a message. -/
def threadEntry (m : Message) : ThreadEntry := ThreadEntry.ofIds m.id m.messageId m.reference

/-- The thread of a message among some others. If it is not among them, it comes last. -/
def threadAmong (catalog : Catalog) (focal : MessageRef) (candidates : List MessageRef) :
    List MessageRef :=
  let all := if candidates.any (fun m => m.key == focal.key) then candidates
    else candidates ++ [focal]
  let known := catalog.resolve all
  let place := known.findIdx (fun m => m.1.key == focal.key)
  (Thread.collect (known.map (fun m => threadEntry m.2)) place).filterMap
    (fun i => known[i]?.map Prod.fst)

/-- The messages of the thread, in the folder at hand or in all folders of the account. -/
def thread (args : List Value) : Action Value := do
  let view ← Action.view
  let (key, m) ← messageAtHand view
  let focal : MessageRef := ⟨key, m.id⟩
  if truthOr args 0 false then
    let a ← accountAtHand view
    .done (.messages (threadAmong view.catalog focal (a.folders.flatMap Folder.messages)))
  else
    let here := ((view.folder.bind view.catalog.folder?).map Folder.messages).getD []
    .done (.messages (threadAmong view.catalog focal here))

/-! ## Flags -/

/-- The state of a flag, after setting it if there is an argument. -/
def flag (f : Flag) (args : List Value) : Action Value := do
  let view ← Action.view
  let _ ← messageAtHand view
  match args with
  | [] => .done (.boolean (view.flags &&& f.bit == f.bit))
  | on :: _ =>
    Action.orFail (← Action.ask (.mark f on.truth))
    .done (.boolean on.truth)

end MailFormula.Behaviour
