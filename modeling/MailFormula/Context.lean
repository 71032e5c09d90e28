import MailFormula.Failure
import MailFormula.Formula.Builtin
import MailFormula.Mail.Store
/-!
# Contexts

A context says what a formula is evaluated against: the message at hand, the selection, the account
and the folder, and what the host permits. Visiting a message opens a child of the context, bound to
that message.

The content of the message is fetched when it is first asked for and then kept. A later request that
asks for no more than what was fetched is answered from there.
-/

namespace MailFormula

/-- What the host permits. -/
structure Permissions where
  /-- Prompts may be shown. -/
  prompts : Bool := false
  /-- The evaluation runs where prompts can be shown. -/
  promptThread : Bool := false
  /-- Flags of messages may be changed. -/
  modify : Bool := false
  /-- The first request fetches the whole message. -/
  fetchWhole : Bool := false
deriving DecidableEq, Repr

/-- What a formula is evaluated against. -/
structure Context where
  /-- The message at hand. -/
  holder : Option MessageKey := none
  /-- The content fetched so far, and how much of it was asked for. -/
  fetched : Option (Hint × PartHandle) := none
  selected : List MessageRef := []
  account : Option Nat := none
  folder : Option FolderPlace := none
  permissions : Permissions := {}

namespace Context

/-- The message at hand, looked up. -/
def message? (c : Context) (catalog : Catalog) : Option (MessageKey × Message) :=
  c.holder.bind (fun key => (catalog.message? key).map (fun m => (key, m)))

/-- The folder of a context, else the home of its message. -/
def folder? (c : Context) (catalog : Catalog) : Option FolderPlace :=
  c.folder <|> (c.message? catalog).bind (fun m => m.2.home)

/-- The account of a context, else that of its folder. -/
def account? (c : Context) (catalog : Catalog) : Option Nat :=
  c.account <|> (c.folder? catalog).map FolderPlace.account

/-- The context of a message visited from here. Its folder is the message's own, else the one from
here; the account, the selection and the permissions stay. -/
def child (c : Context) (catalog : Catalog) (key : MessageKey) : Context :=
  { holder := some key
    fetched := none
    selected := c.selected
    account := c.account? catalog
    folder := ((catalog.message? key).bind Message.home) <|> c.folder? catalog
    permissions := c.permissions }

/-- How much is fetched when so much is asked for. -/
def wanted (c : Context) (hint : Hint) : Hint :=
  if c.permissions.fetchWhole then .all else hint.max .header

/-- The content of the message at hand, with at least as much of it as asked for. -/
def content (c : Context) (store : Store) (hint : Hint) :
    Except ErrorCode PartHandle × Context × Store :=
  match c.holder with
  | none => (.error .noContextMessage, c, store)
  | some key =>
    let fresh : Except ErrorCode PartHandle × Context × Store :=
      match store.fetch key (c.wanted hint) with
      | none => (.error .getMessage, c, store)
      | some (part, store) =>
        let handle : PartHandle := ⟨.message key, [], part⟩
        (.ok handle, { c with fetched := some (c.wanted hint, handle) }, store)
    match c.fetched with
    | some (had, handle) => if hint ≤ had then (.ok handle, c, store) else fresh
    | none => fresh

end Context

end MailFormula
