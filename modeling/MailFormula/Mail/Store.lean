import MailFormula.Formula.Builtin
import MailFormula.Mail.Flag
import MailFormula.Mail.MessageId
import MailFormula.Time.HeaderDate
import MailFormula.Value
/-!
# The message store

A store holds accounts, accounts hold folders, and folders list messages. Every message ever
added keeps its key; a folder lists the keys of the messages that are in it now, so a removed
message is one that no folder lists any more. A folder numbers its messages in the order of their
arrival and never uses a number twice.

What a message is stays apart from what happens to it. The catalog holds what never changes once a
message is there: its place, its envelope and its content. The statuses hold what does change: the
flags, whether the content can be fetched, and how often it has been.
-/

namespace MailFormula

open MailFormula.Text MailFormula.Time

/-- The place of a folder: the account and the folder in it, by position. -/
structure FolderPlace where
  account : Nat
  folder : Nat
deriving DecidableEq, Repr

/-- A message as it arrived. -/
structure Message where
  /-- The number in its folder. -/
  id : UInt32
  /-- The folder it was added to; a detached message has none. -/
  home : Option FolderPlace
  /-- Whether its flags are fixed. -/
  readOnly : Bool
  size : UInt32
  date : Timestamp
  messageId : String
  /-- The id of the message that this one answers, or nothing. -/
  reference : String
  content : Part

namespace Message

/-- The id of the parent: the last reference, else the first id that the message replies to. -/
def parentReference (part : Part) : String :=
  let reference := (part.field "References").bind (fun text => (words text).getLast?)
  let reply := (part.field "In-Reply-To").bind
    (fun text => (words text).find? (fun w => w.toList.head? == some '<'))
  ((reference <|> reply).getD "")

/-- The date that the header states; without a readable one, the epoch. -/
def dateOf (part : Part) : Timestamp :=
  match part.field "Date" with
  | none => Timestamp.epoch
  | some text =>
    match HeaderDate.read (trim text) with
    | .ok t => t
    | .error _ => Timestamp.epoch

/-- A message from its text. -/
def read (id : UInt32) (home : Option FolderPlace) (readOnly : Bool) (text : String) : Message :=
  let content := Part.read text
  { id, home, readOnly, content
    size := clampNumber text.utf8ByteSize
    date := dateOf content
    messageId := trim ((content.field "Message-Id").getD "")
    reference := parentReference content }

end Message

/-- A folder: the messages in it, in order of arrival, and the number that the next one gets. -/
structure Folder where
  fullName : String
  messages : List MessageRef := []
  nextId : UInt32 := 1

namespace Folder

/-- The last part of a folder's path. -/
def name (f : Folder) : String :=
  String.ofList ((f.fullName.toList.reverse.takeWhile (· ≠ '/')).reverse)

/-- Lists a message under the next number. -/
def add (f : Folder) (key : MessageKey) : Folder :=
  { f with messages := f.messages ++ [⟨key, f.nextId⟩], nextId := f.nextId + 1 }

/-- The listed message with a number. -/
def find? (f : Folder) (id : UInt32) : Option MessageRef := f.messages.find? (fun m => m.id == id)

/-- Takes the message with a number off the list. -/
def remove (f : Folder) (id : UInt32) : Option MessageRef × Folder :=
  (f.find? id, { f with messages := f.messages.eraseP (fun m => m.id == id) })

/-- Whether a folder lists a message. -/
def lists (f : Folder) (key : MessageKey) : Bool := f.messages.any (fun m => m.key == key)

end Folder

/-- An account. -/
structure Account where
  name : String
  folders : List Folder := []

/-- The folder of an account with a full name, in any case of ASCII letters. -/
def Account.findFolder? (a : Account) (fullName : String) : Option Nat :=
  a.folders.findIdx? (fun f => sameName f.fullName fullName)

/-- What a store holds: the accounts, and every message ever added under its key. -/
structure Catalog where
  accounts : List Account := []
  messages : List Message := []

namespace Catalog

/-- A message by its key. -/
def message? (c : Catalog) (key : MessageKey) : Option Message := c.messages[key]?

/-- The account with a name, in any case of ASCII letters. -/
def findAccount? (c : Catalog) (name : String) : Option Nat :=
  c.accounts.findIdx? (fun a => sameName a.name name)

/-- An account by its position. -/
def account? (c : Catalog) (account : Nat) : Option Account := c.accounts[account]?

/-- A folder by its place. -/
def folder? (c : Catalog) (place : FolderPlace) : Option Folder :=
  (c.account? place.account).bind (fun a => a.folders[place.folder]?)

/-- Changes a folder in place. -/
def modifyFolder (c : Catalog) (place : FolderPlace) (change : Folder → Folder) : Catalog :=
  { c with
    accounts := c.accounts.modify place.account
      (fun a => { a with folders := a.folders.modify place.folder change }) }

/-- Whether the store itself keeps a message: it is in its folder, or it never was in one. -/
def keeps (c : Catalog) (key : MessageKey) : Bool :=
  match c.message? key with
  | none => false
  | some m =>
    match m.home with
    | none => true
    | some place =>
      match c.folder? place with
      | some f => f.lists key
      | none => false

/-- The messages of a list that are in the catalog, each with its entry. -/
def resolve (c : Catalog) (list : List MessageRef) : List (MessageRef × Message) :=
  list.filterMap (fun r => (c.message? r.key).map (fun m => (r, m)))

end Catalog

/-- What has happened to a message. -/
structure Status where
  flags : UInt32 := 0
  /-- Whether the content can be fetched. -/
  available : Bool := true
  /-- How often the content has been fetched. -/
  fetches : Nat := 0
deriving DecidableEq, Repr

/-- A message store. -/
structure Store where
  catalog : Catalog := {}
  /-- The status of each message, under its key. -/
  statuses : List Status := []

namespace Store

/-- The status of a message. -/
def status? (s : Store) (key : MessageKey) : Option Status := s.statuses[key]?

/-- Changes the status of a message. -/
def modifyStatus (s : Store) (key : MessageKey) (change : Status → Status) : Store :=
  { s with statuses := s.statuses.modify key change }

/-- Adds an account. -/
def addAccount (s : Store) (name : String) : Store :=
  { s with catalog := { s.catalog with accounts := s.catalog.accounts ++ [{ name }] } }

/-- Adds a folder to an account. -/
def addFolder (s : Store) (account : Nat) (fullName : String) : Store :=
  let add (a : Account) : Account := { a with folders := a.folders ++ [{ fullName }] }
  { s with catalog := { s.catalog with accounts := s.catalog.accounts.modify account add } }

/-- Adds a message under the next key. -/
def addMessage (s : Store) (m : Message) : Store :=
  { catalog := { s.catalog with messages := s.catalog.messages ++ [m] }
    statuses := s.statuses ++ [{}] }

/-- Adds a message to a folder, and answers the number it got. -/
def deliver (s : Store) (place : FolderPlace) (text : String) : Option (UInt32 × Store) :=
  (s.catalog.folder? place).map fun f =>
    let key := s.catalog.messages.length
    let s := s.addMessage (Message.read f.nextId (some place) false text)
    (f.nextId, { s with catalog := s.catalog.modifyFolder place (fun f => f.add key) })

/-- Adds a message that belongs to no folder. -/
def addDetached (s : Store) (text : String) (readOnly : Bool) : Store :=
  s.addMessage (Message.read 1 none readOnly text)

/-- Takes a message out of a folder, and answers whether it was there. -/
def remove (s : Store) (place : FolderPlace) (id : UInt32) : Bool × Store :=
  match s.catalog.folder? place with
  | none => (false, s)
  | some f =>
    ((f.find? id).isSome,
      { s with catalog := s.catalog.modifyFolder place (fun f => (f.remove id).2) })

/-- Fetches the content of a message, if it can be had. The caller says how much it wants; the store
has all of it at hand, and hands that out whatever is wanted. -/
def fetch (s : Store) (key : MessageKey) (_wanted : Hint) : Option (Part × Store) :=
  match s.catalog.message? key, s.status? key with
  | some m, some status =>
    if status.available then
      some (m.content, s.modifyStatus key (fun st => { st with fetches := st.fetches + 1 }))
    else none
  | _, _ => none

/-- Replaces the flags of a message that a mask selects; fixed flags stay as they are. Answers
whether the flags could be changed. -/
def setFlags (s : Store) (key : MessageKey) (bits mask : UInt32) : Bool × Store :=
  match s.catalog.message? key with
  | none => (false, s)
  | some m =>
    if m.readOnly then (false, s)
    else (true, s.modifyStatus key (fun st => { st with flags := setBits st.flags bits mask }))

end Store

end MailFormula
