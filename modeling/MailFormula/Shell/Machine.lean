import MailFormula.Files
import MailFormula.Shell.Reader
/-!
# The shell at work

The state of a shell that runs a script: its variables and functions, the files, and the streams
that its commands read and write. A stream is known by a number, and several numbers may lead to the
same stream; what one of them reads is gone for the others. Commands run one after another, also
those that are joined by pipes, so a pipe holds all that was written into it.
-/

namespace MailFormula.Shell

open MailFormula.Text

/-- Where octets come from or go to. -/
inductive Stream where
  /-- The end of a pipe that is read. -/
  | source (rest : Octets)
  /-- The end of a pipe that is written; what was written, last first. -/
  | sink (written : List Octets)
  | file (place : FilePlace) (offset : Nat) (mode : OpenMode)
  /-- A directory, which can be opened but not read. -/
  | directory
  /-- Gives nothing and swallows everything. -/
  | void

/-- A shell. -/
structure Machine where
  files : FileTree
  streams : Array Stream
  /-- Which stream a number leads to. -/
  slots : List (Nat × Nat)
  /-- The values of variables, last ones first. -/
  bindings : List (Octets × Octets) := []
  functions : List (Octets × Command) := []
  /-- The arguments of the function under way. -/
  arguments : List Octets := []
  /-- The status of the last command. -/
  status : Nat := 0
  /-- The status of the last command whose output was put in, within the command under way. -/
  outputStatus : Nat := 0
  documents : List (Nat × List Piece) := []
  /-- The line of the command under way. -/
  line : Nat := 1

/-- What ends a shell before its script is over. -/
inductive Halt where
  | exit (status : Nat)
  /-- A script that runs for too long. -/
  | exhausted
deriving DecidableEq, Repr

/-- Running a part of a script. -/
abbrev Run := ExceptT Halt (StateM Machine)

namespace Machine

/-- The stream that a number leads to. -/
def stream? (m : Machine) (n : Nat) : Option Stream :=
  (m.slots.lookup n).bind (fun i => m.streams[i]?)

/-- Puts a stream in place of the one that a number leads to. -/
def setStream (m : Machine) (n : Nat) (s : Stream) : Machine :=
  match m.slots.lookup n with
  | some i => { m with streams := m.streams.setIfInBounds i s }
  | none => m

/-- Leads a number to a stream of its own. -/
def openStream (m : Machine) (n : Nat) (s : Stream) : Machine :=
  { m with
    streams := m.streams.push s
    slots := (n, m.streams.size) :: m.slots.filter (fun e => e.1 ≠ n) }

/-- Leads a number to nothing. -/
def closeStream (m : Machine) (n : Nat) : Machine :=
  { m with slots := m.slots.filter (fun e => e.1 ≠ n) }

/-- The bytes of a file. -/
def contentAt (m : Machine) (place : FilePlace) : Octets :=
  match m.files.node place with
  | .file content => ofBytes content.toBytes
  | _ => []

/-- The value of a variable. -/
def valueOf? (m : Machine) (name : Octets) : Option Octets := m.bindings.lookup name

/-- Gives a variable a value. -/
def assign (m : Machine) (name value : Octets) : Machine :=
  { m with bindings := (name, value) :: m.bindings.filter (fun e => e.1 ≠ name) }

end Machine

/-- Puts octets into a file from a place on. -/
def overwrite (content : Octets) (offset : Nat) (cs : Octets) : Octets :=
  content.take offset ++ fill (offset - content.length) '\x00' ++ cs ++
    content.drop (offset + cs.length)

/-- Writes to the stream of a number. Nothing happens where that cannot be written; the answer says
whether it can. -/
def write (n : Nat) (cs : Octets) : Run Bool := do
  let m ← get
  match m.stream? n with
  | some (.sink written) =>
    set (m.setStream n (.sink (cs :: written)))
    return true
  | some (.file place offset mode) =>
    if mode == .read then return false
    else
      let content := m.contentAt place
      let start := if mode == .append then content.length else offset
      let after := overwrite content start cs
      let m := m.setStream n (.file place (start + cs.length) mode)
      set { m with files := m.files.put place (FileContent.ofBytes (toBytes after)) }
      return true
  | some .void => return true
  | _ => return false

/-- Tells of a fault. -/
def complain (cs : Octets) : Run Unit := do
  let _ ← write 2 cs

/-- Tells of a fault of the shell itself, with the line of the command under way. -/
def tell (cs : Octets) : Run Unit := do
  complain ("sh: ".toList ++ decimalText (← get).line ++ ": ".toList ++ cs ++ ['\n'])

/-- Ends the shell with a fault. -/
def fail {α : Type} (cs : Octets) : Run α := do
  tell cs
  throw (.exit 2)

/-- Why something cannot be read. -/
inductive ReadFault where
  | isClosed
  | isDirectory
deriving DecidableEq, Repr

/-- A fault in words. -/
def ReadFault.text : ReadFault → String
  | isClosed => "Bad file descriptor"
  | isDirectory => "Is a directory"

/-- Reads all that is left in the stream of a number. -/
def readAll (n : Nat) : Run (Except ReadFault Octets) := do
  let m ← get
  match m.stream? n with
  | some (.source rest) =>
    set (m.setStream n (.source []))
    return .ok rest
  | some (.file place offset mode) =>
    if mode == .write || mode == .append then return .error .isClosed
    else
      let content := m.contentAt place
      set (m.setStream n (.file place (max offset content.length) mode))
      return .ok (content.drop offset)
  | some .void => return .ok []
  | some .directory => return .error .isDirectory
  | _ => return .error .isClosed

/-- Runs something in a shell of its own: what it does to variables, functions and the numbers of
streams is forgotten, and where it ends itself, only it ends. Its status is kept. -/
def apart (body : Run Unit) : Run Unit := do
  let before ← get
  let status ←
    try
      body
      pure (← get).status
    catch
      | .exit status => pure status
      | .exhausted => throw .exhausted
  modify fun after =>
    { before with
      files := after.files, streams := after.streams, documents := after.documents, status }

/-- Runs something whose output is gathered. -/
def gather (body : Run Unit) : Run Octets := do
  let index := (← get).streams.size
  apart do
    modify fun m => m.openStream 1 (.sink [])
    body
  match (← get).streams[index]? with
  | some (.sink written) =>
    -- What was gathered is not needed again.
    modify fun m => { m with streams := m.streams.setIfInBounds index .void }
    return written.reverse.flatten
  | _ => return []

end MailFormula.Shell
