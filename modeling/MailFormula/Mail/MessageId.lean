import MailFormula.Text.Blank
/-!
# Message ids

A message id is compared without its angle brackets and the blanks around and inside them. Threads
are indexed by a 32-bit hash of the id; the hash 0 means that there is no id.
-/

namespace MailFormula.MessageId

open MailFormula.Text

/-- Removes one character from the front, if it is there. -/
def dropFront (c : Char) (cs : List Char) : List Char :=
  match cs with
  | d :: rest => if d == c then rest else cs
  | [] => []

/-- Removes one character from the end, if it is there. -/
def dropBack (c : Char) (cs : List Char) : List Char :=
  if cs.getLast? == some c then cs.dropLast else cs

/-- The characters of an id without brackets and the blanks around them. -/
def normalizeChars (cs : List Char) : List Char :=
  trimChars (dropBack '>' (dropFront '<' (trimChars cs)))

/-- The id without brackets and the blanks around them. -/
def normalize (id : String) : String := String.ofList (normalizeChars id.toList)

/-- One step of the hash. -/
def hashByte (h : UInt32) (b : UInt8) : UInt32 := (h ^^^ b.toUInt32) * 0x01000193

/-- The hash of a normalized id: 0 for the empty id only. -/
def hashNormalized (id : String) : UInt32 :=
  if id.isEmpty then 0
  else
    let h := id.toUTF8.toList.foldl hashByte 0x811c9dc5
    if h == 0 then 1 else h

/-- The hash of an id. -/
def hash (id : String) : UInt32 := hashNormalized (normalize id)

end MailFormula.MessageId
