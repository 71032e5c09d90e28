import MailFormula.Mail.Address
import MailFormula.Mail.Part
import MailFormula.Regex
import MailFormula.Text.Case
import MailFormula.Time.Directive
/-!
# Values

What a formula evaluates to. Every value reads as a text, as a number and as a truth value; these
readings never fail. Some values refer to things that live elsewhere: a part stands for a place in
a message, and a list names messages that may be gone by the time it is read. Reading such a list
needs to know which messages are still there, and skips the others.
-/

namespace MailFormula

open MailFormula.Text MailFormula.Time

/-- The name of a message in the mailbox, never used twice. -/
abbrev MessageKey := Nat

/-- An entry of a message list: the message and the number it has in its folder. -/
structure MessageRef where
  key : MessageKey
  id : UInt32
deriving DecidableEq, Repr

/-- Where a part comes from: a message of the mailbox, or a text read by itself. -/
inductive PartSource where
  | message (key : MessageKey)
  | standalone (serial : Nat)
deriving DecidableEq, Repr

/-- A part together with the place it comes from. Two handles are the same part when source and
path agree; equal texts are not enough. -/
structure PartHandle where
  source : PartSource
  path : List Nat
  part : Part
deriving Repr

namespace PartHandle

/-- The same place in the same source. -/
def same (a b : PartHandle) : Bool := a.source == b.source && a.path == b.path

/-- The handle of a child. -/
def child? (h : PartHandle) (index : Nat) : Option PartHandle :=
  h.part.children[index]?.map fun p => ⟨h.source, h.path ++ [index], p⟩

end PartHandle

/-- A value. -/
inductive Value where
  | boolean (b : Bool)
  | number (n : UInt32)
  | string (s : String)
  | time (t : Timestamp)
  /-- A header field; a field that the header does not have has no text. -/
  | field (name : String) (raw : Option String)
  | address (addresses : List String)
  /-- A part, or the null part. -/
  | part (handle : Option PartHandle)
  | messages (list : List MessageRef)
  | regex (r : Regex)

/-- The mailboxes of a field's text. -/
def fieldMailboxes (raw : Option String) : List Mailbox :=
  match raw with
  | some text => Address.readList text
  | none => []

/-- The number that the leading digits of a text write, blanks before them skipped. A text without
digits and a number above 32 bits count as zero. -/
def leadingNumber (s : String) : UInt32 :=
  let n := decimalValue ((dropBlanks s.toList).takeWhile isAsciiDigit)
  if n < UInt32.size then UInt32.ofNat n else 0

/-- The 32-bit number nearest to an integer. -/
def clampNumber (n : Int) : UInt32 :=
  if n ≤ 0 then 0 else if n < UInt32.size then UInt32.ofNat n.toNat else 0xFFFFFFFF

/-- The text that a truth value is written as. -/
def boolText (b : Bool) : String := if b then "true" else "false"

namespace Value

/-- The name of the kind of a value. -/
def typeName : Value → String
  | boolean _ => "Boolean"
  | number _ => "Number"
  | string _ => "String"
  | time _ => "Time"
  | field _ _ => "Field"
  | address _ => "Address"
  | part _ => "Part"
  | messages _ => "MessageList"
  | regex _ => "Regex"

/-- A value as a text; `live` says which messages are still there. -/
def text (live : MessageKey → Bool) : Value → String
  | boolean b => boolText b
  | number n => toString n.toNat
  | string s => s
  | time t => t.text
  | field _ raw => raw.getD ""
  | address addresses => String.intercalate ", " addresses
  | part handle =>
    match handle with
    | some h => h.part.bodyText
    | none => ""
  | messages list =>
    String.intercalate "," ((list.filter (live ·.key)).map (fun m => toString m.id.toNat))
  | regex r => "/" ++ r.pattern ++ "/"

/-- A value as a number. -/
def toNumber : Value → UInt32
  | boolean b => if b then 1 else 0
  | number n => n
  | string s => leadingNumber s
  | time t => clampNumber t.seconds
  | field _ raw =>
    match raw with
    | some s => leadingNumber s
    | none => 0
  | address _ => 0
  | part _ => 0
  | messages _ => 0
  | regex _ => 0

/-- A value as a truth value. -/
def truth : Value → Bool
  | boolean b => b
  | number n => n != 0
  | string s => !s.isEmpty
  | time _ => true
  | field _ raw => raw.isSome
  | address addresses => !addresses.isEmpty
  | part handle => handle.isSome
  | messages list => !list.isEmpty
  | regex _ => true

/-- Equality of values: of the same kind and with the same content. Times are equal as instants,
regular expressions by their pattern text, parts and messages by identity. -/
def same : Value → Value → Bool
  | boolean a, boolean b => a == b
  | number a, number b => a == b
  | string a, string b => a == b
  | time a, time b => a.sameInstant b
  | field a x, field b y => a == b && x == y
  | address a, address b => a == b
  | part (some a), part (some b) => a.same b
  | part none, part none => true
  | messages a, messages b => a.map MessageRef.key == b.map MessageRef.key
  | regex a, regex b => a.pattern == b.pattern
  | _, _ => false

/-- The order of two texts by their characters. -/
def compareText (a b : String) : Ordering :=
  if a < b then .lt else if a == b then .eq else .gt

/-- The order of two values. Numbers and truth values compare among themselves; everything else
compares as text, in lower case unless case counts. -/
def compare (live : MessageKey → Bool) (a b : Value) (caseSensitive : Bool) : Ordering :=
  match a, b with
  | number x, number y => Ord.compare x.toNat y.toNat
  | boolean x, boolean y => Ord.compare x.toNat y.toNat
  | _, _ =>
    if caseSensitive then compareText (a.text live) (b.text live)
    else compareText (lower (a.text live)) (lower (b.text live))

end Value

end MailFormula
