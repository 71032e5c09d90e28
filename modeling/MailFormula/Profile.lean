import MailFormula.Json.Basic
import MailFormula.Json.Writer
import MailFormula.Text.Ascii
import MailFormula.Text.Blank
/-!
# Profiles

A profile keeps settings: texts and integers under a section and a key. It is a JSON object of
sections, so a profile can start from any such object and its sections may be anything. A section
that is no object holds no settings, and the first setting put there replaces it.
-/

namespace MailFormula

open MailFormula.Text

/-- The integer that a text writes: a sign if there is one, then digits, within 64 bits. -/
def readInteger (cs : List Char) : Option Int :=
  let bounded (negative : Bool) (ds : List Char) : Option Int :=
    if ds.isEmpty || !ds.all isAsciiDigit then none
    else
      let n : Int := if negative then -(decimalValue ds : Int) else decimalValue ds
      if Int64.minValue.toInt ≤ n && n ≤ Int64.maxValue.toInt then some n else none
  match cs with
  | '+' :: ds => bounded false ds
  | '-' :: ds => bounded true ds
  | ds => bounded false ds

/-- A profile: its name, the file behind it if there is one, and the sections. -/
structure Profile where
  name : String
  path : Option String := none
  root : List (String × JsonValue) := []

namespace Profile

/-- The value of a setting. -/
def get? (p : Profile) (sec key : String) : Option JsonValue :=
  match p.root.lookup sec with
  | some (.object members) => members.lookup key
  | _ => none

/-- A setting as a text. -/
def getText (p : Profile) (sec key : String) : Option String :=
  match p.get? sec key with
  | some (.string s) => some s
  | some .null => none
  | some v => some v.toText
  | none => none

/-- A setting as an integer of 64 bits. -/
def getInteger (p : Profile) (sec key : String) : Option Int :=
  match p.get? sec key with
  | some (.integer n) => if n ≤ Int64.maxValue.toInt then some n else none
  | some (.string s) => readInteger (trimChars s.toList)
  | _ => none

/-- The members of a section; a section that is no object has none. -/
def members (p : Profile) (sec : String) : List (String × JsonValue) :=
  match p.root.lookup sec with
  | some (.object members) => members
  | _ => []

/-- Puts a value under a section and a key. -/
def put (p : Profile) (sec key : String) (v : JsonValue) : Profile :=
  { p with
    root := JsonValue.putMember sec (.object (JsonValue.putMember key v (p.members sec))) p.root }

/-- Puts a text. -/
def setText (p : Profile) (sec key text : String) : Profile := p.put sec key (.string text)

/-- Puts an integer. -/
def setInteger (p : Profile) (sec key : String) (n : Int) : Profile := p.put sec key (.integer n)

/-- The text of a profile's file. -/
def fileText (p : Profile) : String := (JsonValue.object p.root).toPrettyText

/-- **A setting reads back what was put last**, and every other one keeps what it had. -/
theorem get?_put (p : Profile) (sec key sec' key' : String) (v : JsonValue) :
    (p.put sec key v).get? sec' key' =
      if sec = sec' ∧ key = key' then some v else p.get? sec' key' := by
  unfold put get? members
  simp only [JsonValue.putMember, lookup_putEntry]
  by_cases hs : sec = sec'
  · subst hs
    simp only [if_true, true_and, lookup_putEntry]
    split
    · rfl
    · split <;> simp_all
  · simp [hs]

end Profile

end MailFormula
