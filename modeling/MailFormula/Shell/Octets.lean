import MailFormula.Text.Ascii
import MailFormula.Text.Utf8
/-!
# Octets

The shell and its tools work on octets and know nothing of the characters that several of them
write together. An octet is kept as the character of its code, so that those of ASCII can be written
as they are.
-/

namespace MailFormula.Shell

open MailFormula.Text

/-- A text as the shell sees it: characters below 256, one for each octet. -/
abbrev Octets := List Char

/-- The octets of bytes. -/
def ofBytes (bytes : List UInt8) : Octets := bytes.map (fun b => Char.ofNat b.toNat)

/-- The bytes of octets. -/
def toBytes (cs : Octets) : List UInt8 := cs.map (fun c => UInt8.ofNat c.toNat)

/-- The octets of a text. -/
def octets (s : String) : Octets := ofBytes (utf8Bytes s)

/-- The text of octets that are plain ASCII. -/
def asText (cs : Octets) : String := String.ofList cs

/-- A blank or the end of a line. -/
def isWhite (c : Char) : Bool := c == ' ' || ('\t' ≤ c && c ≤ '\r')

/-- An octal digit. -/
def isOctal (c : Char) : Bool := '0' ≤ c && c ≤ '7'

/-- A hexadecimal digit. -/
def isHex (c : Char) : Bool := (hexValue? c).isSome

/-- The number that octal digits write. -/
def octalValue (ds : List Char) : Nat := ds.foldl (fun n d => n * 8 + digitValue d) 0

/-- A character that a name may start with. -/
def isNameStart (c : Char) : Bool := isAsciiAlpha c || c == '_'

/-- A character of a name. -/
def isNameChar (c : Char) : Bool := isAsciiAlphanumeric c || c == '_'

/-- Whether octets are a name. -/
def isName : Octets → Bool
  | [] => false
  | c :: cs => isNameStart c && cs.all isNameChar

/-- A number in decimal digits. -/
def decimalText (n : Nat) : Octets := Nat.toDigits 10 n

/-- An integer in decimal digits. -/
def integerText (n : Int) : Octets :=
  if n < 0 then '-' :: decimalText n.natAbs else decimalText n.natAbs

/-- A character so many times. -/
def fill (n : Nat) (c : Char) : Octets := List.replicate n c

end MailFormula.Shell
