/-!
# Letters of ASCII

Names of functions, variables, fields, folders and accounts are compared without regard to the
case of ASCII letters, and no other character is folded. `Char.toLower` of core is exactly that
folding.
-/

namespace MailFormula.Text

/-- The text with its ASCII letters in lower case. -/
def asciiLower (s : String) : String :=
  String.ofList (s.toList.map Char.toLower)

/-- Equality up to the case of ASCII letters. -/
def sameName (a b : String) : Bool :=
  asciiLower a == asciiLower b

/-- A letter of ASCII. -/
def isAsciiAlpha (c : Char) : Bool :=
  ('a' ≤ c && c ≤ 'z') || ('A' ≤ c && c ≤ 'Z')

/-- A decimal digit of ASCII. -/
def isAsciiDigit (c : Char) : Bool :=
  '0' ≤ c && c ≤ '9'

/-- A letter or a decimal digit of ASCII. -/
def isAsciiAlphanumeric (c : Char) : Bool :=
  isAsciiAlpha c || isAsciiDigit c

/-- The value of a decimal digit. -/
def digitValue (c : Char) : Nat :=
  c.toNat - 48

/-- The number that a list of decimal digits writes, most significant first. -/
def decimalValue (ds : List Char) : Nat :=
  ds.foldl (fun n d => n * 10 + digitValue d) 0

/-- The value of a hexadecimal digit, if it is one. -/
def hexValue? (c : Char) : Option Nat :=
  if '0' ≤ c && c ≤ '9' then some (c.toNat - 48)
  else if 'a' ≤ c && c ≤ 'f' then some (c.toNat - 87)
  else if 'A' ≤ c && c ≤ 'F' then some (c.toNat - 55)
  else none

/-- The number that a list of hexadecimal digits writes; any other character counts as zero. -/
def hexNumber (ds : List Char) : Nat :=
  ds.foldl (fun n d => n * 16 + (hexValue? d).getD 0) 0

end MailFormula.Text
