import MailFormula.Formula.Basic
import MailFormula.Formula.Lexeme
/-!
# Canonical text

The one way in which a formula is written: strings in single quotes, numbers in decimal without
leading zeros, one blank after each comma and none elsewhere.
-/

namespace MailFormula.Formula

open MailFormula.Lexeme

mutual
/-- The characters of the canonical text. -/
def chars : Formula → List Char
  | text s => '\'' :: escapeString s.toList ++ ['\'']
  | number n => Nat.toDigits 10 n.toNat
  | regex r => '/' :: escapePattern r.pattern.toList ++ '/' :: r.flags.toList
  | field name => '%' :: name.toList
  | var name => '$' :: name.toList
  | call name args => '@' :: name.toList ++ '(' :: argChars args ++ [')']

/-- The characters of an argument list. -/
def argChars : List Formula → List Char
  | [] => []
  | f :: fs => f.chars ++ moreChars fs

/-- The characters of the arguments after the first. -/
def moreChars : List Formula → List Char
  | [] => []
  | f :: fs => ',' :: ' ' :: f.chars ++ moreChars fs
end

/-- The canonical text. -/
def toText (f : Formula) : String := String.ofList f.chars

end MailFormula.Formula
