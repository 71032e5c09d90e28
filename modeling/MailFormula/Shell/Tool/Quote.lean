import MailFormula.Shell.Octets
/-!
# Quoting

How tools show names and operands in what they say about faults. An operand stands in quotes with
escapes for what cannot be printed. A name is shown so that the shell would read it back: as it is
where that is plain, and quoted otherwise.
-/

namespace MailFormula.Shell

open MailFormula.Text

/-- A character that can be printed. -/
def isPrintable (c : Char) : Bool := ' ' ≤ c && c ≤ '~'

/-- An octet as three octal digits. -/
def octalText (c : Char) : Octets :=
  let digits := Nat.toDigits 8 c.toNat
  fill (3 - digits.length) '0' ++ digits

/-- The letter of the escape of a character, if it has one. -/
def escapeLetter? (c : Char) : Option Char :=
  match c with
  | '\x07' => some 'a'
  | '\x08' => some 'b'
  | '\x0c' => some 'f'
  | '\n' => some 'n'
  | '\r' => some 'r'
  | '\t' => some 't'
  | '\x0b' => some 'v'
  | _ => none

/-- The escape of a character that cannot be printed. -/
def escapeText (c : Char) : Octets :=
  match escapeLetter? c with
  | some letter => ['\\', letter]
  | none => '\\' :: octalText c

/-- An operand in quotes. -/
def quoted (cs : Octets) : Octets :=
  let shown (c : Char) : Octets :=
    if c == '\\' || c == '\'' then ['\\', c] else if isPrintable c then [c] else escapeText c
  '\'' :: cs.flatMap shown ++ ['\'']

/-- Whether a name can be shown as it is. -/
def isPlainName (cs : Octets) : Bool :=
  let plain (c : Char) : Bool :=
    isAsciiAlphanumeric c || "%+,-./@]_#~\x7b\x7d".toList.contains c
  match cs with
  | [] => false
  | c :: rest =>
    cs.all plain && c != '#' && c != '~' && !(rest.isEmpty && (c == '\x7b' || c == '\x7d'))

/-- Shows the characters of a name between quotes. What cannot be printed stands between quotes of
its own, which are open if `escaping`. -/
def shellQuoted (escaping : Bool) : Octets → Octets
  | [] => ['\'']
  | c :: cs =>
    if isPrintable c then
      let front := if escaping then ['\'', '\''] else []
      let shown := if c == '\'' then "'\\''".toList else [c]
      if escaping && c == '\'' then '\'' :: ("\\''".toList ++ shellQuoted false cs)
      else front ++ shown ++ shellQuoted false cs
    else
      let front := if escaping then [] else "'$'".toList
      front ++ escapeText c ++ shellQuoted true cs

/-- A name as the shell would read it back. One with single quotes but nothing that double quotes
would change stands in double quotes. -/
def quotedName (cs : Octets) : Octets :=
  let harmless (c : Char) : Bool :=
    isAsciiAlphanumeric c || "%+,-./:@]_#~\x7b\x7d ='".toList.contains c
  if isPlainName cs then cs
  else if cs.contains '\'' && cs.all harmless then '"' :: cs ++ ['"']
  else '\'' :: shellQuoted false cs

end MailFormula.Shell
