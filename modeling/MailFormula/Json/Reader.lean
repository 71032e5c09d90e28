import MailFormula.Json.Basic
import MailFormula.Text.Ascii
/-!
# Reading JSON

A strict reader: one value, blanks around it, and nothing else. It stops at the first fault and
says what it is and where, in lines and bytes. A text that ends too early is told apart from one
that goes wrong.

The reader goes down one level of nesting at a time and refuses more than a fixed number of
levels; along a level it walks the text, so the length of the text bounds every loop.
-/

namespace MailFormula

open MailFormula.Text

/-- Why a text is no JSON value. -/
inductive JsonFault where
  | endInList
  | endInObject
  | endInString
  | endInValue
  | expectedColon
  | expectedListEnd
  | expectedObjectEnd
  | expectedIdent
  | expectedValue
  | invalidEscape
  | invalidNumber
  | numberOutOfRange
  | controlCharacter
  | keyNotString
  | loneSurrogate
  | trailingComma
  | trailingCharacters
  | unfinishedSurrogate
  | tooDeep
deriving DecidableEq, Repr

namespace JsonFault

/-- A fault in words. -/
def description : JsonFault → String
  | endInList => "EOF while parsing a list"
  | endInObject => "EOF while parsing an object"
  | endInString => "EOF while parsing a string"
  | endInValue => "EOF while parsing a value"
  | expectedColon => "expected \x60:\x60"
  | expectedListEnd => "expected \x60,\x60 or \x60]\x60"
  | expectedObjectEnd => "expected \x60,\x60 or \x60\x7d\x60"
  | expectedIdent => "expected ident"
  | expectedValue => "expected value"
  | invalidEscape => "invalid escape"
  | invalidNumber => "invalid number"
  | numberOutOfRange => "number out of range"
  | controlCharacter => "control character (\\u0000-\\u001F) found while parsing a string"
  | keyNotString => "key must be a string"
  | loneSurrogate => "lone leading surrogate in hex escape"
  | trailingComma => "trailing comma"
  | trailingCharacters => "trailing characters"
  | unfinishedSurrogate => "unexpected end of hex escape"
  | tooDeep => "recursion limit exceeded"

/-- Whether the text only ended too early. -/
def isEnd : JsonFault → Bool
  | endInList | endInObject | endInString | endInValue => true
  | _ => false

end JsonFault

/-- A fault and its place: the line from 1, and the bytes of that line up to it. -/
structure JsonError where
  fault : JsonFault
  line : Nat
  column : Nat
deriving DecidableEq, Repr

/-- A fault and its place in words. -/
def JsonError.message (e : JsonError) : String :=
  e.fault.description ++ " at line " ++ toString e.line ++ " column " ++ toString e.column

namespace JsonValue

/-- A fault while reading: what was left of the text, and how many bytes of it count as read. -/
structure Halt where
  fault : JsonFault
  rest : List Char
  extra : Nat

/-- A reading step; it gives what it read and the text after it. -/
abbrev Reading := Except Halt

/-- Stops before the rest of the text. -/
def halt {α : Type} (fault : JsonFault) (rest : List Char) : Reading α := .error ⟨fault, rest, 0⟩

/-- Stops after the next byte of the text. -/
def haltAfter {α : Type} (fault : JsonFault) (rest : List Char) : Reading α :=
  .error ⟨fault, rest, 1⟩

/-- Whether a character is a blank between tokens. -/
def isSpace (c : Char) : Bool := c == ' ' || c == '\n' || c == '\t' || c == '\r'

/-- The text from the next token on. -/
def skipSpace (cs : List Char) : List Char := cs.dropWhile isSpace

/-- The number of bytes of a text. -/
def byteCount (cs : List Char) : Nat := cs.foldr (fun c n => c.utf8Size + n) 0

/-! ## Strings -/

/-- The character of an escape that is one letter. -/
def letterEscape? (c : Char) : Option Char :=
  match c with
  | '"' => some '"'
  | '\\' => some '\\'
  | '/' => some '/'
  | 'b' => some '\x08'
  | 'f' => some '\x0c'
  | 'n' => some '\n'
  | 'r' => some '\r'
  | 't' => some '\t'
  | _ => none

/-- Four hexadecimal digits. -/
def fourHex (cs : List Char) : Reading (Nat × List Char) :=
  match cs with
  | a :: b :: c :: d :: rest =>
    match hexValue? a, hexValue? b, hexValue? c, hexValue? d with
    | some p, some q, some r, some s => .ok (((p * 16 + q) * 16 + r) * 16 + s, rest)
    | _, _, _, _ => .error ⟨.invalidEscape, cs, 4⟩
  | _ => if byteCount cs < 4 then halt .endInString [] else .error ⟨.invalidEscape, cs, 4⟩

/-- The second half of a pair of escapes, after the first half. -/
def lowSurrogate (high : Nat) (cs : List Char) : Reading (Char × List Char) :=
  match cs with
  | [] => halt .endInString []
  | '\\' :: [] => halt .endInString []
  | '\\' :: 'u' :: rest => do
    let (low, rest) ← fourHex rest
    if 0xDC00 ≤ low && low ≤ 0xDFFF then
      .ok (Char.ofNat ((high - 0xD800) * 0x400 + (low - 0xDC00) + 0x10000), rest)
    else halt .loneSurrogate rest
  | '\\' :: rest => haltAfter .unfinishedSurrogate rest
  | rest => haltAfter .unfinishedSurrogate rest

/-- The character of an escape, after its backslash. -/
def escaped (cs : List Char) : Reading (Char × List Char) :=
  match cs with
  | [] => halt .endInString []
  | c :: rest =>
    match letterEscape? c with
    | some d => .ok (d, rest)
    | none =>
      if c ≠ 'u' then haltAfter .invalidEscape cs
      else do
        let (n, rest) ← fourHex rest
        if 0xDC00 ≤ n && n ≤ 0xDFFF then halt .loneSurrogate rest
        else if 0xD800 ≤ n && n ≤ 0xDBFF then lowSurrogate n rest
        else .ok (Char.ofNat n, rest)

/-- The rest of a string after its opening quote, one character or escape at a time. -/
def stringFrom : Nat → List Char → Reading (List Char × List Char)
  | 0, rest => halt .endInString rest
  | steps + 1, cs =>
    match cs with
    | [] => halt .endInString []
    | c :: rest =>
      if c = '"' then .ok ([], rest)
      else if c = '\\' then do
        let (d, rest) ← escaped rest
        let (more, rest) ← stringFrom steps rest
        .ok (d :: more, rest)
      else if c.toNat < 0x20 then haltAfter .controlCharacter cs
      else do
        let (more, rest) ← stringFrom steps rest
        .ok (c :: more, rest)

/-- A string after its opening quote. -/
def readString (cs : List Char) : Reading (String × List Char) := do
  let (chars, rest) ← stringFrom (cs.length + 1) cs
  .ok (String.ofList chars, rest)

/-! ## Numbers -/

/-- The largest integer that is kept exactly. -/
def mostExact : Nat := UInt64.size - 1

/-- Takes digits into a number while it stays exact: the number, how many digits it took, and the
text after them. -/
def absorb (n taken : Nat) : List Char → Nat × Nat × List Char
  | [] => (n, taken, [])
  | c :: rest =>
    if isAsciiDigit c && n * 10 + digitValue c ≤ mostExact then
      absorb (n * 10 + digitValue c) (taken + 1) rest
    else (n, taken, c :: rest)

/-- Whether a text starts with a digit. -/
def digitNext (cs : List Char) : Bool := (cs.head?.map isAsciiDigit).getD false

/-- A number times a power of ten, rounded at every step; nothing when it is too large. -/
def scaleFloat : Nat → Float → Int → Option Float
  | 0, f, _ => some f
  | steps + 1, f, exponent =>
    if exponent.natAbs ≤ 308 then
      let power := Float.ofScientific 1 false exponent.natAbs
      if 0 ≤ exponent then
        let g := f * power
        if g.isInf then none else some g
      else some (f / power)
    else if f == 0.0 then some f
    else if 0 ≤ exponent then none
    else scaleFloat steps (f / 1e308) (exponent + 308)

/-- The floating-point number `n * 10 ^ exponent` with a sign. -/
def toFloat (positive : Bool) (n : Nat) (exponent : Int) (rest : List Char) :
    Reading (JsonValue × List Char) :=
  match scaleFloat 8 (UInt64.ofNat n).toFloat exponent with
  | none => halt .numberOutOfRange rest
  | some f => .ok (.float (if positive then f else -f), rest)

/-- Takes the digits of an exponent while they fit 32 bits. -/
def exponentDigits (n : Nat) : List Char → Option Nat × List Char
  | [] => (some n, [])
  | c :: rest =>
    if isAsciiDigit c then
      if n * 10 + digitValue c ≤ 0x7FFFFFFF then exponentDigits (n * 10 + digitValue c) rest
      else (none, rest)
    else (some n, c :: rest)

/-- The exponent of a number, after its letter. -/
def readExponent (positive : Bool) (n : Nat) (exponent : Int) (cs : List Char) :
    Reading (JsonValue × List Char) :=
  let (up, cs) :=
    match cs with
    | '+' :: rest => (true, rest)
    | '-' :: rest => (false, rest)
    | _ => (true, cs)
  match cs with
  | [] => halt .endInValue []
  | c :: rest =>
    if !isAsciiDigit c then haltAfter .invalidNumber cs
    else
      match exponentDigits (digitValue c) rest with
      | (some e, rest) => toFloat positive n (if up then exponent + e else exponent - e) rest
      | (none, rest) =>
        if n ≠ 0 && up then halt .numberOutOfRange rest
        else .ok (.float (if positive then 0.0 else -0.0), rest.dropWhile isAsciiDigit)

/-- What follows the digits of a floating-point number: an exponent or nothing. -/
def afterDigits (positive : Bool) (n : Nat) (exponent : Int) (cs : List Char) :
    Reading (JsonValue × List Char) :=
  match cs with
  | 'e' :: rest => readExponent positive n exponent rest
  | 'E' :: rest => readExponent positive n exponent rest
  | _ => toFloat positive n exponent cs

/-- The digits after the point. Digits that no longer fit are skipped. -/
def readFraction (positive : Bool) (n : Nat) (exponent : Int) (cs : List Char) :
    Reading (JsonValue × List Char) :=
  let (m, taken, rest) := absorb n 0 cs
  if digitNext rest then afterDigits positive m (exponent - taken) (rest.dropWhile isAsciiDigit)
  else if taken = 0 then
    match rest with
    | [] => halt .endInValue []
    | _ => haltAfter .invalidNumber rest
  else afterDigits positive m (exponent - taken) rest

/-- What follows the digits before the point. -/
def afterInteger (positive : Bool) (n : Nat) (cs : List Char) : Reading (JsonValue × List Char) :=
  match cs with
  | '.' :: rest => readFraction positive n 0 rest
  | 'e' :: rest => readExponent positive n 0 rest
  | 'E' :: rest => readExponent positive n 0 rest
  | _ =>
    if positive then .ok (.integer n, cs)
    else if n = 0 || UInt64.size / 2 < n then .ok (.float (-(UInt64.ofNat n).toFloat), cs)
    else .ok (.integer (-n), cs)

/-- A number after its sign. -/
def readNumber (positive : Bool) (cs : List Char) : Reading (JsonValue × List Char) :=
  match cs with
  | [] => halt .endInValue []
  | '0' :: rest =>
    if digitNext rest then haltAfter .invalidNumber rest else afterInteger positive 0 rest
  | c :: _ =>
    if !isAsciiDigit c then haltAfter .invalidNumber cs
    else
      let (n, _, rest) := absorb 0 0 cs
      if digitNext rest then
        let more := rest.takeWhile isAsciiDigit
        let rest := rest.dropWhile isAsciiDigit
        match rest with
        | '.' :: rest => readFraction positive n more.length rest
        | _ => afterDigits positive n more.length rest
      else afterInteger positive n rest

/-! ## Values -/

/-- A fixed word, of which the first letter has been read. -/
def readWord (value : JsonValue) : List Char → List Char → Reading (JsonValue × List Char)
  | [], cs => .ok (value, cs)
  | _ :: _, [] => halt .endInValue []
  | w :: ws, c :: rest =>
    if c = w then readWord value ws rest else haltAfter .expectedIdent (c :: rest)

/-- The items of an array, up to its closing mark. -/
def readItems (value : List Char → Reading (JsonValue × List Char)) :
    Nat → Bool → List Char → Reading (List JsonValue × List Char)
  | 0, _, cs => halt .endInList cs
  | steps + 1, first, cs =>
    let item (cs : List Char) : Reading (List JsonValue × List Char) := do
      let (v, rest) ← value cs
      let (more, rest) ← readItems value steps false rest
      .ok (v :: more, rest)
    match skipSpace cs with
    | [] => halt .endInList []
    | ']' :: rest => .ok ([], rest)
    | c :: rest =>
      if first then item (c :: rest)
      else if c = ',' then
        match skipSpace rest with
        | [] => halt .endInValue []
        | ']' :: rest => haltAfter .trailingComma (']' :: rest)
        | next => item next
      else haltAfter .expectedListEnd (c :: rest)

/-- A member of an object, from the opening quote of its key on. -/
def readMember (value : List Char → Reading (JsonValue × List Char)) (cs : List Char) :
    Reading ((String × JsonValue) × List Char) := do
  let (key, rest) ← readString (cs.drop 1)
  match skipSpace rest with
  | [] => halt .endInObject []
  | ':' :: rest =>
    let (v, rest) ← value rest
    .ok ((key, v), rest)
  | rest => haltAfter .expectedColon rest

/-- The members of an object, up to its closing mark. Of two members with one key the later one
counts. -/
def readMembers (value : List Char → Reading (JsonValue × List Char)) :
    Nat → Bool → List (String × JsonValue) → List Char →
      Reading (List (String × JsonValue) × List Char)
  | 0, _, _, cs => halt .endInObject cs
  | steps + 1, first, members, cs =>
    let member (cs : List Char) : Reading (List (String × JsonValue) × List Char) := do
      let ((key, v), rest) ← readMember value cs
      readMembers value steps false (putMember key v members) rest
    match skipSpace cs with
    | [] => halt .endInObject []
    | '\x7d' :: rest => .ok (members, rest)
    | c :: rest =>
      if first then
        if c = '"' then member (c :: rest) else haltAfter .keyNotString (c :: rest)
      else if c = ',' then
        match skipSpace rest with
        | [] => halt .endInValue []
        | '"' :: rest => member ('"' :: rest)
        | '\x7d' :: rest => haltAfter .trailingComma ('\x7d' :: rest)
        | next => haltAfter .keyNotString next
      else haltAfter .expectedObjectEnd (c :: rest)

/-- A value that is not nested, or the stop at a character that starts none. -/
def readScalar (cs : List Char) : Reading (JsonValue × List Char) :=
  match cs with
  | [] => halt .endInValue []
  | 'n' :: rest => readWord .null "ull".toList rest
  | 't' :: rest => readWord (.boolean true) "rue".toList rest
  | 'f' :: rest => readWord (.boolean false) "alse".toList rest
  | '-' :: rest => readNumber false rest
  | '"' :: rest => do
    let (s, rest) ← readString rest
    .ok (.string s, rest)
  | c :: rest =>
    if isAsciiDigit c then readNumber true (c :: rest) else haltAfter .expectedValue (c :: rest)

/-- A value with at most `levels` levels of nesting. -/
def readValue : Nat → List Char → Reading (JsonValue × List Char)
  | 0, cs =>
    match skipSpace cs with
    | '[' :: rest => haltAfter .tooDeep ('[' :: rest)
    | '\x7b' :: rest => haltAfter .tooDeep ('\x7b' :: rest)
    | cs => readScalar cs
  | levels + 1, cs =>
    match skipSpace cs with
    | '[' :: rest => do
      let (items, rest) ← readItems (readValue levels) (rest.length + 1) true rest
      .ok (.array items, rest)
    | '\x7b' :: rest => do
      let (members, rest) ← readMembers (readValue levels) (rest.length + 1) true [] rest
      .ok (.object members, rest)
    | cs => readScalar cs

/-- How deep arrays and objects may be nested. -/
def mostLevels : Nat := 127

/-- One value with nothing but blanks around it. -/
def readDocument (cs : List Char) : Reading JsonValue := do
  let (v, rest) ← readValue mostLevels cs
  match skipSpace rest with
  | [] => .ok v
  | rest => haltAfter .trailingCharacters rest

/-- The line and the column of a byte of a text. -/
def placeOf (bytes : List UInt8) (index : Nat) : Nat × Nat :=
  let before := bytes.take index
  (before.count 10 + 1, (before.reverse.takeWhile (· ≠ 10)).length)

/-- Reads a JSON text. -/
def read (text : String) : Except JsonError JsonValue :=
  match readDocument text.toList with
  | .ok v => .ok v
  | .error h =>
    let index := text.utf8ByteSize - byteCount h.rest + h.extra
    let (line, column) := placeOf text.toUTF8.toList index
    .error ⟨h.fault, line, column⟩

end JsonValue

end MailFormula
