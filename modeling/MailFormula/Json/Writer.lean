import MailFormula.Decimal.Shortest
import MailFormula.Json.Basic
/-!
# Writing JSON

Two layouts of one grammar: compact, without any blanks, and spread over lines with two blanks of
indentation per level. Characters outside ASCII are written as they are.
-/

namespace MailFormula.JsonValue

/-- The digits of a number below sixteen. -/
def hexDigit (n : Nat) : Char := "0123456789abcdef".toList.getD n '0'

/-- A character inside a string. -/
def escapeChar (c : Char) : List Char :=
  match c with
  | '"' => ['\\', '"']
  | '\\' => ['\\', '\\']
  | '\n' => ['\\', 'n']
  | '\r' => ['\\', 'r']
  | '\t' => ['\\', 't']
  | '\x08' => ['\\', 'b']
  | '\x0c' => ['\\', 'f']
  | c =>
    if c.toNat < 0x20 then ['\\', 'u', '0', '0', hexDigit (c.toNat / 16), hexDigit (c.toNat % 16)]
    else [c]

/-- A string with its quotes. -/
def quoted (s : String) : List Char := '"' :: s.toList.flatMap escapeChar ++ ['"']

/-- Numbers of at most sixteen places, and with at most four zeros after the point, are written
without an exponent; an exponent has its sign. -/
def numberStyle : Decimal.PlaceStyle := ⟨16, 5, "+"⟩

/-- The text of a floating-point number; one without a decimal has none. -/
def floatText (x : Float) : String :=
  match Decimal.Binary.ofBits x.toBits with
  | some b => b.text numberStyle
  | none => "null"

/-- A value that has no parts. -/
def scalarChars : JsonValue → List Char
  | null => "null".toList
  | boolean b => (if b then "true" else "false").toList
  | integer n => (toString n).toList
  | float x => (floatText x).toList
  | string s => quoted s
  | array _ => ['[', ']']
  | object _ => ['\x7b', '\x7d']

mutual
/-- A value without blanks. -/
def compact : JsonValue → List Char
  | array items => '[' :: compactItems items ++ [']']
  | object members => '\x7b' :: compactMembers members ++ ['\x7d']
  | v => scalarChars v

/-- The items of an array without blanks. -/
def compactItems : List JsonValue → List Char
  | [] => []
  | [v] => compact v
  | v :: rest => compact v ++ ',' :: compactItems rest

/-- The members of an object without blanks. -/
def compactMembers : List (String × JsonValue) → List Char
  | [] => []
  | [(k, v)] => quoted k ++ ':' :: compact v
  | (k, v) :: rest => quoted k ++ ':' :: compact v ++ ',' :: compactMembers rest
end

/-- The start of a line at a depth. -/
def lineStart (depth : Nat) : List Char := '\n' :: List.replicate (2 * depth) ' '

mutual
/-- A value spread over lines; `depth` is the level that its own closing mark stands at. -/
def pretty (depth : Nat) : JsonValue → List Char
  | array (v :: rest) =>
    '[' :: lineStart (depth + 1) ++ pretty (depth + 1) v ++ prettyItems depth rest
  | object ((k, v) :: rest) =>
    '\x7b' :: lineStart (depth + 1) ++ quoted k ++ ':' :: ' ' :: pretty (depth + 1) v ++
      prettyMembers depth rest
  | v => scalarChars v

/-- The further items of an array, each on its line, and the closing mark. -/
def prettyItems (depth : Nat) : List JsonValue → List Char
  | [] => lineStart depth ++ [']']
  | v :: rest =>
    ',' :: lineStart (depth + 1) ++ pretty (depth + 1) v ++ prettyItems depth rest

/-- The further members of an object, each on its line, and the closing mark. -/
def prettyMembers (depth : Nat) : List (String × JsonValue) → List Char
  | [] => lineStart depth ++ ['\x7d']
  | (k, v) :: rest =>
    ',' :: lineStart (depth + 1) ++ quoted k ++ ':' :: ' ' :: pretty (depth + 1) v ++
      prettyMembers depth rest
end

/-- The compact text of a value. -/
def toText (v : JsonValue) : String := String.ofList v.compact

/-- The text of a value over several lines. -/
def toPrettyText (v : JsonValue) : String := String.ofList (v.pretty 0)

end MailFormula.JsonValue
