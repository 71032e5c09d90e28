import MailFormula.Text.Ascii
import MailFormula.Text.Lines
/-!
# Content types

The value of a content header: a main part, then parameters after semicolons. A semicolon inside
double quotes does not separate, and a value keeps everything between its quotes as it stands.
-/

namespace MailFormula

open MailFormula.Text

/-- The media type of a part and its parameters, in order. -/
structure ContentType where
  mediaType : String
  subType : String
  params : List (String × String)
deriving DecidableEq, Repr

namespace ContentType

/-- Plain text, the type of a part that names none. -/
def plain : ContentType := ⟨"text", "plain", []⟩

/-- Cuts a value at the semicolons outside double quotes; `current` holds the piece so far in
reverse. -/
def piecesFrom (quoted : Bool) (current : List Char) : List Char → List (List Char)
  | [] => [current.reverse]
  | c :: cs =>
    if c == '"' then piecesFrom (!quoted) (c :: current) cs
    else if c == ';' && !quoted then current.reverse :: piecesFrom quoted [] cs
    else piecesFrom quoted (c :: current) cs

/-- The pieces of a value. -/
def pieces (cs : List Char) : List (List Char) := piecesFrom false [] cs

/-- The text between a leading and a trailing quote, or the text as it is. -/
def unquote (cs : List Char) : List Char :=
  match cs with
  | '"' :: inner => if inner.getLast? == some '"' then inner.dropLast else cs
  | _ => cs

/-- The parameter that a piece writes, if it has an equals sign. -/
def param? (piece : List Char) : Option (String × String) :=
  (splitOnce '=' piece).map fun (key, value) =>
    (String.ofList (trimChars key), String.ofList (unquote (trimChars value)))

/-- The parameters of a value: all pieces after the first that have an equals sign. -/
def paramsOf (cs : List Char) : List (String × String) := ((pieces cs).drop 1).filterMap param?

/-- Reads the characters of a content type. Without a slash the type is plain text, but the
parameters count all the same. -/
def readChars (cs : List Char) : ContentType :=
  match splitOnce '/' ((pieces cs).headD []) with
  | some (main, sub) =>
    ⟨asciiLower (String.ofList (trimChars main)), asciiLower (String.ofList (trimChars sub)),
      paramsOf cs⟩
  | none => ⟨"text", "plain", paramsOf cs⟩

/-- Reads a content type. -/
def read (value : String) : ContentType := readChars value.toList

/-- The first of some parameters with this name, in any case. -/
def findParam (params : List (String × String)) (name : String) : Option String :=
  (params.find? (fun p => sameName p.1 name)).map Prod.snd

/-- The value that a piece writes, if it has this key, in any case. -/
def valueUnder? (name : String) (piece : List Char) : Option String :=
  match splitOnce '=' piece with
  | some (key, value) =>
    if sameName (String.ofList (trimChars key)) name then
      some (String.ofList (unquote (trimChars value)))
    else none
  | none => none

/-- The value of a parameter. -/
def param (t : ContentType) (name : String) : Option String := findParam t.params name

/-- Whether this is the given type; a star stands for every subtype. -/
def is (t : ContentType) (mediaType subType : String) : Bool :=
  sameName t.mediaType mediaType && (subType == "*" || sameName t.subType subType)

end ContentType

/-- A parameter of a header value that need not name a type: the first piece behind a semicolon
that has this key settles it. -/
def headerParam (value name : String) : Option String :=
  ((ContentType.pieces value.toList).drop 1).findSome? (ContentType.valueUnder? name)

end MailFormula
