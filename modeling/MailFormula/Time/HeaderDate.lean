import MailFormula.Text.Ascii
import MailFormula.Text.Blank
import MailFormula.Time.Timestamp
/-!
# Dates in headers

Reading the date of a mail header, such as `Tue, 1 Oct 2024 09:30:00 +0200 (CEST)`. The weekday
and the seconds may be missing, zones may have one of a few old names, and comments may follow. A
date that cannot be read has a reason, and the first reason met from left to right counts; a
value out of its range is noticed as soon as it is read, and a date that does not exist or does
not fall on its weekday at the end.
-/

namespace MailFormula.Time

open MailFormula.Text

/-- Why a date cannot be read. -/
inductive DateFault where
  | invalid
  | tooShort
  | tooLong
  | outOfRange
  | impossible
deriving DecidableEq, Repr

/-- The reason in words. -/
def DateFault.message : DateFault → String
  | invalid => "input contains invalid characters"
  | tooShort => "premature end of input"
  | tooLong => "trailing input"
  | outOfRange => "input is out of range"
  | impossible => "no possible date and time matching input"

namespace HeaderDate

/-- A step of reading. -/
abbrev Step (α : Type) := Except DateFault (α × List Char)

/-- Reads up to `most` digits, at least `least`. A number must fit into 63 bits. -/
def digits (least most : Nat) (cs : List Char) : Step Nat :=
  if byteCount cs < least then .error .tooShort
  else
    let ds := (cs.take most).takeWhile isAsciiDigit
    if (UInt64.size / 2 ≤ decimalValue ds : Bool) then .error .outOfRange
    else if ds.length < least then .error .invalid
    else .ok (decimalValue ds, cs.drop ds.length)
where
  /-- The number of bytes that the characters take. -/
  byteCount (cs : List Char) : Nat := cs.foldl (fun n c => n + c.utf8Size) 0

/-- At least one blank. -/
def blanks (cs : List Char) : Except DateFault (List Char) :=
  match cs with
  | [] => .error .tooShort
  | c :: rest => if isBlank c then .ok (dropBlanks rest) else .error .invalid

/-- One given character. -/
def mark (m : Char) (cs : List Char) : Except DateFault (List Char) :=
  match cs with
  | [] => .error .tooShort
  | c :: rest => if c == m then .ok rest else .error .invalid

/-- The place in a list of names whose first three letters begin the text, in any case. -/
def nameIndex? (names : List String) (cs : List Char) : Option Nat :=
  let key := (cs.take 3).map Char.toLower
  names.findIdx? (fun name => (shortName name).toList.map Char.toLower == key)

/-- The name of a month, from 1. -/
def month (cs : List Char) : Step Nat :=
  match nameIndex? monthNames cs with
  | some i => .ok (i + 1, cs.drop 3)
  | none => .error (if digits.byteCount cs < 3 then .tooShort else .invalid)

/-- A weekday with its comma, if one stands here. -/
def weekday (cs : List Char) : Step (Option Nat) :=
  match nameIndex? weekdayNames cs with
  | none => .ok (none, cs)
  | some i =>
    match cs.drop 3 with
    | ',' :: rest => .ok (some i, rest)
    | _ => .error .invalid

/-- The hours that an old zone name stands for. -/
def zoneHours? (name : String) : Option Int :=
  match name with
  | "gmt" | "ut" | "z" => some 0
  | "edt" => some (-4)
  | "est" | "cdt" => some (-5)
  | "cst" | "mdt" => some (-6)
  | "mst" | "pdt" => some (-7)
  | "pst" => some (-8)
  | _ => none

/-- An offset: a sign and four digits. -/
def numericZone (cs : List Char) : Step Int :=
  match cs with
  | [] => .error .tooShort
  | sign :: rest =>
    if sign != '+' && sign != '-' then .error .invalid
    else
      match rest with
      | h1 :: h2 :: minutes =>
        if !(isAsciiDigit h1 && isAsciiDigit h2) then .error .invalid
        else
          match minutes with
          | m1 :: m2 :: after =>
            if !(isAsciiDigit m1 && isAsciiDigit m2) then .error .invalid
            else if '6' ≤ m1 then .error .outOfRange
            else
              let size : Int := decimalValue [h1, h2] * 3600 + decimalValue [m1, m2] * 60
              .ok (if sign == '-' then -size else size, after)
          | [c] => .error (if c.utf8Size < 2 then .tooShort else .invalid)
          | [] => .error .tooShort
      | [c] => .error (if c.utf8Size < 2 then .tooShort else .invalid)
      | [] => .error .tooShort

/-- A zone: an old name, a single letter other than J, or an offset. -/
def zone (cs : List Char) : Step Int :=
  match cs.takeWhile isAsciiAlpha with
  | [] => numericZone cs
  | name =>
    let lowered := String.ofList (name.map Char.toLower)
    match zoneHours? lowered with
    | some h => .ok (h * 3600, cs.drop name.length)
    | none =>
      if name.length == 1 && lowered != "j" then .ok (0, cs.drop name.length)
      else .error .invalid

/-- What follows a comment that is open to a depth of `depth + 1`. -/
def afterComment : Nat → List Char → Option (List Char)
  | _, [] => none
  | depth, '\\' :: _ :: cs => afterComment depth cs
  | _, ['\\'] => none
  | depth, '(' :: cs => afterComment (depth + 1) cs
  | 0, ')' :: cs => some cs
  | depth + 1, ')' :: cs => afterComment depth cs
  | depth, _ :: cs => afterComment depth cs

/-- Skips comments; every round skips one. -/
def skipComments : Nat → List Char → List Char
  | 0, cs => cs
  | rounds + 1, cs =>
    match dropBlanks cs with
    | '(' :: inside =>
      match afterComment 0 inside with
      | some rest => skipComments rounds rest
      | none => cs
    | _ => cs

/-- The year that digits mean: two of them lie between 1950 and 2049, three count from 1900. -/
def fullYear (count value : Nat) : Nat :=
  if count == 2 then (if value < 50 then value + 2000 else value + 1900)
  else if count == 3 then value + 1900
  else value

/-- Refuses a value outside its range. -/
def within (least most value : Nat) : Except DateFault Unit :=
  if least ≤ value && value ≤ most then .ok () else .error .outOfRange

/-- The seconds, if a colon stands here. -/
def seconds (cs : List Char) : Except DateFault (Nat × List Char) :=
  match mark ':' (dropBlanks cs) with
  | .error _ => .ok (0, cs)
  | .ok rest => do
    let (second, rest) ← digits 2 2 rest
    within 0 60 second
    .ok (second, rest)

/-- The last year of the calendar. -/
def lastYear : Nat := 262142

/-- The last second of the calendar, in UTC. -/
def lastSecond : Int := (Timestamp.ofLocal ⟨lastYear, 12, 31⟩ 23 59 59 0 false).seconds

/-- Reads a date from characters. -/
def readChars (cs : List Char) : Except DateFault Timestamp := do
  let (day?, rest) ← weekday (dropBlanks cs)
  let (day, rest) ← digits 1 2 (dropBlanks rest)
  within 1 31 day
  let rest ← blanks rest
  let (month, rest) ← month rest
  let rest ← blanks rest
  let (value, after) ← digits 2 rest.length rest
  let year := fullYear (rest.length - after.length) value
  within 0 0x7FFFFFFF year
  let rest ← blanks after
  let (hour, rest) ← digits 2 2 rest
  within 0 23 hour
  let rest ← mark ':' (dropBlanks rest)
  let (minute, rest) ← digits 2 2 (dropBlanks rest)
  within 0 59 minute
  let (second, rest) ← seconds rest
  let rest ← blanks rest
  let (offset, rest) ← zone rest
  if !(skipComments rest.length rest).isEmpty then .error .tooLong
  else if lastYear < year || daysInMonth year month < day then .error .outOfRange
  else
    let date : Date := ⟨year, month, day⟩
    if day?.getD date.daysFromMonday != date.daysFromMonday then .error .impossible
    else if 86400 ≤ offset.natAbs then .error .outOfRange
    else
      let t := Timestamp.ofLocal date hour minute (if second == 60 then 59 else second) offset
        (second == 60)
      if t.seconds ≤ lastSecond then .ok t else .error .impossible

/-- Reads a date. -/
def read (text : String) : Except DateFault Timestamp := readChars text.toList

end HeaderDate

end MailFormula.Time
