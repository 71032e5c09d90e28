import MailFormula.Text.Ascii
import MailFormula.Time.Timestamp
/-!
# Date formats

A date format is a text with directives, each a percent sign and a letter. Reading a format gives
a list of items, or fails on a directive that does not exist; writing the items cannot fail. A
mark between the percent sign and the letter changes how a number is padded, and is allowed on
single numbers only.
-/

namespace MailFormula.Time

open MailFormula.Text

/-- How a number is filled up to its width. -/
inductive Pad where
  | bare
  | zero
  | space
deriving DecidableEq, Repr

/-- A number that can be taken from a date. -/
inductive Quantity where
  | year
  | century
  | yearOfCentury
  | weekYear
  | weekYearOfCentury
  | quarter
  | month
  | day
  | weekFromSunday
  | weekFromMonday
  | isoWeek
  | weekdayFromSunday
  | weekdayFromMonday
  | ordinal
  | hour
  | hour12
  | minute
  | second
  | nanosecond
  | timestamp
deriving DecidableEq, Repr

/-- How precisely an offset is written. -/
inductive OffsetStyle where
  /-- Hours and minutes without a colon. -/
  | compact
  /-- Hours and minutes. -/
  | minutes
  /-- Hours, minutes and seconds. -/
  | seconds
  /-- Hours only. -/
  | hours
deriving DecidableEq, Repr

/-- A piece of a format. -/
inductive Item where
  | literal (s : String)
  | number (q : Quantity) (pad : Pad)
  | weekdayName (short : Bool)
  | monthName (short : Bool)
  | halfDay (upper : Bool)
  | offset (style : OffsetStyle)
  /-- The offset as the name of the zone. -/
  | zone
  /-- The fraction of the second; it is always zero, so only its number of digits counts. -/
  | fraction (digits : Nat)
deriving DecidableEq, Repr

namespace Format

/-! ## Reading a format -/

/-- Hours, minutes and seconds. -/
def hms : List Item :=
  [.number .hour .zero, .literal ":", .number .minute .zero, .literal ":", .number .second .zero]

/-- Month, day and year of the century. -/
def mdy : List Item :=
  [.number .month .zero, .literal "/", .number .day .zero, .literal "/",
    .number .yearOfCentury .zero]

/-- Year, month and day. -/
def ymd : List Item :=
  [.number .year .zero, .literal "-", .number .month .zero, .literal "-", .number .day .zero]

/-- The items of a directive that is a single letter. -/
def letter? (c : Char) : Option (List Item) :=
  match c with
  | 'A' => some [.weekdayName false]
  | 'B' => some [.monthName false]
  | 'C' => some [.number .century .zero]
  | 'D' => some mdy
  | 'F' => some ymd
  | 'G' => some [.number .weekYear .zero]
  | 'H' => some [.number .hour .zero]
  | 'I' => some [.number .hour12 .zero]
  | 'M' => some [.number .minute .zero]
  | 'P' => some [.halfDay false]
  | 'R' => some [.number .hour .zero, .literal ":", .number .minute .zero]
  | 'S' => some [.number .second .zero]
  | 'T' => some hms
  | 'U' => some [.number .weekFromSunday .zero]
  | 'V' => some [.number .isoWeek .zero]
  | 'W' => some [.number .weekFromMonday .zero]
  | 'X' => some hms
  | 'Y' => some [.number .year .zero]
  | 'Z' => some [.zone]
  | 'a' => some [.weekdayName true]
  | 'b' => some [.monthName true]
  | 'c' =>
    some ([.weekdayName true, .literal " ", .monthName true, .literal " ", .number .day .space,
      .literal " "] ++ hms ++ [.literal " ", .number .year .zero])
  | 'd' => some [.number .day .zero]
  | 'e' => some [.number .day .space]
  | 'f' => some [.number .nanosecond .zero]
  | 'g' => some [.number .weekYearOfCentury .zero]
  | 'h' => some [.monthName true]
  | 'j' => some [.number .ordinal .zero]
  | 'k' => some [.number .hour .space]
  | 'l' => some [.number .hour12 .space]
  | 'm' => some [.number .month .zero]
  | 'n' => some [.literal "\n"]
  | 'p' => some [.halfDay true]
  | 'q' => some [.number .quarter .bare]
  | 'r' =>
    some [.number .hour12 .zero, .literal ":", .number .minute .zero, .literal ":",
      .number .second .zero, .literal " ", .halfDay true]
  | 's' => some [.number .timestamp .bare]
  | 't' => some [.literal "\t"]
  | 'u' => some [.number .weekdayFromMonday .bare]
  | 'v' =>
    some [.number .day .space, .literal "-", .monthName true, .literal "-", .number .year .zero]
  | 'w' => some [.number .weekdayFromSunday .bare]
  | 'x' => some mdy
  | 'y' => some [.number .yearOfCentury .zero]
  | 'z' => some [.offset .compact]
  | '+' => some (ymd ++ [.literal "T"] ++ hms ++ [.offset .minutes])
  | '%' => some [.literal "%"]
  | _ => none

/-- The items of a directive and the text after it; `cs` starts after the percent sign and a
possible mark. -/
def directive? (cs : List Char) : Option (List Item × List Char) :=
  match cs with
  | ':' :: ':' :: ':' :: 'z' :: rest => some ([.offset .hours], rest)
  | ':' :: ':' :: 'z' :: rest => some ([.offset .seconds], rest)
  | ':' :: 'z' :: rest => some ([.offset .minutes], rest)
  | '.' :: 'f' :: rest => some ([.literal ""], rest)
  | '.' :: '3' :: 'f' :: rest => some ([.literal ".", .fraction 3], rest)
  | '.' :: '6' :: 'f' :: rest => some ([.literal ".", .fraction 6], rest)
  | '.' :: '9' :: 'f' :: rest => some ([.literal ".", .fraction 9], rest)
  | '3' :: 'f' :: rest => some ([.fraction 3], rest)
  | '6' :: 'f' :: rest => some ([.fraction 6], rest)
  | '9' :: 'f' :: rest => some ([.fraction 9], rest)
  | c :: rest => (letter? c).map (fun items => (items, rest))
  | [] => none

/-- The padding that a mark asks for. -/
def mark? (c : Char) : Option Pad :=
  match c with
  | '-' => some .bare
  | '0' => some .zero
  | '_' => some .space
  | _ => none

/-- The items of a directive with a possible mark; `cs` starts after the percent sign. -/
def marked? (cs : List Char) : Option (List Item × List Char) :=
  match cs with
  | [] => none
  | c :: rest =>
    match mark? c with
    | none => directive? cs
    | some pad =>
      match directive? rest with
      | some ([.number q _], after) => some ([.number q pad], after)
      | _ => none

/-- Reads a format; every round reads a character or a directive. -/
def readFrom : Nat → List Char → Option (List Item)
  | 0, _ => none
  | _ + 1, [] => some []
  | rounds + 1, c :: cs =>
    if c == '%' then
      match marked? cs with
      | none => none
      | some (items, rest) => (readFrom rounds rest).map (items ++ ·)
    else (readFrom rounds cs).map (.literal (String.singleton c) :: ·)

/-- Reads a format. -/
def read (format : String) : Option (List Item) :=
  readFrom (format.length + 1) format.toList

/-! ## Writing a date -/

/-- A number of at least a given width. -/
def padded (width : Nat) (pad : Pad) (n : Nat) : String :=
  let digits := toString n
  let missing := width - digits.length
  match pad with
  | .bare => digits
  | .zero => String.ofList (List.replicate missing '0') ++ digits
  | .space => String.ofList (List.replicate missing ' ') ++ digits

/-- A signed number of at least a given width, the sign included in the width and written in any
case. -/
def signed (width : Nat) (pad : Pad) (n : Int) : String :=
  let sign := if n < 0 then "-" else "+"
  match pad with
  | .bare => sign ++ toString n.natAbs
  | .zero => sign ++ padded (width - 1) .zero n.natAbs
  | .space =>
    let text := sign ++ toString n.natAbs
    String.ofList (List.replicate (width - text.length) ' ') ++ text

/-- A year: four digits from 0 to 9999, and a sign otherwise. -/
def yearText (pad : Pad) (year : Int) : String :=
  if 0 ≤ year && year < 10000 then padded 4 pad year.toNat else signed 5 pad year

/-- A number in two places. Only the low byte counts, and a number above 99 has the character at
that distance from zero in its first place. -/
def twoPlaces (pad : Pad) (n : Int) : String :=
  let v := (n % 256).toNat
  let ones := String.singleton (Char.ofNat (48 + v % 10))
  if v / 10 == 0 then
    match pad with
    | .bare => ones
    | .space => " " ++ ones
    | .zero => "0" ++ ones
  else String.singleton (Char.ofNat (48 + v / 10)) ++ ones

/-- An unsigned or negative number of at least a given width. -/
def plain (width : Nat) (pad : Pad) (n : Int) : String :=
  if n < 0 then
    let text := "-" ++ toString n.natAbs
    match pad with
    | .bare => text
    | .zero => "-" ++ padded (width - 1) .zero n.natAbs
    | .space => String.ofList (List.replicate (width - text.length) ' ') ++ text
  else padded width pad n.toNat

/-- The hour on a clock of twelve. -/
def hourOfHalf (hour : Nat) : Nat :=
  if hour % 12 == 0 then 12 else hour % 12

/-- A number of a timestamp. -/
def quantityText (t : Timestamp) (pad : Pad) (q : Quantity) : String :=
  let d := t.date
  let c := t.clock
  match q with
  | .year => yearText pad d.year
  | .century => twoPlaces pad (d.year / 100)
  | .yearOfCentury => twoPlaces pad (d.year % 100)
  | .weekYear => yearText pad d.isoWeek.1
  | .weekYearOfCentury => twoPlaces pad (d.isoWeek.1 % 100)
  | .quarter => toString ((d.month - 1) / 3 + 1)
  | .month => twoPlaces pad d.month
  | .day => twoPlaces pad d.day
  | .weekFromSunday => twoPlaces pad (d.weekFrom d.daysFromSunday)
  | .weekFromMonday => twoPlaces pad (d.weekFrom d.daysFromMonday)
  | .isoWeek => twoPlaces pad d.isoWeek.2
  | .weekdayFromSunday => toString d.daysFromSunday
  | .weekdayFromMonday => toString (d.daysFromMonday + 1)
  | .ordinal => padded 3 pad d.ordinal
  | .hour => twoPlaces pad c.hour
  | .hour12 => twoPlaces pad (hourOfHalf c.hour)
  | .minute => twoPlaces pad c.minute
  | .second => twoPlaces pad c.second
  | .nanosecond => padded 9 pad 0
  | .timestamp => plain 9 pad t.seconds

/-- An offset in a given style. With minutes the seconds are rounded, with hours all below is cut
off. -/
def offsetText (style : OffsetStyle) (offset : Int) : String :=
  let sign := if offset < 0 then "-" else "+"
  let n := offset.natAbs
  let minutes := (n + 30) / 60
  let two := padded 2 .zero
  match style with
  | .compact => sign ++ two (minutes / 60) ++ two (minutes % 60)
  | .minutes => sign ++ two (minutes / 60) ++ ":" ++ two (minutes % 60)
  | .seconds => sign ++ two (n / 3600) ++ ":" ++ two (n / 60 % 60) ++ ":" ++ two (n % 60)
  | .hours => sign ++ two (n / 3600)

/-- An offset as the name of a zone: seconds are written only when there are some. -/
def zoneText (offset : Int) : String :=
  if offset.natAbs % 60 == 0 then offsetText .minutes offset else offsetText .seconds offset

/-- An item of a timestamp. -/
def itemText (t : Timestamp) : Item → String
  | .literal s => s
  | .number q pad => quantityText t pad q
  | .weekdayName short =>
    let name := weekdayNames.getD t.date.daysFromMonday ""
    if short then shortName name else name
  | .monthName short =>
    let name := monthNames.getD (t.date.month - 1) ""
    if short then shortName name else name
  | .halfDay upper =>
    if t.clock.hour < 12 then (if upper then "AM" else "am") else (if upper then "PM" else "pm")
  | .offset style => offsetText style t.offset
  | .zone => zoneText t.offset
  | .fraction digits => String.ofList (List.replicate digits '0')

/-- A timestamp written by a list of items. -/
def write (t : Timestamp) (items : List Item) : String :=
  String.join (items.map (itemText t))

end Format

/-- The text of a timestamp in the layout of mail headers. -/
def Timestamp.text (t : Timestamp) : String :=
  Format.write t [.weekdayName true, .literal ", ", .number .day .zero, .literal " ",
    .monthName true, .literal " ", .number .year .zero, .literal " ", .number .hour .zero,
    .literal ":", .number .minute .zero, .literal ":", .number .second .zero, .literal " ",
    .offset .compact]

end MailFormula.Time
