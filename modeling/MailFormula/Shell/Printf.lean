import MailFormula.Shell.Arithmetic
import MailFormula.Shell.Real
/-!
# Formatted printing

The escapes of `echo` and the directives of `printf`. The format is used again as long as it takes
arguments and some are left. An argument that is no number is told and counts as far as it is one.
-/

namespace MailFormula.Shell

open MailFormula.Text

/-- The octet of an escape that is one letter. -/
def letterEscape? (c : Char) : Option Char :=
  match c with
  | '\\' => some '\\'
  | 'a' => some '\x07'
  | 'b' => some '\x08'
  | 'e' => some '\x1b'
  | 'f' => some '\x0c'
  | 'n' => some '\n'
  | 'r' => some '\r'
  | 't' => some '\t'
  | 'v' => some '\x0b'
  | _ => none

/-- The octet of an escape after its backslash, and the text after it. A backslash that starts no
escape stands for itself. -/
def readEscape (cs : Octets) : Char × Octets :=
  match cs with
  | [] => ('\\', [])
  | c :: rest =>
    if isOctal c then
      let digits := (cs.take 3).takeWhile isOctal
      (Char.ofNat (octalValue digits % 256), cs.drop digits.length)
    else
      match letterEscape? c with
      | some d => (d, rest)
      | none => ('\\', cs)

/-- A text with its escapes, onto `done` backwards, and whether output goes on after it; `\c` ends
it. A zero may stand before the digits of an octal escape. `steps` bounds the length. -/
def unescapeFrom : Nat → Octets → Octets → Octets × Bool
  | 0, done, _ => (done.reverse, true)
  | _ + 1, done, [] => (done.reverse, true)
  | steps + 1, done, c :: rest =>
    if c ≠ '\\' then unescapeFrom steps (c :: done) rest
    else
      match rest with
      | 'c' :: _ => (done.reverse, false)
      | _ =>
        let digits := match rest with
          | '0' :: d :: more => if isOctal d then d :: more else rest
          | _ => rest
        let (d, rest) := readEscape digits
        unescapeFrom steps (d :: done) rest

/-- A text with its escapes, and whether output goes on after it. -/
def unescape (cs : Octets) : Octets × Bool := unescapeFrom (cs.length + 1) [] cs

/-- The output of `echo`. -/
def echo (args : List Octets) : Octets :=
  let (isOpen, args) := match args with
    | ['-', 'n'] :: rest => (true, rest)
    | _ => (false, args)
  let (text, goesOn) := unescape (List.intercalate [' '] args)
  if goesOn && !isOpen then text ++ ['\n'] else text

/-! ## Fields -/

/-- How a directive fits its text into a field. -/
structure Field where
  left : Bool := false
  zero : Bool := false
  plus : Bool := false
  blank : Bool := false
  alternate : Bool := false
  width : Nat := 0
  places : Option Nat := none

/-- Reads the flags of a directive. -/
def readFlags (f : Field) : Octets → Field × Octets
  | '-' :: rest => readFlags { f with left := true } rest
  | '0' :: rest => readFlags { f with zero := true } rest
  | '+' :: rest => readFlags { f with plus := true } rest
  | ' ' :: rest => readFlags { f with blank := true } rest
  | '#' :: rest => readFlags { f with alternate := true } rest
  | rest => (f, rest)

/-- Fits a text into a field. -/
def Field.fit (f : Field) (cs : Octets) : Octets :=
  let filler := fill (f.width - cs.length) ' '
  if f.left then cs ++ filler else filler ++ cs

/-- Fits a number into a field: what stands before it, and its digits. Zeros fill the field between
the two. -/
def Field.fitZeros (f : Field) (front digits : Octets) : Octets :=
  if f.zero && !f.left then
    front ++ fill (f.width - front.length - digits.length) '0' ++ digits
  else f.fit (front ++ digits)

/-- The sign of a number. -/
def Field.sign (f : Field) (isNegative : Bool) : Octets :=
  if isNegative then ['-'] else if f.plus then ['+'] else if f.blank then [' '] else []

/-- Fits a whole number into a field. Where the least count of digits is said, zeros make it up and
none fill the field, and a zero of no digits is nothing. -/
def Field.fitInteger (f : Field) (front digits : Octets) : Octets :=
  match f.places with
  | none => f.fitZeros front digits
  | some n =>
    let digits := if n == 0 && digits == ['0'] then [] else digits
    f.fit (front ++ fill (n - digits.length) '0' ++ digits)

/-- Digits in capital letters, if asked for. -/
def capitals (upper : Bool) (cs : Octets) : Octets := if upper then cs.map Char.toUpper else cs

/-- A number of double precision in a field. -/
def Field.fitReal (f : Field) (letter : Char) (r : Real) : Octets :=
  let upper := letter.isUpper
  let words (isNegative : Bool) (w : String) : Octets :=
    f.fit (f.sign isNegative ++ capitals upper w.toList)
  match r with
  | .infinite isNegative => words isNegative "inf"
  | .notANumber isNegative => words isNegative "nan"
  | .finite isNegative m q =>
    let places := f.places.getD 6
    let sign := f.sign isNegative
    match letter.toLower with
    | 'f' => f.fitZeros sign (fixedText m q places f.alternate)
    | 'e' => f.fitZeros sign (capitals upper (powerText m q places f.alternate))
    | 'g' => f.fitZeros sign (capitals upper (generalText m q places f.alternate))
    | _ =>
      f.fitZeros (sign ++ capitals upper ['0', 'x'])
        (capitals upper (hexText m q f.places f.alternate))

/-! ## Arguments -/

/-- What is wrong with an argument that should be a number. -/
inductive NumberFault where
  | missing
  | incomplete
  | outOfRange
deriving DecidableEq, Repr

/-- What is wrong, in words. -/
def NumberFault.text : NumberFault → String
  | missing => "expected numeric value"
  | incomplete => "not completely converted"
  | outOfRange => "Numerical result out of range"

/-- What is wrong with an argument, given what is left of it after its number, if it starts with
one. -/
def numberFault (arg : Octets) (rest : Option Octets) (isOut : Bool) : Option NumberFault :=
  match rest with
  | none => if arg.isEmpty then none else some .missing
  | some [] => if isOut then some .outOfRange else none
  | some _ => some .incomplete

/-- The code of the character after a quote. -/
def quotedCode? (arg : Octets) : Option Nat :=
  match arg with
  | '\'' :: c :: _ => some c.toNat
  | '"' :: c :: _ => some c.toNat
  | ['\''] | ['"'] => some 0
  | _ => none

/-- The whole number that an argument writes, within bounds. -/
def argumentInteger (isSigned : Bool) (arg : Octets) : Int × Option NumberFault :=
  match quotedCode? arg with
  | some n => (n, none)
  | none =>
    match readInteger arg with
    | none => (0, numberFault arg none false)
    | some (n, rest) =>
      let value : Int :=
        if isSigned then clamp64 n
        else if UInt64.size ≤ n.natAbs then UInt64.size - 1
        else n % UInt64.size
      let isOut : Bool := if isSigned then clamp64 n != n else UInt64.size ≤ n.natAbs
      (value, numberFault arg (some rest) isOut)

/-- The number of double precision that an argument writes. -/
def argumentReal (arg : Octets) : Real × Option NumberFault :=
  match quotedCode? arg with
  | some n => ((nearest false n 1).1, none)
  | none =>
    match Real.read arg with
    | none => (.finite false 0 0, numberFault arg none false)
    | some (r, rest, isOut) => (r, numberFault arg (some rest) isOut)

/-! ## Formats -/

/-- What `printf` has done so far: its output backwards, the arguments left, whether this pass over
the format has taken one, and what it says about them, last first. -/
structure Print where
  done : Octets := []
  args : List Octets
  hasTaken : Bool := false
  faults : List Octets := []

/-- Adds to the output. -/
def Print.put (p : Print) (cs : Octets) : Print := { p with done := cs.reverse ++ p.done }

/-- Tells what is wrong with an argument. -/
def Print.tell (p : Print) (arg : Octets) : Option NumberFault → Print
  | none => p
  | some fault => { p with faults := (arg ++ ": ".toList ++ fault.text.toList) :: p.faults }

/-- Takes a whole number from the arguments. -/
def Print.takeInteger (p : Print) (isSigned : Bool) : Int × Print :=
  match p.args with
  | [] => (0, p)
  | arg :: args =>
    let (n, fault) := argumentInteger isSigned arg
    (n, ({ p with args, hasTaken := true }).tell arg fault)

/-- How one pass over a format ends. -/
inductive PassEnd where
  | over
  | stopped
  /-- It is no format; what is wrong with it is told. -/
  | refused (message : Octets)

/-- Reads a width or a count of places, which may be taken from the arguments. -/
def readCount (p : Print) (cs : Octets) : Option Int × Print × Octets :=
  match cs with
  | '*' :: rest =>
    let (n, p) := p.takeInteger true
    -- Such a number has 32 bits.
    (some (Int.bmod n UInt32.size), p, rest)
  | _ =>
    let digits := cs.takeWhile isAsciiDigit
    (if digits.isEmpty then none else some (decimalValue digits : Int), p, cs.drop digits.length)

/-- Does what the letter of a directive asks for; nothing is known of other letters. -/
def directive (p : Print) (f : Field) (letter : Char) : Option (Print × Bool) :=
  let arg := p.args.headD []
  let rest : Print := { p with args := p.args.tail, hasTaken := true }
  let cut (cs : Octets) : Octets := (f.places.map cs.take).getD cs
  match letter with
  | 's' => some (rest.put (f.fit (cut arg)), true)
  | 'c' => some (rest.put (f.fit [arg.headD '\x00']), true)
  | 'b' =>
    let (text, goesOn) := unescape arg
    some (rest.put (f.fit (cut text)), goesOn)
  | 'd' | 'i' =>
    let (n, p) := p.takeInteger true
    some (p.put (f.fitInteger (f.sign (n < 0)) (decimalText n.natAbs)), true)
  | 'u' =>
    let (n, p) := p.takeInteger false
    some (p.put (f.fitInteger [] (decimalText n.natAbs)), true)
  | 'o' =>
    let (n, p) := p.takeInteger false
    let digits := Nat.toDigits 8 n.natAbs
    -- The other form starts with a zero, which counts as a digit.
    let lacks := f.alternate && n != 0 && f.places.getD 0 ≤ digits.length
    let f := if f.alternate && f.places == some 0 then { f with places := some 1 } else f
    some (p.put (f.fitInteger [] (if lacks then '0' :: digits else digits)), true)
  | 'x' | 'X' =>
    let (n, p) := p.takeInteger false
    let front := if f.alternate && n != 0 then ['0', letter] else []
    some (p.put (f.fitInteger front (capitals (letter == 'X') (Nat.toDigits 16 n.natAbs))), true)
  | 'a' | 'A' | 'e' | 'E' | 'f' | 'F' | 'g' | 'G' =>
    match p.args with
    | [] => some (p.put (f.fitReal letter (.finite false 0 0)), true)
    | arg :: _ =>
      let (r, fault) := argumentReal arg
      some ((rest.tell arg fault).put (f.fitReal letter r), true)
  | _ => none

/-- One pass over a format. `steps` bounds its length. -/
def formatPass : Nat → Print → Octets → Print × PassEnd
  | 0, p, _ => (p, .over)
  | _ + 1, p, [] => (p, .over)
  | steps + 1, p, c :: rest =>
    if c == '\\' then
      let (d, rest) := readEscape rest
      formatPass steps (p.put [d]) rest
    else if c != '%' then formatPass steps (p.put [c]) rest
    else
      match rest with
      | '%' :: rest => formatPass steps (p.put ['%']) rest
      | _ =>
        let (f, after) := readFlags {} rest
        let (width, p, after) := readCount p after
        let (places, p, after) :=
          match after with
          | '.' :: after =>
            let (n, p, after) := readCount p after
            (some (n.getD 0), p, after)
          | _ => (none, p, after)
        -- A negative width is one to the left, and a negative count of places is none.
        let f := match width with
          | some n =>
            if n < 0 then { f with left := true, width := n.natAbs }
            else { f with width := n.toNat }
          | none => f
        let f := { f with places := places.bind (fun n => if n < 0 then none else some n.toNat) }
        match after with
        | [] => (p, .refused "missing format character".toList)
        | letter :: after =>
          match directive p f letter with
          | none =>
            let shown := '%' :: rest.take (rest.length - after.length)
            (p, .refused (shown ++ ": invalid directive".toList))
          | some (p, true) => formatPass steps p after
          | some (p, false) => (p, .stopped)

/-- Passes over the format until the arguments are used up. Every pass but the last takes at least
one argument. -/
def formatAll (format : Octets) : Nat → Print → Print × PassEnd
  | 0, p => (p, .over)
  | rounds + 1, p =>
    match formatPass (format.length + 1) { p with hasTaken := false } format with
    | (after, .over) =>
      if !after.args.isEmpty && after.hasTaken then formatAll format rounds after
      else (after, .over)
    | ended => ended

/-- The output of `printf`, what it says, and its status. -/
def printf (format : Octets) (args : List Octets) : Octets × List Octets × Nat :=
  match formatAll format (args.length + 1) { args } with
  | (p, .refused message) => (p.done.reverse, p.faults.reverse ++ [message], 2)
  | (p, _) => (p.done.reverse, p.faults.reverse, if p.faults.isEmpty then 0 else 1)

end MailFormula.Shell
