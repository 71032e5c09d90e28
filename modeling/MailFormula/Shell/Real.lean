import MailFormula.Shell.Octets
/-!
# Binary floating point

Numbers of double precision, kept exactly: a sign, a mantissa and a power of two. A text is read as
the number nearest to what it writes, and a number is written to any count of places. Both round a
half to the even neighbour.
-/

namespace MailFormula.Shell

open MailFormula.Text

/-- A number of double precision. -/
inductive Real where
  | finite (isNegative : Bool) (mantissa : Nat) (exponent : Int)
  | infinite (isNegative : Bool)
  | notANumber (isNegative : Bool)
deriving DecidableEq, Repr

/-- A quotient of numbers rounded to a whole one; a half goes to the even neighbour. -/
def roundQuotient (num den : Nat) : Nat :=
  let q := num / den
  let r := 2 * (num % den)
  if r < den then q else if den < r then q + 1 else if q % 2 == 0 then q else q + 1

/-- The quotient `num · 2^e / den` rounded to a whole number. -/
def roundScaled (num den : Nat) (e : Int) : Nat :=
  if 0 ≤ e then roundQuotient (num * Nat.pow 2 e.toNat) den
  else roundQuotient num (den * Nat.pow 2 (-e).toNat)

/-- The number nearest to a quotient, and whether that is too large or too small to be had
exactly. -/
def nearest (isNegative : Bool) (num den : Nat) : Real × Bool :=
  if num == 0 then (.finite isNegative 0 0, false)
  else
    -- The power of two for which the mantissa has 53 bits, but not below the least there is.
    let guess : Int := (Nat.log2 num : Int) - Nat.log2 den - 53
    let fits (q : Int) : Bool := roundScaled num den (-q) < Nat.pow 2 53
    let q := max (-1074) (if fits guess then guess else guess + 1)
    let m := roundScaled num den (-q)
    let (m, q) := if m == Nat.pow 2 53 then (Nat.pow 2 52, q + 1) else (m, q)
    let exact : Bool :=
      if 0 ≤ q then num == m * Nat.pow 2 q.toNat * den else num * Nat.pow 2 (-q).toNat == m * den
    if 971 < q then (.infinite isNegative, true)
    else (.finite isNegative m q, m < Nat.pow 2 52 && !exact)

/-- The number nearest to digits with a power of ten or two. Beyond some thousands a power makes no
difference. -/
def nearestPower (isNegative : Bool) (digits : Nat) (base : Nat) (power : Int) : Real × Bool :=
  let power := max (-20000) (min power 20000)
  if 0 ≤ power then nearest isNegative (digits * Nat.pow base power.toNat) 1
  else nearest isNegative digits (Nat.pow base (-power).toNat)

/-- The exponent that a text starts with after its mark, and the rest; without digits there is
none. -/
def readExponent (marks : List Char) (cs : Octets) : Int × Octets :=
  match cs with
  | c :: rest =>
    if !marks.contains c then (0, cs)
    else
      let (isNegative, ds) := match rest with
        | '-' :: ds => (true, ds)
        | '+' :: ds => (false, ds)
        | ds => (false, ds)
      let digits := ds.takeWhile isAsciiDigit
      if digits.isEmpty then (0, cs)
      else
        let n : Int := decimalValue digits
        (if isNegative then -n else n, ds.drop digits.length)
  | [] => (0, cs)

/-- Digits with a point among them: all of them, how many stand after the point, and the rest. -/
def readDigits (isDigit : Char → Bool) (cs : Octets) : Octets × Nat × Octets :=
  let whole := cs.takeWhile isDigit
  match cs.drop whole.length with
  | '.' :: rest =>
    let part := rest.takeWhile isDigit
    if whole.isEmpty && part.isEmpty then ([], 0, cs)
    else (whole ++ part, part.length, rest.drop part.length)
  | rest => (whole, 0, rest)

/-- Whether a text starts with a word, in any letter case. -/
def startsWith (word : String) (cs : Octets) : Bool :=
  word.toList.isPrefixOf ((cs.take word.length).map Char.toLower)

/-- The number that a text starts with after blanks, the rest after it, and whether it was out of
range. -/
def Real.read (cs : Octets) : Option (Real × Octets × Bool) :=
  let (isNegative, cs) := match cs.dropWhile isWhite with
    | '-' :: ds => (true, ds)
    | '+' :: ds => (false, ds)
    | ds => (false, ds)
  let decimal : Option (Real × Octets × Bool) :=
    let (digits, places, rest) := readDigits isAsciiDigit cs
    if digits.isEmpty then none
    else
      let (e, rest) := readExponent ['e', 'E'] rest
      let (r, out) := nearestPower isNegative (decimalValue digits) 10 (e - places)
      some (r, rest, out)
  if startsWith "infinity" cs then some (.infinite isNegative, cs.drop 8, false)
  else if startsWith "inf" cs then some (.infinite isNegative, cs.drop 3, false)
  else if startsWith "nan" cs then
    let rest := cs.drop 3
    let rest := match rest with
      | '(' :: more =>
        let name := more.takeWhile isNameChar
        match more.drop name.length with
        | ')' :: after => after
        | _ => rest
      | _ => rest
    some (.notANumber isNegative, rest, false)
  else if startsWith "0x" cs then
    let (digits, places, rest) := readDigits isHex (cs.drop 2)
    if digits.isEmpty then decimal
    else
      let (e, rest) := readExponent ['p', 'P'] rest
      let (r, out) := nearestPower isNegative (hexNumber digits) 2 (e - 4 * places)
      some (r, rest, out)
  else decimal

/-! ## Writing -/

/-- The number `m · 2^q` times a power of ten, rounded to a whole number. -/
def scaled (m : Nat) (q : Int) (power : Int) : Nat :=
  if 0 ≤ power then roundScaled (m * Nat.pow 10 power.toNat) 1 q
  else roundScaled m (Nat.pow 10 (-power).toNat) q

/-- Digits with a point before the last so many. -/
def pointed (digits : Octets) (places : Nat) (keepPoint : Bool) : Octets :=
  let digits := fill (places + 1 - digits.length) '0' ++ digits
  let whole := digits.take (digits.length - places)
  if places == 0 then (if keepPoint then whole ++ ['.'] else whole)
  else whole ++ '.' :: digits.drop (digits.length - places)

/-- A number with a fixed count of places. -/
def fixedText (m : Nat) (q : Int) (places : Nat) (keepPoint : Bool) : Octets :=
  pointed (decimalText (scaled m q places)) places keepPoint

/-- The digits of a number, one before the point and so many after it, and its power of ten. -/
def scientific (m : Nat) (q : Int) (places : Nat) : Octets × Int :=
  if m == 0 then (fill (places + 1) '0', 0)
  else
    -- A first guess at the power from the count of bits, then at most two steps up.
    let bits : Int := (Nat.log2 m : Int) + q
    let guess : Int := Int.fdiv (bits * 30103) 100000 - 1
    let tooLarge (k : Int) : Bool := Nat.pow 10 (places + 1) ≤ scaled m q (places - k)
    let k := if !tooLarge guess then guess
      else if !tooLarge (guess + 1) then guess + 1 else guess + 2
    (decimalText (scaled m q (places - k)), k)

/-- An exponent with its sign, of so many digits at least. -/
def exponentText (width : Nat) (e : Int) : Octets :=
  let digits := decimalText e.natAbs
  (if e < 0 then '-' else '+') :: (fill (width - digits.length) '0' ++ digits)

/-- A number with a power of ten. -/
def powerText (m : Nat) (q : Int) (places : Nat) (keepPoint : Bool) : Octets :=
  let (digits, k) := scientific m q places
  pointed digits places keepPoint ++ 'e' :: exponentText 2 k

/-- Digits after a point without the zeros at their end, and without a point that stands last. -/
def dropZeros (cs : Octets) : Octets :=
  if !cs.contains '.' then cs
  else
    let back := cs.reverse.dropWhile (· = '0')
    (if back.head? = some '.' then back.drop 1 else back).reverse

/-- A number with so many digits that count, with a power of ten if it is large or small. -/
def generalText (m : Nat) (q : Int) (count : Nat) (keepZeros : Bool) : Octets :=
  let count := max count 1
  let (digits, k) := scientific m q (count - 1)
  let strip (cs : Octets) : Octets := if keepZeros then cs else dropZeros cs
  if -4 ≤ k && k < count then strip (fixedText m q (count - 1 - k).toNat keepZeros)
  else strip (pointed digits (count - 1) keepZeros) ++ 'e' :: exponentText 2 k

/-- A number with hexadecimal digits and a power of two. -/
def hexText (m : Nat) (q : Int) (places : Option Nat) (keepPoint : Bool) : Octets :=
  -- The mantissa as 53 bits: one before the point and thirteen digits after it.
  let (m, q) :=
    if m == 0 then (0, -52)
    else
      let shift := min (52 - Nat.log2 m) (q + 1074).toNat
      (m * Nat.pow 2 shift, q - shift)
  let rounded := match places with
    | some p =>
      if p < 13 then roundQuotient m (Nat.pow 16 (13 - p)) * Nat.pow 16 (13 - p) else m
    | none => m
  let digits := fill (13 - (Nat.toDigits 16 (rounded % Nat.pow 2 52)).length) '0' ++
    Nat.toDigits 16 (rounded % Nat.pow 2 52)
  let digits := match places with
    | some p => digits.take p ++ fill (p - 13) '0'
    | none => (digits.reverse.dropWhile (· = '0')).reverse
  let lead := decimalText (rounded / Nat.pow 2 52)
  let point := if digits.isEmpty && !keepPoint then [] else ['.']
  lead ++ point ++ digits ++ 'p' :: exponentText 1 (q + 52)

end MailFormula.Shell
