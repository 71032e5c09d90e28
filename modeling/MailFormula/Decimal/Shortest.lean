/-!
# Shortest decimals

A binary floating-point number stands for an interval of reals that round to it. Its shortest
decimal is the one with the fewest digits in that interval, and of those the one nearest to the
number. For each count of digits, only the two neighbours of the number on the grid with so many
digits have to be tried: if any point of the grid lies in the interval, one of the two does.
-/

namespace MailFormula.Decimal

/-- A finite binary number `mantissa * 2 ^ exponent`, with its sign. -/
structure Binary where
  negative : Bool
  mantissa : Nat
  exponent : Int
  /-- Whether the next smaller number is only half as far away as the next larger one. -/
  narrowBelow : Bool
deriving DecidableEq, Repr

/-- The parts of a number in the 64-bit format; infinities and non-numbers have none. -/
def Binary.ofBits (bits : UInt64) : Option Binary :=
  let n := bits.toNat
  let fraction : Nat := n % Nat.pow 2 52
  let field : Nat := n / Nat.pow 2 52 % Nat.pow 2 11
  let negative := n / Nat.pow 2 63 == 1
  if field = Nat.pow 2 11 - 1 then none
  else if field = 0 then some ⟨negative, fraction, -1074, false⟩
  else some ⟨negative, fraction + Nat.pow 2 52, (field : Int) - 1075, fraction == 0 && field != 1⟩

/-- A positive decimal `digits * 10 ^ exponent`. -/
structure Scaled where
  digits : Nat
  exponent : Int
deriving DecidableEq, Repr

/-- Multiplies a fraction by a power of ten. -/
def scale (num den : Nat) (power : Int) : Nat × Nat :=
  if 0 ≤ power then (num * Nat.pow 10 power.toNat, den) else (num, den * Nat.pow 10 (-power).toNat)

/-- How many factors of ten a fraction below one lacks to reach one; `steps` bounds the search. -/
def tensMissing (num den : Nat) : Nat → Nat
  | 0 => 0
  | steps + 1 => if den ≤ num then 0 else tensMissing (num * 10) den steps + 1

/-- The power of ten just below a positive fraction. -/
def leadingPower (num den : Nat) : Int :=
  if den ≤ num then ((toString (num / den)).length : Int) - 1
  else -(tensMissing num den 400 : Nat)

/-- The decimal with this many digits that is nearest to a number and lies in its interval. All
bounds are in quarters of the last binary place. -/
def onGrid (b : Binary) (count : Nat) : Option Scaled :=
  let unit : Nat × Nat :=
    if 0 ≤ b.exponent then (Nat.pow 2 b.exponent.toNat, 4)
    else (1, 4 * Nat.pow 2 (-b.exponent).toNat)
  let middle := 4 * b.mantissa
  let low := if b.narrowBelow then middle - 1 else middle - 2
  let high := middle + 2
  let power := leadingPower (middle * unit.1) unit.2 - ((count : Int) - 1)
  let (num, den) := scale (middle * unit.1) unit.2 (-power)
  let (stepNum, stepDen) := scale unit.1 unit.2 (-power)
  let inside (d : Nat) : Bool :=
    if b.mantissa % 2 = 0 then low * stepNum ≤ d * stepDen && d * stepDen ≤ high * stepNum
    else low * stepNum < d * stepDen && d * stepDen < high * stepNum
  let below := num / den
  let above := below + 1
  let nearerBelow :=
    2 * (num - below * den) < den || (2 * (num - below * den) = den && below % 2 = 0)
  let first := if nearerBelow then below else above
  let second := if nearerBelow then above else below
  if inside first then some ⟨first, power⟩
  else if inside second then some ⟨second, power⟩
  else none

/-- Drops zeros at the end of the digits. -/
def dropZeros : Nat → Scaled → Scaled
  | 0, s => s
  | steps + 1, s =>
    if s.digits ≠ 0 && s.digits % 10 = 0 then dropZeros steps ⟨s.digits / 10, s.exponent + 1⟩ else s

/-- The shortest decimal of a number that is not zero. Seventeen digits are always enough. -/
def shortest (b : Binary) : Scaled :=
  match (List.range 17).findSome? (fun k => onGrid b (k + 1)) with
  | some s => dropZeros 20 s
  | none => ⟨b.mantissa, b.exponent⟩

/-- Where positional notation is used: for numbers below `10 ^ most` and, below one, with fewer
than `leastZeros` zeros after the point. `plus` stands before an exponent that is not negative. -/
structure PlaceStyle where
  most : Int
  leastZeros : Int
  plus : String

/-- The text of an exponent. -/
def exponentText (style : PlaceStyle) (e : Int) : String :=
  "e" ++ (if e < 0 then "" else style.plus) ++ toString e

/-- The text of digits with the point after the first `point` of them. Without positional
notation, the point stands after the first digit and an exponent follows. -/
def positional (style : PlaceStyle) (s : Scaled) : String :=
  let digits := toString s.digits
  let count : Int := digits.length
  let point := count + s.exponent
  if 0 ≤ s.exponent && point ≤ style.most then
    digits ++ String.ofList (List.replicate s.exponent.toNat '0') ++ ".0"
  else if 0 < point && point ≤ style.most then
    String.ofList (digits.toList.take point.toNat) ++ "." ++
      String.ofList (digits.toList.drop point.toNat)
  else if -style.leastZeros < point && point ≤ 0 then
    "0." ++ String.ofList (List.replicate (-point).toNat '0') ++ digits
  else if digits.length = 1 then digits ++ exponentText style (point - 1)
  else
    String.ofList (digits.toList.take 1) ++ "." ++ String.ofList (digits.toList.drop 1) ++
      exponentText style (point - 1)

/-- The text of a finite number; zero keeps its sign. -/
def Binary.text (style : PlaceStyle) (b : Binary) : String :=
  (if b.negative then "-" else "") ++
    (if b.mantissa = 0 then "0.0" else positional style (shortest b))

end MailFormula.Decimal
