import MailFormula.Shell.Octets
/-!
# Arithmetic

Expressions over integers of 64 bits, with the operators and their ranks as usual, and variables
that are texts. An operand that does not count is read but not looked at: the other side of a
choice, or what follows a conjunction that has failed already.
-/

namespace MailFormula.Shell

open MailFormula.Text

/-- A token of an expression. -/
inductive ArithToken where
  | number (n : Int)
  | name (cs : Octets)
  | mark (text : String)
  | finish
  /-- Something that is no token. -/
  | bad
deriving DecidableEq, Repr

/-- What is left of an expression, and the variables that it has changed, last first. -/
structure ArithState where
  rest : Octets
  token : ArithToken := .finish
  values : List (Octets × Octets)

/-- Why an expression has no value. -/
inductive ArithFault where
  /-- Told with the expression. -/
  | expression (message : String)
  /-- The value of a variable that is no number. -/
  | illegalNumber (text : Octets)

/-- Evaluating an expression. -/
abbrev Arith := StateT ArithState (Except ArithFault)

/-- A number as an integer of 64 bits. -/
def wrap64 (n : Int) : Int := Int.bmod n UInt64.size

/-- A number as the nearest integer of 64 bits. -/
def clamp64 (n : Int) : Int := max (-(Nat.pow 2 63 : Int)) (min n (Nat.pow 2 63 - 1))

/-- The digits of a number after its sign, in the base that they announce, and the rest. A mark of a
base without digits after it is only a zero. -/
def readMagnitude (cs : Octets) : Option (Nat × Octets) :=
  let hex (ds rest : Octets) : Option (Nat × Octets) :=
    let digits := ds.takeWhile isHex
    if digits.isEmpty then some (0, rest) else some (hexNumber digits, ds.drop digits.length)
  match cs with
  | '0' :: 'x' :: ds => hex ds ('x' :: ds)
  | '0' :: 'X' :: ds => hex ds ('X' :: ds)
  | '0' :: ds =>
    let digits := ds.takeWhile isOctal
    some (octalValue digits, ds.drop digits.length)
  | ds =>
    let digits := ds.takeWhile isAsciiDigit
    if digits.isEmpty then none else some (decimalValue digits, ds.drop digits.length)

/-- The integer that a text starts with, after blanks and a sign, and the rest. -/
def readInteger (cs : Octets) : Option (Int × Octets) :=
  match cs.dropWhile isWhite with
  | '-' :: ds => (readMagnitude ds).map (fun (n, rest) => (-(n : Int), rest))
  | '+' :: ds => (readMagnitude ds).map (fun (n, rest) => ((n : Int), rest))
  | ds => (readMagnitude ds).map (fun (n, rest) => ((n : Int), rest))

/-- The marks of an expression, longer ones first. -/
def arithMarks : List String :=
  ["<<=", ">>=", "||", "&&", "==", "!=", "<=", ">=", "<<", ">>", "*=", "/=", "%=", "+=", "-=",
    "&=", "^=", "|=", "*", "/", "%", "+", "-", "<", ">", "&", "^", "|", "!", "~", "(", ")", "?",
    ":", "="]

/-- The token that an expression starts with, and the rest. -/
def arithToken (cs : Octets) : ArithToken × Octets :=
  let cs := cs.dropWhile (fun c => c == ' ' || c == '\t' || c == '\n')
  match cs with
  | [] => (.finish, [])
  | c :: _ =>
    if isAsciiDigit c then
      match readMagnitude cs with
      | some (n, rest) => (.number (clamp64 n), rest)
      | none => (.bad, cs)
    else if isNameStart c then
      let name := cs.takeWhile isNameChar
      (.name name, cs.drop name.length)
    else
      match arithMarks.find? (fun m => m.toList.isPrefixOf cs) with
      | some m => (.mark m, cs.drop m.length)
      | none => (.bad, cs)

/-- Goes on to the next token. -/
def nextArith : Arith Unit := do
  let s ← get
  let (token, rest) := arithToken s.rest
  set { s with token, rest }

/-- Refuses an expression. -/
def refuseArith {α : Type} (message : String) : Arith α := throw (.expression message)

/-- The number that a variable holds; one that is empty or not there is zero. -/
def variableNumber (name : Octets) : Arith Int := do
  let text := ((← get).values.lookup name).getD []
  if text.all isWhite then return 0
  else
    match readInteger text with
    | some (n, rest) =>
      if rest.all isWhite && n == clamp64 n then return n else throw (.illegalNumber text)
    | none => throw (.illegalNumber text)

/-- The rank of an operator with two operands: the lower, the tighter it binds. -/
def rank? (m : String) : Option Nat :=
  if ["*", "/", "%"].contains m then some 0
  else if ["+", "-"].contains m then some 1
  else if ["<<", ">>"].contains m then some 2
  else if ["<", "<=", ">", ">="].contains m then some 3
  else if ["==", "!="].contains m then some 4
  else if m == "&" then some 5
  else if m == "^" then some 6
  else if m == "|" then some 7
  else none

/-- The value of an operator with two operands. -/
def operate (m : String) (a b : Int) : Arith Int :=
  let truth (p : Bool) : Arith Int := return if p then 1 else 0
  let x := Int64.ofInt a
  let y := Int64.ofInt b
  match m with
  | "*" => return wrap64 (a * b)
  | "/" => if b == 0 then refuseArith "division by zero" else return wrap64 (a.tdiv b)
  | "%" => if b == 0 then refuseArith "division by zero" else return wrap64 (a.tmod b)
  | "+" => return wrap64 (a + b)
  | "-" => return wrap64 (a - b)
  | "<<" => return (x <<< Int64.ofInt (b % 64)).toInt
  | ">>" => return (x >>> Int64.ofInt (b % 64)).toInt
  | "<" => truth (a < b)
  | "<=" => truth (a ≤ b)
  | ">" => truth (b < a)
  | ">=" => truth (b ≤ a)
  | "==" => truth (a == b)
  | "!=" => truth (a != b)
  | "&" => return (x &&& y).toInt
  | "^" => return (x ^^^ y).toInt
  | _ => return (x ||| y).toInt

/-- The operator inside one that also assigns. -/
def assignOperator? (m : String) : Option String :=
  if ["*=", "/=", "%=", "+=", "-=", "<<=", ">>=", "&=", "^=", "|="].contains m then
    some (m.dropEnd 1).toString
  else none

mutual
/-- A number, a variable or something in parentheses, after signs. -/
def primary (counts : Bool) : Nat → Arith Int
  | 0 => refuseArith "expecting primary"
  | steps + 1 => do
    let s ← get
    match s.token with
    | .number n =>
      nextArith
      return n
    | .name x =>
      nextArith
      if counts then variableNumber x else return 0
    | .mark "(" =>
      nextArith
      let n ← assignmentOf counts steps
      if (← get).token != .mark ")" then refuseArith "expecting ')'"
      else
        nextArith
        return n
    | .mark "+" =>
      nextArith
      primary counts steps
    | .mark "-" =>
      nextArith
      return wrap64 (-(← primary counts steps))
    | .mark "!" =>
      nextArith
      return if (← primary counts steps) == 0 then 1 else 0
    | .mark "~" =>
      nextArith
      return -(← primary counts steps) - 1
    | _ => refuseArith "expecting primary"

/-- Operators of a rank below `bound` with their operands, after the first operand. -/
def operands (counts : Bool) (bound : Nat) : Nat → Int → Arith Int
  | 0, _ => refuseArith "expecting primary"
  | steps + 1, a => do
    match (← get).token with
    | .mark m =>
      match (rank? m).filter (· < bound) with
      | none => return a
      | some rank =>
        nextArith
        let b ← operands counts rank steps (← primary counts steps)
        let c ← if counts then operate m a b else pure b
        operands counts bound steps c
    | _ => return a

/-- A conjunction. -/
def conjunction (counts : Bool) : Nat → Arith Int
  | 0 => refuseArith "expecting primary"
  | steps + 1 => do
    let a ← operands counts 8 steps (← primary counts steps)
    if (← get).token != .mark "&&" then return a
    else
      nextArith
      let b ← conjunction (counts && a != 0) steps
      return if a != 0 && b != 0 then 1 else 0

/-- A disjunction. -/
def disjunction (counts : Bool) : Nat → Arith Int
  | 0 => refuseArith "expecting primary"
  | steps + 1 => do
    let a ← conjunction counts steps
    if (← get).token != .mark "||" then return a
    else
      nextArith
      let b ← disjunction (counts && a == 0) steps
      return if a != 0 || b != 0 then 1 else 0

/-- A choice. -/
def choice (counts : Bool) : Nat → Arith Int
  | 0 => refuseArith "expecting primary"
  | steps + 1 => do
    let a ← disjunction counts steps
    if (← get).token != .mark "?" then return a
    else
      nextArith
      let b ← assignmentOf (counts && a != 0) steps
      if (← get).token != .mark ":" then refuseArith "expecting ':'"
      else
        nextArith
        let c ← choice (counts && a == 0) steps
        return if a != 0 then b else c

/-- An assignment, or an expression without one. -/
def assignmentOf (counts : Bool) : Nat → Arith Int
  | 0 => refuseArith "expecting primary"
  | steps + 1 => do
    let s ← get
    match s.token, (arithToken s.rest).1 with
    | .name x, .mark m =>
      match (if m == "=" then some none else (assignOperator? m).map some) with
      | none => choice counts steps
      | some operator? =>
        nextArith
        nextArith
        let b ← assignmentOf counts steps
        if !counts then return b
        else
          let c ← match operator? with
            | none => pure b
            | some operator => operate operator (← variableNumber x) b
          modify fun s => { s with values := (x, integerText c) :: s.values }
          return c
    | _, _ => choice counts steps
end

/-- The value of an expression, and the variables after it. -/
def evaluateArithmetic (values : List (Octets × Octets)) (cs : Octets) :
    Except ArithFault (Int × List (Octets × Octets)) := do
  let run : Arith Int := do
    nextArith
    let n ← assignmentOf true (8 * cs.length + 8)
    if (← get).token != .finish then refuseArith "expecting EOF" else return n
  let (n, s) ← run.run { rest := cs, values }
  return (n, s.values)

end MailFormula.Shell
