import MailFormula.Action
import MailFormula.Text.Lines
import MailFormula.Text.Search
/-!
# Variables, numbers and texts

Numbers have 32 bits and arithmetic wraps around. Positions and lengths of texts count characters.
Comparing and searching ignore case unless an argument asks otherwise.
-/

namespace MailFormula.Behaviour

open MailFormula.Text

/-- An argument that may be missing, as a truth value. -/
def truthOr (args : List Value) (index : Nat) (default : Bool) : Bool :=
  (args[index]?.map Value.truth).getD default

/-- An argument that may be missing, as a number. -/
def numberOr (args : List Value) (index : Nat) (default : UInt32) : UInt32 :=
  (args[index]?.map Value.toNumber).getD default

/-- The result of a search that finds nothing. -/
def notFound : UInt32 := 0xFFFFFFFF

/-- A position as a number. -/
def positionNumber (n : Nat) : UInt32 := clampNumber n

/-! ## Variables -/

/-- Binds a variable, and gives its value. -/
def set (args : List Value) : Action Value :=
  match args with
  | name :: v :: _ => .look fun view =>
    let name := name.text view.live
    if name.isEmpty then .failAt .invalidArgValue 1
    else .request (.assign name v (truthOr args 2 false)) fun _ => .done v
  | _ => .failWith .invalidArgSize

/-- Reads a variable, or binds it when there is a value. -/
def variableValue (args : List Value) : Action Value :=
  match args with
  | [name] => .look fun view =>
    let name := name.text view.live
    if name.isEmpty then .failAt .invalidArgValue 1
    else .done ((view.scope.get? name).getD (.string ""))
  | _ => set args

/-! ## Numbers and order -/

/-- A sum or a difference. -/
def additive (subtract : Bool) : List Value → Action Value
  | [a, b] =>
    .done (.number (if subtract then a.toNumber - b.toNumber else a.toNumber + b.toNumber))
  | _ => .failWith .invalidArgSize

/-- Whether two values compare equal. -/
def equal (args : List Value) : Action Value :=
  match args with
  | a :: b :: _ => .look fun view =>
    .done (.boolean (a.compare view.live b (truthOr args 2 false) == .eq))
  | _ => .failWith .invalidArgSize

/-- Whether one value comes before another, or after it, or is also allowed to be equal. -/
def relative (less orEqual : Bool) (args : List Value) : Action Value :=
  match args with
  | a :: b :: _ => .look fun view =>
    let order := a.compare view.live b (truthOr args 2 false)
    .done (.boolean (order == (if less then .lt else .gt) || (orEqual && order == .eq)))
  | _ => .failWith .invalidArgSize

/-! ## Texts -/

/-- Whether a text contains another, or begins with it. -/
def contain (atStart : Bool) (args : List Value) : Action Value :=
  match args with
  | text :: needle :: _ => .look fun view =>
    let caseSensitive := truthOr args 2 false
    let text := text.text view.live
    let needle := needle.text view.live
    .done (.boolean
      (if atStart then beginsWith text needle caseSensitive
        else (find text needle 0 caseSensitive).isSome))
  | _ => .failWith .invalidArgSize

/-- The first position of a text in another. -/
def findText (args : List Value) : Action Value :=
  match args with
  | text :: needle :: _ => .look fun view =>
    let start := (numberOr args 2 0).toNat
    let found := find (text.text view.live) (needle.text view.live) start (truthOr args 3 false)
    .done (.number ((found.map positionNumber).getD notFound))
  | _ => .failWith .invalidArgSize

/-- All texts in one. -/
def concat (args : List Value) : Action Value :=
  .look fun view => .done (.string (String.join (args.map (Value.text view.live))))

/-- The number of characters. -/
def length : List Value → Action Value
  | [text] => .look fun view => .done (.number (positionNumber (text.text view.live).length))
  | _ => .failWith .invalidArgSize

/-- Some characters of a text, from a position on. -/
def substring (args : List Value) : Action Value :=
  match args with
  | text :: start :: _ => .look fun view =>
    let chars := (text.text view.live).toList.drop start.toNumber.toNat
    .done (.string (String.ofList (chars.take (numberOr args 2 notFound).toNat)))
  | _ => .failWith .invalidArgSize

/-- A text with every occurrence of another replaced. -/
def replace (args : List Value) : Action Value :=
  match args with
  | text :: old :: new :: _ => .look fun view =>
    .done (.string
      (replaceAll (text.text view.live) (old.text view.live) (new.text view.live)
        (truthOr args 3 false)))
  | _ => .failWith .invalidArgSize

/-- A text with a mark before every line. -/
def quote : List Value → Action Value
  | [text, mark] => .look fun view =>
    let mark := (mark.text view.live).toList
    let lines := inclusiveLines (text.text view.live).toList
    .done (.string (String.ofList (lines.flatMap (mark ++ ·))))
  | _ => .failWith .invalidArgSize

end MailFormula.Behaviour
