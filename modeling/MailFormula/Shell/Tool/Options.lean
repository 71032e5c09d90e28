import MailFormula.Shell.Octets
/-!
# Options of tools

Options start with a dash: letters after one dash, a word after two. A word may be cut short as long
as it can mean only one option. Options and operands may be mixed, unless the tool asks for the
options first; two dashes alone end the options.
-/

namespace MailFormula.Shell

/-- A long option: its word, the letter that means the same, and whether it takes a value. -/
structure LongOption where
  word : String
  letter : Char
  takesValue : Bool := false

/-- The options that a tool knows. -/
structure OptionTable where
  tool : String
  letters : List Char
  words : List LongOption
  /-- Whether the first operand ends the options. -/
  optionsFirst : Bool := false

/-- Options as letters with their values, and operands. -/
structure Arguments where
  options : List (Char × Octets) := []
  operands : List Octets := []

namespace OptionTable

/-- The words that tell of a fault in the options, on two lines. -/
def refusal (t : OptionTable) (message : Octets) : Octets :=
  (t.tool ++ ": ").toList ++ message ++
    ("\nTry '" ++ t.tool ++ " --help' for more information.\n").toList

/-- Reads the letters of an option. -/
def readLetters (t : OptionTable) (options : List (Char × Octets)) :
    Octets → Except Octets (List (Char × Octets))
  | [] => .ok options
  | c :: cs =>
    if t.letters.contains c then t.readLetters (options ++ [(c, [])]) cs
    else .error ("invalid option -- '".toList ++ [c, '\''])

/-- The long option that a word means; faults are told with all of the text that it starts. -/
def findWord (t : OptionTable) (word text : Octets) : Except Octets LongOption :=
  match t.words.find? (fun o => o.word.toList == word) with
  | some o => .ok o
  | none =>
    match t.words.filter (fun o => word.isPrefixOf o.word.toList) with
    | [] => .error ("unrecognized option '--".toList ++ text ++ ['\''])
    | [o] => .ok o
    | several =>
      let names := several.flatMap (fun o => (" '--" ++ o.word ++ "'").toList)
      .error ("option '--".toList ++ text ++ "' is ambiguous; possibilities:".toList ++ names)

/-- Reads arguments. -/
def read (t : OptionTable) (a : Arguments) : List Octets → Except Octets Arguments
  | [] => .ok a
  | arg :: rest =>
    match arg with
    | ['-', '-'] => .ok { a with operands := a.operands ++ rest }
    | '-' :: '-' :: text => do
      let word := text.takeWhile (· ≠ '=')
      let o ← t.findWord word text
      let name := ("'--" ++ o.word ++ "'").toList
      if o.takesValue then
        match text.drop word.length, rest with
        | _ :: v, rest => t.read { a with options := a.options ++ [(o.letter, v)] } rest
        | [], v :: rest => t.read { a with options := a.options ++ [(o.letter, v)] } rest
        | [], [] => .error ("option ".toList ++ name ++ " requires an argument".toList)
      else if word.length < text.length then
        .error ("option ".toList ++ name ++ " doesn't allow an argument".toList)
      else t.read { a with options := a.options ++ [(o.letter, [])] } rest
    | '-' :: c :: cs => do
      let options ← t.readLetters a.options (c :: cs)
      t.read { a with options } rest
    | operand =>
      if t.optionsFirst then .ok { a with operands := a.operands ++ arg :: rest }
      else t.read { a with operands := a.operands ++ [operand] } rest

end OptionTable

/-- Whether an option is asked for. -/
def Arguments.has (a : Arguments) (letter : Char) : Bool := a.options.any (fun o => o.1 == letter)

/-- The value of the last option of a letter. -/
def Arguments.value? (a : Arguments) (letter : Char) : Option Octets :=
  (a.options.filter (fun o => o.1 == letter)).getLast?.map Prod.snd

end MailFormula.Shell
