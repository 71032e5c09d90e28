import MailFormula.Regex.CharSet
import MailFormula.Regex.Property.Age
import MailFormula.Regex.Property.Binary
import MailFormula.Regex.Property.Category
import MailFormula.Regex.Property.GraphemeBreak
import MailFormula.Regex.Property.Script
import MailFormula.Regex.Property.ScriptExtension
import MailFormula.Regex.Property.SentenceBreak
import MailFormula.Regex.Property.Word
import MailFormula.Regex.Property.WordBreak
/-!
# Character properties

What `\p` asks for by name. A name is folded before it is looked up: letters to lower case,
blanks, underscores and hyphens dropped, and a leading `is` dropped. A bare name is a binary
property, a general category or a script, tried in this order; `name=value` picks a general
category, a script, a script extension, an age or one of the three ways to break a text.
-/

namespace MailFormula.Regex

open MailFormula.Text

/-- The folded spelling of a property name. -/
def foldName (name : List Char) : String :=
  let kept := (name.filter (fun c => c.toNat < 128 && c != ' ' && c != '_' && c != '-')).map
    Char.toLower
  match name with
  | a :: b :: _ =>
    if (a == 'i' || a == 'I') && (b == 's' || b == 'S') then
      if kept.drop 2 == ['c'] then "isc" else String.ofList (kept.drop 2)
    else String.ofList kept
  | _ => String.ofList kept

/-- Looks a folded name up in a table of named sets. -/
def findNamed (table : List (List String × List String)) (name : String) : Option CharSet :=
  (table.find? (fun entry => entry.1.contains name)).map (fun entry => CharSet.ofTable entry.2)

/-- The groups of general categories that have a name of their own. -/
def categoryGroups : List (List String × List String) := [
  (["l", "letter"], ["lu", "ll", "lt", "lm", "lo"]),
  (["lc", "casedletter"], ["lu", "ll", "lt"]),
  (["m", "mark", "combiningmark"], ["mn", "mc", "me"]),
  (["n", "number"], ["nd", "nl", "no"]),
  (["p", "punctuation", "punct"], ["pc", "pd", "ps", "pe", "pi", "pf", "po"]),
  (["s", "symbol"], ["sm", "sc", "sk", "so"]),
  (["z", "separator"], ["zs", "zl", "zp"])]

/-- The union of the categories with these short names. -/
def categoryUnion (names : List String) : CharSet :=
  CharSet.ofRanges (names.flatMap fun n => ((findNamed categoryTable n).getD CharSet.none).ranges)

/-- The assigned characters. -/
def assigned : CharSet :=
  CharSet.ofRanges (categoryTable.flatMap fun entry => readRanges entry.2)

/-- The general category of a folded name. -/
def category? (name : String) : Option CharSet :=
  if name == "any" then some CharSet.any
  else if name == "assigned" then some assigned
  else if name == "ascii" then some ⟨[⟨0, 127⟩]⟩
  else if name == "cn" || name == "unassigned" then some assigned.complement
  else if name == "c" || name == "other" then
    some ((categoryUnion ["cc", "cf", "co"]).union assigned.complement)
  else
    match categoryGroups.find? (fun group => group.1.contains name) with
    | some group => some (categoryUnion group.2)
    | none => findNamed categoryTable name

/-- The property that a bare name stands for. -/
def property? (name : List Char) : Option CharSet :=
  let key := foldName name
  let binary :=
    if key == "cf" || key == "sc" || key == "lc" then none else findNamed binaryTable key
  binary <|> category? key <|> findNamed scriptTable key

/-- The characters that a version has: those that it added and those of every older version. -/
def age? (name : String) : Option CharSet :=
  let older := ageTable.takeWhile (fun entry => !entry.1.contains name)
  (ageTable[older.length]?).map fun entry =>
    CharSet.ofRanges ((older ++ [entry]).flatMap fun e => readRanges e.2)

/-- The property that a name and a value stand for. -/
def propertyValue? (name value : List Char) : Option CharSet :=
  let key := foldName value
  match foldName name with
  | "gc" | "generalcategory" => category? key
  | "sc" | "script" => findNamed scriptTable key
  | "scx" | "scriptextensions" => findNamed scriptExtensionTable key
  | "age" => age? key
  | "gcb" | "graphemeclusterbreak" => findNamed graphemeBreakTable key
  | "sb" | "sentencebreak" => findNamed sentenceBreakTable key
  | "wb" | "wordbreak" => findNamed wordBreakTable key
  | _ => none

/-! ## The classes with a letter of their own -/

/-- The characters of a word. -/
def wordSet : CharSet := CharSet.ofTable wordRanges

/-- The decimal digits. -/
def digitSet : CharSet := CharSet.ofTable digitRanges

/-- White space. -/
def blankSet : CharSet :=
  CharSet.ofTable ["9-D 20 85 A0 1680 2000-200A 2028-2029 202F 205F 3000"]

/-- The ASCII characters of a word. -/
def asciiWordSet : CharSet := CharSet.ofTable ["30-39 41-5A 5F 61-7A"]

/-- The decimal digits of ASCII. -/
def asciiDigitSet : CharSet := CharSet.ofTable ["30-39"]

/-- ASCII white space. -/
def asciiBlankSet : CharSet := CharSet.ofTable ["9-D 20"]

/-- The word characters, ready for search. -/
def wordTable : Array CodeRange := wordSet.ranges.toArray

/-- A character of a word. -/
def isWordChar (c : Char) : Bool :=
  if c.toNat < 128 then isAsciiAlphanumeric c || c == '_' else inRanges wordTable c

/-- An ASCII character of a word. -/
def isAsciiWordChar (c : Char) : Bool :=
  isAsciiAlphanumeric c || c == '_'

/-- The named ASCII classes that may stand inside a bracketed class. -/
def asciiClass? (name : String) : Option CharSet :=
  match name with
  | "alnum" => some (CharSet.ofTable ["30-39 41-5A 61-7A"])
  | "alpha" => some (CharSet.ofTable ["41-5A 61-7A"])
  | "ascii" => some (CharSet.ofTable ["0-7F"])
  | "blank" => some (CharSet.ofTable ["9 20"])
  | "cntrl" => some (CharSet.ofTable ["0-1F 7F"])
  | "digit" => some (CharSet.ofTable ["30-39"])
  | "graph" => some (CharSet.ofTable ["21-7E"])
  | "lower" => some (CharSet.ofTable ["61-7A"])
  | "print" => some (CharSet.ofTable ["20-7E"])
  | "punct" => some (CharSet.ofTable ["21-2F 3A-40 5B-60 7B-7E"])
  | "space" => some (CharSet.ofTable ["9-D 20"])
  | "upper" => some (CharSet.ofTable ["41-5A"])
  | "word" => some (CharSet.ofTable ["30-39 41-5A 5F 61-7A"])
  | "xdigit" => some (CharSet.ofTable ["30-39 41-46 61-66"])
  | _ => none

/-- Letters younger than the tables. Names of groups may hold them, though no class does. -/
def youngLetters : List String :=
  ["88F C5C CDC A7CE-A7CF A7D2 A7D4 A7F1 10940-10959 10EC5-10EC7 10EFA-10EFB 11B60-11B67",
    "11DB0-11DDB 16EA0-16EB8 16EBB-16ED3 16FF2-16FF6 187F8-187FF 18D09-18D1E 18D80-18DF2",
    "1E6C0-1E6DE 1E6E0-1E6F5 1E6FE-1E6FF 2B73A-2B73F 2CEA2-2CEAD 323B0-33479"]

/-- Numbers younger than the tables, of which the same holds. -/
def youngNumbers : List String := ["11DE0-11DE9 16FF4-16FF6"]

/-- The characters that may begin the name of a group beside the underscore. -/
def nameStartSet : CharSet :=
  ((findNamed binaryTable "alphabetic").getD CharSet.none).union (CharSet.ofTable youngLetters)

/-- The characters that may stand in the name of a group beside a few marks. -/
def nameSet : CharSet :=
  (nameStartSet.union (categoryUnion ["nd", "nl", "no"])).union (CharSet.ofTable youngNumbers)

end MailFormula.Regex
