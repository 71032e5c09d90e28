import MailFormula.Mail.Flag
import MailFormula.Text.Ascii
/-!
# Built-in functions

The names that a formula can call without defining them. A built-in has a name, a rule for how
many arguments it takes, and the least part of the message that it needs. Several names may share
a behaviour and differ in a parameter only: `Add` and `Subtract` are one behaviour with two
signs, and the twelve flag functions one behaviour with twelve bits.

Names are looked up without regard to the case of ASCII letters.
-/

namespace MailFormula

open MailFormula.Text

/-- How much of a message is needed, from nothing to all of it. -/
inductive Hint where
  | none
  | header
  | text
  | all
deriving DecidableEq, Repr

namespace Hint

/-- The place of a hint in the order from nothing to all. -/
def rank : Hint → Nat
  | none => 0
  | header => 1
  | text => 2
  | all => 3

instance : LE Hint := ⟨fun a b => a.rank ≤ b.rank⟩

instance (a b : Hint) : Decidable (a ≤ b) := inferInstanceAs (Decidable (a.rank ≤ b.rank))

/-- The larger of two hints. -/
def max (a b : Hint) : Hint := if a ≤ b then b else a

/-- The name of a hint. -/
def name : Hint → String
  | none => "None"
  | header => "Header"
  | text => "Text"
  | all => "All"

theorem le_def {a b : Hint} : a ≤ b ↔ a.rank ≤ b.rank := Iff.rfl

theorem le_refl (a : Hint) : a ≤ a := Nat.le_refl _

theorem le_trans {a b c : Hint} (h : a ≤ b) (k : b ≤ c) : a ≤ c := Nat.le_trans h k

theorem max_le_iff {a b c : Hint} : max a b ≤ c ↔ a ≤ c ∧ b ≤ c := by
  unfold max
  split
  · rename_i h
    exact ⟨fun k => ⟨le_trans h k, k⟩, fun k => k.2⟩
  · rename_i h
    have h' : b ≤ a := by simp only [le_def] at h ⊢; omega
    exact ⟨fun k => ⟨k, le_trans h' k⟩, fun k => k.1⟩

end Hint

/-- The argument counts that a function accepts. -/
inductive Arity where
  | exactly (n : Nat)
  /-- Between two bounds, both included. -/
  | between (least most : Nat)
  | atLeast (n : Nat)
  /-- The function checks the count itself. -/
  | any
deriving DecidableEq, Repr

/-- Whether a function accepts this many arguments. -/
def Arity.accepts : Arity → Nat → Bool
  | exactly n, count => count == n
  | between least most, count => least ≤ count && count ≤ most
  | atLeast n, count => n ≤ count
  | any, _ => true

/-- What a built-in does. -/
inductive Builtin where
  | choose
  | conjunction
  | disjunction
  | negation
  | constant (value : Bool)
  | progn
  | loop
  | exit
  | recover
  | defun
  | eval
  | includeFile
  | forEach
  | findEach
  | set
  | variableValue
  | additive (subtract : Bool)
  | equal
  | relative (less orEqual : Bool)
  | contain (atStart : Bool)
  | find
  | concat
  | length
  | substring
  | replace
  | quote
  | regex
  | regexFind
  | regexMatch
  | regexReplace
  | group
  | field
  | header
  | address
  | name
  | body
  | part
  | partCount
  | attachment
  | id
  | size
  | date
  | folder
  | account
  | messages
  | selected
  | flag (f : Flag)
  | thread
  | execute
  | load
  | save
  | profile
  | setProfile
  | inputBox
  | messageBox
  | now
  | formatDate
deriving DecidableEq, Repr

/-- Whether a built-in receives its arguments unevaluated. -/
def Builtin.isLazy : Builtin → Bool
  | choose | conjunction | disjunction | loop | recover | defun | forEach | findEach => true
  | _ => false

/-- The entry of one public name. -/
structure Signature where
  name : String
  arity : Arity
  hint : Hint
  builtin : Builtin
deriving DecidableEq, Repr

namespace Signature

/-- Every built-in under every name it has. -/
def all : List Signature := [
  ⟨"If", .any, .none, .choose⟩,
  ⟨"And", .atLeast 1, .none, .conjunction⟩,
  ⟨"Or", .atLeast 1, .none, .disjunction⟩,
  ⟨"Not", .exactly 1, .none, .negation⟩,
  ⟨"True", .exactly 0, .none, .constant true⟩,
  ⟨"False", .exactly 0, .none, .constant false⟩,
  ⟨"Progn", .atLeast 1, .none, .progn⟩,
  ⟨"While", .exactly 2, .none, .loop⟩,
  ⟨"Exit", .exactly 0, .none, .exit⟩,
  ⟨"Catch", .exactly 2, .none, .recover⟩,
  ⟨"Defun", .exactly 2, .none, .defun⟩,
  ⟨"Eval", .exactly 1, .none, .eval⟩,
  ⟨"Include", .exactly 1, .none, .includeFile⟩,
  ⟨"ForEach", .exactly 2, .none, .forEach⟩,
  ⟨"FindEach", .between 2 3, .none, .findEach⟩,
  ⟨"Set", .between 2 3, .none, .set⟩,
  ⟨"Variable", .between 1 3, .none, .variableValue⟩,
  ⟨"Add", .exactly 2, .none, .additive false⟩,
  ⟨"Plus", .exactly 2, .none, .additive false⟩,
  ⟨"Subtract", .exactly 2, .none, .additive true⟩,
  ⟨"Minus", .exactly 2, .none, .additive true⟩,
  ⟨"Equal", .between 2 3, .none, .equal⟩,
  ⟨"Less", .between 2 3, .none, .relative true false⟩,
  ⟨"LessEqual", .between 2 3, .none, .relative true true⟩,
  ⟨"Greater", .between 2 3, .none, .relative false false⟩,
  ⟨"GreaterEqual", .between 2 3, .none, .relative false true⟩,
  ⟨"Contain", .between 2 3, .none, .contain false⟩,
  ⟨"BeginWith", .between 2 3, .none, .contain true⟩,
  ⟨"Find", .between 2 4, .none, .find⟩,
  ⟨"Concat", .any, .none, .concat⟩,
  ⟨"Length", .exactly 1, .none, .length⟩,
  ⟨"Substring", .between 2 3, .none, .substring⟩,
  ⟨"Replace", .between 3 4, .none, .replace⟩,
  ⟨"Quote", .exactly 2, .none, .quote⟩,
  ⟨"Regex", .between 1 2, .none, .regex⟩,
  ⟨"RegexFind", .between 2 3, .none, .regexFind⟩,
  ⟨"RegexMatch", .exactly 2, .none, .regexMatch⟩,
  ⟨"RegexReplace", .between 3 4, .none, .regexReplace⟩,
  ⟨"Group", .exactly 1, .none, .group⟩,
  ⟨"Field", .exactly 1, .header, .field⟩,
  ⟨"Header", .between 0 1, .header, .header⟩,
  ⟨"Address", .exactly 1, .none, .address⟩,
  ⟨"Name", .exactly 1, .none, .name⟩,
  ⟨"Body", .between 0 1, .text, .body⟩,
  ⟨"Part", .between 1 2, .all, .part⟩,
  ⟨"PartCount", .between 0 1, .all, .partCount⟩,
  ⟨"Attachment", .between 0 1, .all, .attachment⟩,
  ⟨"Id", .exactly 0, .none, .id⟩,
  ⟨"Size", .exactly 0, .none, .size⟩,
  ⟨"Date", .exactly 0, .none, .date⟩,
  ⟨"Folder", .between 0 1, .none, .folder⟩,
  ⟨"Account", .exactly 0, .none, .account⟩,
  ⟨"Messages", .between 0 1, .none, .messages⟩,
  ⟨"Selected", .exactly 0, .none, .selected⟩,
  ⟨"Seen", .between 0 1, .none, .flag .seen⟩,
  ⟨"Replied", .between 0 1, .none, .flag .replied⟩,
  ⟨"Forwarded", .between 0 1, .none, .flag .forwarded⟩,
  ⟨"Sent", .between 0 1, .none, .flag .sent⟩,
  ⟨"Draft", .between 0 1, .none, .flag .draft⟩,
  ⟨"Marked", .between 0 1, .none, .flag .marked⟩,
  ⟨"Deleted", .between 0 1, .none, .flag .deleted⟩,
  ⟨"Junk", .between 0 1, .none, .flag .junk⟩,
  ⟨"User1", .between 0 1, .none, .flag .user1⟩,
  ⟨"User2", .between 0 1, .none, .flag .user2⟩,
  ⟨"User3", .between 0 1, .none, .flag .user3⟩,
  ⟨"User4", .between 0 1, .none, .flag .user4⟩,
  ⟨"Thread", .between 0 1, .none, .thread⟩,
  ⟨"Execute", .between 1 2, .none, .execute⟩,
  ⟨"Load", .exactly 1, .none, .load⟩,
  ⟨"Save", .exactly 2, .none, .save⟩,
  ⟨"Profile", .between 2 3, .none, .profile⟩,
  ⟨"SetProfile", .exactly 3, .none, .setProfile⟩,
  ⟨"InputBox", .between 1 3, .none, .inputBox⟩,
  ⟨"MessageBox", .between 1 2, .none, .messageBox⟩,
  ⟨"Now", .exactly 0, .none, .now⟩,
  ⟨"FormatDate", .exactly 2, .none, .formatDate⟩]

/-- The entries beside their names in lower case. -/
def index : List (String × Signature) :=
  all.map (fun s => (asciiLower s.name, s))

/-- The entry of a name, in any case. -/
def find? (name : String) : Option Signature :=
  index.lookup (asciiLower name)

/-- The names of all entries, sorted by their lower-case spelling. -/
def names : List String :=
  (index.mergeSort (fun a b => a.1 ≤ b.1)).map (fun entry => entry.2.name)

end Signature

end MailFormula
